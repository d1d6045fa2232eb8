import Youtick.Bridge.RecordCapacityRuns
import Youtick.Lib.Text

/-!
# Bridge: what a refused call leaves

A call that is refused a record of its own has written nothing before, and nothing but the reconcile
record after; an intent that reconciles and an alarm come to the event they synthesize after other
steps, and keep what those have stored (`record_capacity`, `refused_intent_kept`).
-/

set_option autoImplicit false

namespace Youtick.Bridge.Records

open Youtick.Lib

/-! ## What a refused call has done -/

/-- The call takes the record of its own with its first transaction. An intent that reconciles and an
alarm come to an event after other steps. -/
def JobCall.direct : JobCall → Bool
  | .intent _ recovery _ => decide (recovery ≠ some "reconcile")
  | .alarm _ _ => false
  | _ => true

/-- A call that is refused a record writes nothing but the reconcile record afterwards, and a direct
call has done nothing before. -/
def Refusals (past : List Mark) : Prop :=
  ∀ newer key older, past = newer ++ .refused (some key) :: older →
    (∀ mark ∈ newer, mark = .wrote .reconcile ∨ mark = .refused none) ∧
    ∀ call, .began call ∈ older → call.direct = true → ∀ mark ∈ older, mark = .began call

/-- A call under way that was refused no record. -/
structure UnderWay (call : JobCall) (past : List Mark) : Prop where
  only : ∀ other, .began other ∈ past → other = call
  opened : ∀ key, .refused (some key) ∉ past

/-- A direct call has only begun. -/
def Untouched (call : JobCall) (past : List Mark) : Prop :=
  call.direct = true → ∀ mark ∈ past, mark = .began call

/-- The operation takes no record of its own and begins no call. -/
def RecordOp.Idle {β : Type} (op : RecordOp β) : Prop := op.takes = none ∧ op.begins = none

/-- The numbers of the calls of a run. -/
def recordNumbering : Numbering recordSystem Mark where
  taken := JobObject.requests
  own := JobObject.own
  number := fun op => op.number
  accept := fun _ => ⟨0, .accept⟩
  rest := fun call n => numbered n (handle call)
  broken := "storage_failed"
  handle_eq := fun _ => rfl
  accept_exec := by
    intro call i s n t h
    cases h
    exact ⟨rfl, rfl, fun _ => rfl⟩
  rest_uses := fun _ _ => Handler.Uses.lift _ fun _ => rfl
  exec_own := by
    intro β op i s b t h
    cases exec_acts h with
    | began call hop hpost =>
      subst hpost
      exact ⟨le_rfl, fun m hm => Function.update_of_ne hm ..⟩
    | refused hb hcheck hpost =>
      subst hpost
      exact ⟨le_rfl, fun m hm => Function.update_of_ne hm ..⟩
    | acted marks hmarks hown hothers hrequests => exact ⟨hrequests, hothers⟩
  world_own := fun e => nomatch e

section Refusal

variable {call : JobCall} {n : Nat} {α β τ : Type} {past : List Mark}

theorem UnderWay.refusals (h : UnderWay call past) : Refusals past := by
  intro newer key older heq
  refine absurd ?_ (h.opened key)
  rw [heq]
  simp

theorem UnderWay.append {marks : List Mark} (h : UnderWay call past)
    (hmarks : ∀ mark ∈ marks, mark.Changes ∨ mark = .refused none) :
    UnderWay call (marks ++ past) := by
  constructor
  · intro other hmem
    rcases List.mem_append.mp hmem with hnew | hold
    · rcases hmarks _ hnew with hchanges | hnone
      · exact hchanges.elim
      · cases hnone
    · exact h.only other hold
  · intro key hmem
    rcases List.mem_append.mp hmem with hnew | hold
    · rcases hmarks _ hnew with hchanges | hnone
      · exact hchanges.elim
      · cases hnone
    · exact h.opened key hold

/-- The refusal of a record to a call under way. -/
theorem UnderWay.refused (h : UnderWay call past) (hclean : Untouched call past)
    (key : RecordKey) : Refusals (.refused (some key) :: past) := by
  intro newer other older heq
  cases newer with
  | nil =>
    obtain ⟨-, rfl⟩ := List.cons.inj heq
    refine ⟨nofun, fun begun hbegun hdirect mark hmark => ?_⟩
    obtain rfl := h.only begun hbegun
    exact hclean hdirect mark hmark
  | cons first newer =>
    obtain ⟨-, hpast⟩ := List.cons.inj heq
    refine absurd ?_ (h.opened other)
    rw [hpast]
    simp

/-- Afterwards only the reconcile record may be written. -/
theorem Refusals.cons {mark : Mark} (h : Refusals past)
    (hmark : mark = .wrote .reconcile ∨ mark = .refused none) : Refusals (mark :: past) := by
  intro newer key older heq
  cases newer with
  | nil =>
    obtain ⟨rfl, -⟩ := List.cons.inj heq
    rcases hmark with hmark | hmark <;> cases hmark
  | cons first newer =>
    obtain ⟨rfl, hpast⟩ := List.cons.inj heq
    obtain ⟨hnewer, holder⟩ := h newer key older hpast
    refine ⟨fun other hother => ?_, holder⟩
    rcases List.mem_cons.mp hother with rfl | hother
    · exact hmark
    · exact hnewer other hother

/-- How a part of a call ends: under way, or refused a record. -/
def Ends (call : JobCall) (result : Except String τ) (past : List Mark) : Prop :=
  UnderWay call past ∨ (∃ code, result = .error code) ∧ Refusals past

theorem Ends.refusals {result : Except String τ} (h : Ends call result past) : Refusals past := by
  rcases h with hunder | ⟨-, hrefusals⟩
  · exact hunder.refusals
  · exact hrefusals

/-- Program `p` of call `n` keeps `Refusals` and ends with `Q`. -/
abbrev Minds (n : Nat) (Q : Except String τ → List Mark → Prop) (p : RecordHandler τ)
    (past : List Mark) : Prop :=
  recordNumbering.Alone Refusals n Q (numbered n p) past

/-- A program that takes no record of its own. -/
theorem idle_minds {p : RecordHandler τ} (hp : p.Uses fun op => op.Idle)
    (hpast : UnderWay call past) : Minds n (fun _ later => UnderWay call later) p past := by
  unfold Minds
  induction p generalizing past with
  | done a => exact hpast
  | raise e => exact hpast
  | act op next onError ihNext ihError =>
    refine ⟨ihError hp.2.2 hpast, fun i s b t hs hexec => ?_⟩
    change exec _ ⟨n, op⟩ i s = some (b, t) at hexec
    change s.own n = past at hs
    have hafter : UnderWay call (t.own n) := by
      cases exec_acts hexec with
      | began other hop hpost =>
        rw [hp.1.2] at hop
        cases hop
      | refused hb hcheck hpost =>
        subst hpost
        rw [own_log, hs, hp.1.1]
        have hmark : ∀ mark ∈ [Mark.refused none], mark.Changes ∨ mark = .refused none :=
          fun mark hmem => .inr (List.mem_singleton.mp hmem)
        exact hpast.append hmark
      | acted marks hmarks hown hothers hrequests =>
        rw [hown, hs]
        exact hpast.append fun mark hmark => .inl (hmarks mark hmark)
    exact ⟨hafter.refusals, ihNext b (hp.2.1 b) hafter, ihError hp.2.2 hafter⟩

theorem idle_ends {p : RecordHandler τ} (hp : p.Uses fun op => op.Idle)
    (hpast : UnderWay call past) : Minds n (Ends call) p past :=
  (idle_minds hp hpast).mono fun _ _ h => .inl h

theorem idle_of_ordinary {held : Finset RecordKey} {p : RecordHandler τ}
    (hp : p.Uses fun op => Ordinary held op) : p.Uses fun op => op.Idle :=
  hp.mono fun _ hop => ⟨hop.takes, hop.begins⟩

theorem ordinary_ends {held : Finset RecordKey} {p : RecordHandler τ}
    (hp : p.Uses fun op => Ordinary held op) (hpast : UnderWay call past) :
    Minds n (Ends call) p past :=
  idle_ends (idle_of_ordinary hp) hpast

theorem minds_bind {Q : Except String α → List Mark → Prop} {p : RecordHandler α}
    {f : α → RecordHandler β} (hp : Minds n Q p past)
    (hok : ∀ a later, Q (.ok a) later → Minds n (Ends call) (f a) later)
    (herr : ∀ code later, Q (.error code) later → UnderWay call later ∨ Refusals later) : Minds n (Ends call) (p >>= f) past := by
  unfold Minds
  rw [numbered, Handler.lift_bind]
  apply Numbering.Alone.bind hp hok
  intro code later hq
  rcases herr code later hq with hunder | hrefusals
  · exact .inl hunder
  · exact .inr ⟨⟨code, rfl⟩, hrefusals⟩

theorem ends_bind {p : RecordHandler α} {f : α → RecordHandler β}
    (hp : Minds n (Ends call) p past)
    (hf : ∀ a later, UnderWay call later → Minds n (Ends call) (f a) later) :
    Minds n (Ends call) (p >>= f) past := by
  refine minds_bind hp (fun a later hend => ?_) fun code later hend => ?_
  · rcases hend with hunder | ⟨⟨code, herror⟩, -⟩
    · exact hf a later hunder
    · cases herror
  · rcases hend with hunder | ⟨-, hrefusals⟩
    · exact .inl hunder
    · exact .inr hrefusals

/-- The rule for a program that takes no record, followed by one that may. -/
theorem ordinary_bind {held : Finset RecordKey} {p : RecordHandler α} {f : α → RecordHandler β}
    (hp : p.Uses fun op => Ordinary held op) (hpast : UnderWay call past)
    (hf : ∀ a later, UnderWay call later → Minds n (Ends call) (f a) later) :
    Minds n (Ends call) (p >>= f) past :=
  ends_bind (ordinary_ends hp hpast) hf

/-- The rule for an operation that notes nothing. -/
theorem silent_bind {op : RecordOp β} {code : String} {f : β → RecordHandler τ}
    (hop : ∀ i s b t, exec _ ⟨n, op⟩ i s = some (b, t) → t.own n = s.own n)
    (hpast : UnderWay call past) (hf : ∀ b, Minds n (Ends call) (f b) past) :
    Minds n (Ends call) (Handler.perform code op >>= f) past := by
  unfold Minds
  rw [numbered, Handler.lift_bind]
  refine ⟨.inl hpast, fun i s b t hs hexec => ?_⟩
  change exec _ ⟨n, op⟩ i s = some (b, t) at hexec
  change s.own n = past at hs
  have hown := hop i s b t hexec
  change Refusals (t.own n) ∧ Minds n (Ends call) (f b) (t.own n) ∧ Ends call _ (t.own n)
  rw [hown, hs]
  exact ⟨hpast.refusals, hf b, .inl hpast⟩

theorem ask_bind {what : String} {f : Bool → RecordHandler τ} (hpast : UnderWay call past)
    (hf : ∀ b, Minds n (Ends call) (f b) past) : Minds n (Ends call) (ask what >>= f) past := by
  refine silent_bind (fun i s b t hexec => ?_) hpast hf
  cases hexec
  rfl

theorem demand_bind {what code : String} {f : Unit → RecordHandler τ}
    (hpast : UnderWay call past) (hf : ∀ b, Minds n (Ends call) (f b) past) :
    Minds n (Ends call) (demand what code >>= f) past := by
  change Minds n (Ends call) (ask what >>= fun accepted =>
    (if accepted = true then return () else .raise code : RecordHandler Unit) >>= f) past
  refine ask_bind hpast fun accepted => ?_
  split
  · exact hf ()
  · exact .inl hpast

/-- The transaction that takes the record of an event, a nonce or an outbox entry. -/
theorem transaction_ends {op : RecordOp (Except String α)} {key : RecordKey}
    (htakes : op.takes = some key) (hbegins : op.begins = none)
    (hrefuses : ∀ b, op.Refuses b → b = .error recordLimit) (hpast : UnderWay call past)
    (hclean : Untouched call past) : Minds n (Ends call) (transaction op) past := by
  unfold Minds transaction
  rw [numbered, Handler.lift_bind]
  refine ⟨.inl hpast, fun i s b t hs hexec => ?_⟩
  change exec _ ⟨n, op⟩ i s = some (b, t) at hexec
  change s.own n = past at hs
  change Refusals (t.own n) ∧ Minds n (Ends call) (Handler.ofExcept b) (t.own n) ∧
    Ends call _ (t.own n)
  cases exec_acts hexec with
  | began other hop hpost =>
    rw [hbegins] at hop
    cases hop
  | refused hb hcheck hpost =>
    subst hpost
    obtain rfl := hrefuses b hb
    rw [own_log, hs, htakes]
    have hrefusals := hpast.refused hclean key
    exact ⟨hrefusals, .inr ⟨⟨recordLimit, rfl⟩, hrefusals⟩, .inr ⟨⟨_, rfl⟩, hrefusals⟩⟩
  | acted marks hmarks hown hothers hrequests =>
    have hafter : UnderWay call (t.own n) := by
      rw [hown, hs]
      exact hpast.append fun mark hmark => .inl (hmarks mark hmark)
    refine ⟨hafter.refusals, ?_, .inl hafter⟩
    cases b with
    | ok a => exact .inl hafter
    | error code => exact .inl hafter

theorem takeWebhook_ends {digest : String} (hpast : UnderWay call past)
    (hclean : Untouched call past) :
    Minds n (Ends call) (transaction (.takeWebhook digest)) past :=
  transaction_ends rfl rfl (fun _ h => h) hpast hclean

theorem verifyEvent_idle (digest : String) : (verifyEvent digest).Uses fun op => op.Idle := by
  have hmem : RecordKey.job ∈ ({.job} : Finset RecordKey) := Finset.mem_singleton_self _
  have hverify : verifyReadyProviderAsset.Uses fun op => Ordinary ∅ op :=
    verifyReadyProviderAsset_uses
  have hpersist (errorCode : Bool) :
      (transaction (.persistResult errorCode)).Uses fun op => Ordinary ∅ op :=
    uses_persistResult errorCode
  have hadmission : updateAdmission.Uses fun op => Ordinary ∅ op := uses_demand _ _
  have hask (what : String) : (ask what).Uses fun op => Ordinary ∅ op := uses_ask what
  apply Handler.Uses.rescue
  · refine Handler.Uses.bind (idle_of_ordinary hverify) fun verified => ?_
    split
    · refine Handler.Uses.bind (Handler.Uses.perform ⟨rfl, rfl⟩) fun _ => ?_
      refine Handler.Uses.bind (idle_of_ordinary (hpersist false)) fun _ => ?_
      refine Handler.Uses.bind (idle_of_ordinary hadmission) fun _ => ?_
      exact Handler.Uses.bind (Handler.Uses.perform ⟨rfl, rfl⟩) fun _ => trivial
    · exact Handler.Uses.bind (Handler.Uses.perform ⟨rfl, rfl⟩) fun _ => trivial
  · intro code
    refine Handler.Uses.bind (Handler.Uses.perform ⟨rfl, rfl⟩) fun _ => ?_
    refine Handler.Uses.bind (idle_of_ordinary (hpersist true)) fun _ => ?_
    refine Handler.Uses.bind (idle_of_ordinary (hask _)) fun stream => ?_
    split
    · exact Handler.Uses.bind (idle_of_ordinary (terminateStreamJob_uses hmem)) fun _ => trivial
    · trivial

theorem acceptReadiness_ends {digest : String} (hpast : UnderWay call past)
    (hclean : Untouched call past) : Minds n (Ends call) (acceptReadiness digest) past := by
  have hmem : RecordKey.job ∈ ({.job} : Finset RecordKey) := Finset.mem_singleton_self _
  refine ask_bind hpast fun legacy => ?_
  split
  · exact ordinary_ends (settleLegacyProfileJob_uses hmem) hpast
  · refine ask_bind hpast fun proven => ?_
    split
    · exact .inl hpast
    · refine ends_bind (takeWebhook_ends hpast hclean) fun seen later hlater => ?_
      split
      · refine ask_bind hlater fun uploading => ?_
        split
        · exact .inl hlater
        · exact ordinary_ends (finishEvent_uses hmem) hlater
      · refine ends_bind (idle_ends (verifyEvent_idle digest) hlater) fun verified last hlast => ?_
        split
        · exact ordinary_ends (finishEvent_uses hmem) hlast
        · exact .inl hlast

/-- Where the job is no expired job of the legacy profile nothing was done to find that out. -/
theorem expireLegacyProfileJob_minds (hpast : UnderWay call past) :
    Minds n (fun result later => UnderWay call later ∧ (result = .ok false → later = past))
      expireLegacyProfileJob past := by
  have hmem : RecordKey.job ∈ ({.job} : Finset RecordKey) := Finset.mem_singleton_self _
  unfold Minds expireLegacyProfileJob
  rw [numbered, Handler.lift_bind]
  refine ⟨⟨hpast, fun hr => by cases hr⟩, fun i s b t hs hexec => ?_⟩
  cases hexec
  change s.own n = past at hs
  subst hs
  refine ⟨hpast.refusals, ?_, ⟨hpast, fun hr => by cases hr⟩⟩
  change Minds n _ (if i.answer "isLegacyProfileJobOnMarketV2 && expirable" = true then
    expireJob >>= fun _ => pure true else pure false) (s.own n)
  split
  · unfold Minds
    rw [numbered, Handler.lift_bind]
    refine (idle_minds (idle_of_ordinary (expireJob_uses hmem)) hpast).bind
      (fun _ later hlater => ⟨hlater, fun hr => by cases hr⟩)
      fun _ _ hlater => ⟨hlater, fun hr => by cases hr⟩
  · exact ⟨hpast, fun _ => rfl⟩

theorem handleProviderEvent_ends {digest : String} (hpast : UnderWay call past)
    (hclean : Untouched call past) : Minds n (Ends call) (handleProviderEvent digest) past := by
  have hmem : RecordKey.job ∈ ({.job} : Finset RecordKey) := Finset.mem_singleton_self _
  refine ask_bind hpast fun ours => ?_
  split
  · refine minds_bind (expireLegacyProfileJob_minds hpast) (fun legacyExpired later hlater => ?_)
      fun _ _ hlater => .inl hlater.1
    obtain ⟨hunder, hsame⟩ := hlater
    split
    · exact .inl hunder
    · next hlegacy =>
        obtain rfl := hsame (by rw [Bool.eq_false_iff.mpr hlegacy])
        refine ask_bind hpast fun expired => ?_
        split
        · exact ordinary_ends (expireJob_uses hmem) hpast
        · refine ask_bind hpast fun terminal => ?_
          split
          · exact .inl hpast
          · refine ask_bind hpast fun readiness => ?_
            split
            · refine ask_bind hpast fun published => ?_
              split
              · have hfinalized : (do
                    updateAdmission
                    transaction .ensureReconcile : RecordHandler Unit).Uses fun op =>
                      Ordinary ∅ op :=
                  Handler.Uses.bind (uses_demand _ _) fun _ => uses_ensureReconcile
                exact ordinary_ends hfinalized hpast
              · exact acceptReadiness_ends hpast hclean
            · exact ordinary_ends (recordProgress_uses hmem) hpast
  · exact .inl hpast

/-- A call that is not direct asks for nothing of what it has done. -/
theorem untouched_of_not_direct (hdirect : call.direct = false) : Untouched call past := by
  intro h
  rw [hdirect] at h
  cases h

theorem runWhen_ends {due : Bool} {p : RecordHandler Unit} (hpast : UnderWay call past)
    (hp : Minds n (Ends call) p past) : Minds n (Ends call) (runWhen due p) past := by
  unfold runWhen
  split
  · exact hp
  · exact .inl hpast

theorem exec_persistResult {errorCode : Bool} {i : RecordInput} {s t : JobObject}
    {b : Except String Unit} (h : exec _ ⟨n, .persistResult errorCode⟩ i s = some (b, t)) :
    t.own n = s.own n ∨ t.own n = .wrote .reconcile :: s.own n ∨
      t.own n = .refused none :: s.own n := by
  have hout := Option.some.inj h
  split at hout
  · cases hout
    exact .inl rfl
  · rcases checked_cases hout with ⟨-, hpair⟩ | ⟨-, hpair⟩
    · cases hpair
      exact .inr (.inl (own_write _))
    · cases hpair
      exact .inr (.inr (own_log _))

/-- A call that was refused a record may still write the reconcile record. -/
theorem persist_refused {code : String} {errorCode : Bool} (hpast : Refusals past) :
    Minds n (Ends call) (do
      transaction (.persistResult errorCode)
      .raise code : RecordHandler Unit) past := by
  refine ⟨.inr ⟨⟨_, rfl⟩, hpast⟩, fun i s b t hs hexec => ?_⟩
  change exec _ ⟨n, .persistResult errorCode⟩ i s = some (b, t) at hexec
  change s.own n = past at hs
  have hafter : Refusals (t.own n) := by
    rcases exec_persistResult hexec with hown | hown | hown
    · rw [hown, hs]
      exact hpast
    · rw [hown, hs]
      exact hpast.cons (.inl rfl)
    · rw [hown, hs]
      exact hpast.cons (.inr rfl)
  refine ⟨hafter, ?_, .inr ⟨⟨_, rfl⟩, hafter⟩⟩
  cases b with
  | ok _ => exact .inr ⟨⟨_, rfl⟩, hafter⟩
  | error other => exact .inr ⟨⟨_, rfl⟩, hafter⟩

/-- The `catch` of `reconcileUpload`. -/
theorem reconcile_rescued {code : String} (hend : UnderWay call past ∨ Refusals past) :
    Minds n (Ends call) (do
      putWhen (isRetryCode code) .reconcile
      transaction (.persistResult true)
      .raise code : RecordHandler Unit) past := by
  rcases hend with hunder | hrefusals
  · have hcatch : (do
        putWhen (isRetryCode code) .reconcile
        transaction (.persistResult true)
        .raise code : RecordHandler Unit).Uses fun op => Ordinary ∅ op :=
      Handler.Uses.bind (uses_putWhen (.inl rfl)) fun _ =>
        Handler.Uses.bind (uses_persistResult _) fun _ => trivial
    exact ordinary_ends hcatch hunder
  · unfold putWhen runWhen
    split
    · refine ⟨.inr ⟨⟨_, rfl⟩, hrefusals⟩, fun i s b t hs hexec => ?_⟩
      cases hexec
      change s.own n = past at hs
      have hafter : Refusals (.wrote .reconcile :: past) := hrefusals.cons (.inl rfl)
      change Refusals ((s.write n .reconcile).own n) ∧ _ ∧
        Ends call _ ((s.write n .reconcile).own n)
      rw [own_write, hs]
      refine ⟨hafter, ?_, .inr ⟨⟨_, rfl⟩, hafter⟩⟩
      change Minds n (Ends call) _ ((s.write n .reconcile).own n)
      rw [own_write, hs]
      exact persist_refused hafter
    · exact persist_refused hrefusals

theorem tryProcessSalesSuspension_idle (jobId : String) :
    (tryProcessSalesSuspension jobId).Uses fun op => op.Idle := by
  have hask (what : String) : (ask what).Uses fun op => op.Idle :=
    Handler.Uses.perform ⟨rfl, rfl⟩
  refine Handler.Uses.bind (hask _) fun allowed => ?_
  split
  · refine Handler.Uses.bind (Handler.Uses.perform ⟨rfl, rfl⟩) fun queued => ?_
    split
    · apply Handler.Uses.rescue
      · refine Handler.Uses.bind (hask _) fun suspended => ?_
        unfold putWhen runWhen
        split
        · exact Handler.Uses.perform ⟨rfl, rfl⟩
        · trivial
      · exact fun _ => trivial
    · trivial
  · trivial

theorem viewProvider_ordinary : viewProvider.Uses fun op => Ordinary (∅ : Finset RecordKey) op := by
  apply Handler.Uses.rescue
  · refine Handler.Uses.bind verifyReadyProviderAsset_uses fun verified => ?_
    split
    · exact Handler.Uses.bind (uses_ask _) fun _ => trivial
    · trivial
  · exact fun _ => Handler.Uses.bind (uses_ask _) fun _ => trivial

section Indirect

variable (hdirect : call.direct = false)

include hdirect

theorem pollStreamUpload_ends {digest : String} (hpast : UnderWay call past) :
    Minds n (Ends call) (pollStreamUpload digest) past := by
  have hmem : RecordKey.job ∈ ({.job} : Finset RecordKey) := Finset.mem_singleton_self _
  refine ask_bind hpast fun due => ?_
  split
  · refine ask_bind hpast fun ended => ?_
    split
    · exact ordinary_ends (terminateStreamJob_uses hmem) hpast
    · refine ask_bind hpast fun ready => ?_
      split
      · exact handleProviderEvent_ends hpast (untouched_of_not_direct hdirect)
      · refine ask_bind hpast fun tracked => ?_
        refine ordinary_ends (Handler.Uses.bind (uses_putWhen (.inr hmem)) fun _ => ?_) hpast
        refine Handler.Uses.bind (uses_ask _) fun stuck => ?_
        split
        · exact terminateStreamJob_uses hmem
        · refine Handler.Uses.bind (uses_ask _) fun moved => ?_
          exact uses_putWhen (.inr hmem)
  · exact .inl hpast

theorem reconcileUpload_ends {digest : String} (hpast : UnderWay call past) :
    Minds n (Ends call) (reconcileUpload digest) past := by
  have hmem : RecordKey.job ∈ ({.job} : Finset RecordKey) := Finset.mem_singleton_self _
  refine ask_bind hpast fun stream => ?_
  split
  · exact pollStreamUpload_ends hdirect hpast
  · refine ask_bind hpast fun due => ?_
    split
    · refine ask_bind hpast fun expired => ?_
      split
      · refine ordinary_ends (Handler.Uses.bind (uses_put (.inr hmem)) fun _ => ?_) hpast
        refine Handler.Uses.bind (uses_persistResult _) fun _ => ?_
        exact uses_demand _ _
      · refine ask_bind hpast fun waiting => ?_
        split
        · exact .inl hpast
        · have hput : (put .reconcile).Uses fun op => Ordinary ∅ op := uses_put (.inl rfl)
          refine ordinary_bind hput hpast fun _ later hlater => ?_
          unfold Minds
          rw [numbered, Handler.lift_rescue]
          refine Numbering.Alone.rescue (Q := Ends call) ?_ (fun _ _ hend => hend)
            fun code last hend => ?_
          · refine demand_bind hlater fun _ => ?_
            refine demand_bind hlater fun _ => ?_
            refine silent_bind (fun i s b t hexec => ?_) hlater fun existing => ?_
            · cases hexec
              rfl
            · refine ends_bind (runWhen_ends hlater ?_) fun _ last hlast => ?_
              · exact handleProviderEvent_ends hlater (untouched_of_not_direct hdirect)
              · have hstore : (do
                    demand "response.ok" "provider_unavailable"
                    put .reconcile : RecordHandler Unit).Uses fun op => Ordinary ∅ op :=
                  Handler.Uses.bind (uses_demand _ _) fun _ => uses_put (.inl rfl)
                exact ordinary_ends hstore hlast
          · apply reconcile_rescued
            rcases hend with hunder | ⟨-, hrefusals⟩
            · exact .inl hunder
            · exact .inr hrefusals
    · exact .inl hpast

theorem persistDriftReconcile_ends {jobId : String} (hpast : UnderWay call past) :
    Minds n (Ends call) (persistDriftReconcile jobId) past := by
  refine ask_bind hpast fun confirmed => ?_
  refine ask_bind hpast fun due => ?_
  have henqueue : Minds n (Ends call) (enqueueSalesSuspension jobId) past := by
    refine ends_bind (transaction_ends rfl rfl (fun _ h => h) hpast
      (untouched_of_not_direct hdirect)) fun _ later hlater => ?_
    exact .inl hlater
  refine ends_bind (runWhen_ends hpast henqueue) fun _ later hlater => ?_
  refine ends_bind (runWhen_ends hlater (idle_ends (tryProcessSalesSuspension_idle jobId) hlater))
    fun _ last hlast => ?_
  have hput : (put .reconcile).Uses fun op => Ordinary ∅ op := uses_put (.inl rfl)
  exact ordinary_ends hput hlast

theorem reconcilePublishedJob_ends {jobId : String} (hpast : UnderWay call past) :
    Minds n (Ends call) (reconcilePublishedJob jobId) past := by
  have hput : (put .reconcile).Uses fun op => Ordinary ∅ op := uses_put (.inl rfl)
  refine ends_bind (idle_ends (tryProcessSalesSuspension_idle jobId) hpast)
    fun _ later hlater => ?_
  refine ordinary_bind viewProvider_ordinary hlater fun provider last hlast => ?_
  cases provider with
  | pending => exact .inl hlast
  | drifted => exact persistDriftReconcile_ends hdirect hlast
  | unknown => exact ordinary_ends hput hlast
  | matching =>
    refine ask_bind hlast fun drifted => ?_
    split
    · exact persistDriftReconcile_ends hdirect hlast
    · exact ordinary_ends hput hlast

theorem advanceAlarm_ends {jobId digest : String} (hpast : UnderWay call past) :
    Minds n (Ends call) (advanceAlarm jobId digest) past := by
  have hmem : RecordKey.job ∈ ({.job} : Finset RecordKey) := Finset.mem_singleton_self _
  refine demand_bind hpast fun _ => ?_
  refine ends_bind (idle_ends (Handler.Uses.perform ⟨rfl, rfl⟩) hpast) fun _ past hpast => ?_
  refine ends_bind (idle_ends (Handler.Uses.perform ⟨rfl, rfl⟩) hpast) fun _ past hpast => ?_
  refine silent_bind (fun i s b t hexec => ?_) hpast fun job => ?_
  · cases hexec
    rfl
  split
  · refine ask_bind hpast fun archiving => ?_
    split
    · refine ask_bind hpast fun due => ?_
      split
      · refine ask_bind hpast fun _ => ?_
        exact ordinary_ends (uses_put (.inr hmem)) hpast
      · exact .inl hpast
    · refine ask_bind hpast fun enabled => ?_
      split
      · refine ordinary_bind (expireLegacyProfileJob_uses hmem) hpast
          fun legacyExpired past hpast => ?_
        split
        · exact .inl hpast
        · refine ask_bind hpast fun published => ?_
          split
          · refine ask_bind hpast fun finalizing => ?_
            split
            · exact ordinary_ends (advanceFinalization_uses hmem) hpast
            · refine ask_bind hpast fun onchain => ?_
              split
              · exact reconcilePublishedJob_ends hdirect hpast
              · exact .inl hpast
          · refine ask_bind hpast fun verifying => ?_
            split
            · exact handleProviderEvent_ends hpast (untouched_of_not_direct hdirect)
            · exact reconcileUpload_ends hdirect hpast
      · exact .inl hpast
  · exact .inl hpast

end Indirect

/-- What a program does when its first transaction takes a record. -/
theorem first_ends {op : RecordOp (Except String α)} {key : RecordKey} {f : α → RecordHandler β}
    (htakes : op.takes = some key) (hbegins : op.begins = none)
    (hrefuses : ∀ b, op.Refuses b → b = .error recordLimit) (hpast : UnderWay call past)
    (hclean : Untouched call past)
    (hf : ∀ a later, UnderWay call later → Minds n (Ends call) (f a) later) :
    Minds n (Ends call) (transaction op >>= f) past :=
  ends_bind (transaction_ends htakes hbegins hrefuses hpast hclean) hf

theorem reserveUploadIntent_ends {deviceNonce digest : String} {recovery : Option String}
    (hpast : UnderWay call past) (hclean : Untouched call past)
    (hdirect : recovery = some "reconcile" → call.direct = false) :
    Minds n (Ends call) (reserveUploadIntent deviceNonce recovery digest) past := by
  have hmem : RecordKey.job ∈ ({.job} : Finset RecordKey) := Finset.mem_singleton_self _
  refine demand_bind hpast fun _ => ?_
  refine first_ends rfl rfl (fun _ h => h) hpast hclean fun _ later hlater => ?_
  split
  · next hrecovery =>
      refine ends_bind (reconcileUpload_ends (hdirect hrecovery) hlater) fun _ last hlast => ?_
      refine ask_bind hlast fun uploading => ?_
      split
      · exact .inl hlast
      · have hpersist : (transaction (.persistResult false)).Uses fun op => Ordinary ∅ op :=
          uses_persistResult false
        exact ordinary_ends hpersist hlast
  · split
    · exact ordinary_ends (resumeUpload_uses hmem) hlater
    · refine ask_bind hlater fun reused => ?_
      split
      · exact ordinary_ends (renewLease_uses hmem) hlater
      · exact ordinary_ends (createUpload_uses hmem) hlater

theorem heartbeatUploadLease_ends {deviceNonce : String} (hpast : UnderWay call past)
    (hclean : Untouched call past) :
    Minds n (Ends call) (heartbeatUploadLease deviceNonce) past := by
  have hmem : RecordKey.job ∈ ({.job} : Finset RecordKey) := Finset.mem_singleton_self _
  refine demand_bind hpast fun _ => ?_
  refine first_ends rfl rfl (fun _ h => h) hpast hclean fun _ later hlater => ?_
  refine ask_bind hlater fun renewed => ?_
  split
  · exact ordinary_ends (uses_put (.inr hmem)) hlater
  · refine ask_bind hlater fun stream => ?_
    split
    · exact ordinary_ends (Handler.Uses.bind (terminateStreamJob_uses hmem) fun _ => trivial) hlater
    · refine ordinary_ends (Handler.Uses.bind (uses_put (.inr hmem)) fun _ => ?_) hlater
      refine Handler.Uses.bind (uses_persistResult _) fun _ => ?_
      exact Handler.Uses.bind (uses_demand _ _) fun _ => trivial

theorem cancelUpload_ends {deviceNonce : String} (hpast : UnderWay call past)
    (hclean : Untouched call past) : Minds n (Ends call) (cancelUpload deviceNonce) past := by
  have hrest : (do
      scheduleTerminalArchive
      updateAdmission : RecordHandler Unit).Uses fun op => Ordinary ∅ op :=
    Handler.Uses.bind (uses_persistResult _) fun _ => uses_demand _ _
  refine demand_bind hpast fun _ => ?_
  exact first_ends rfl rfl (fun _ h => h) hpast hclean fun _ _ hlater => ordinary_ends hrest hlater

theorem handleLivepeerWebhook_ends {digest : String} (hpast : UnderWay call past)
    (hclean : Untouched call past) :
    Minds n (Ends call) (handleLivepeerWebhook digest) past := by
  refine silent_bind (fun i s b t hexec => ?_) hpast fun existing => ?_
  · cases hexec
    rfl
  refine demand_bind hpast fun _ => ?_
  split
  · exact handleProviderEvent_ends hpast hclean
  · exact .inl hpast

theorem deletePublicBetaAsset_ends (hpast : UnderWay call past) :
    Minds n (Ends call) deletePublicBetaAsset past := by
  have hmem : RecordKey.job ∈ ({.job} : Finset RecordKey) := Finset.mem_singleton_self _
  refine silent_bind (fun i s b t hexec => ?_) hpast fun existing => ?_
  · cases hexec
    rfl
  split
  · refine ask_bind hpast fun duplicate => ?_
    split
    · exact .inl hpast
    · refine demand_bind hpast fun _ => ?_
      exact ordinary_ends (uses_put (.inr hmem)) hpast
  · exact .inl hpast

theorem program_ends (call : JobCall) (hpast : UnderWay call past)
    (hclean : Untouched call past) : Minds n (Ends call) (program call) past := by
  cases call with
  | intent deviceNonce recovery digest =>
    refine reserveUploadIntent_ends hpast hclean fun hrecovery => ?_
    exact decide_eq_false (not_not.mpr hrecovery)
  | heartbeat deviceNonce => exact heartbeatUploadLease_ends hpast hclean
  | cancel deviceNonce => exact cancelUpload_ends hpast hclean
  | playbackToken deviceNonce =>
    have hlast : (demand "readPlaybackAuthorization" "playback_denied").Uses fun op =>
        Ordinary ∅ op := uses_demand _ _
    refine demand_bind hpast fun _ => ?_
    exact first_ends rfl rfl (fun _ h => h) hpast hclean fun _ _ hlater =>
      ordinary_ends hlast hlater
  | outbox idempotencyKey =>
    exact first_ends rfl rfl (fun _ h => h) hpast hclean fun _ _ hlater => .inl hlater
  | webhook digest => exact handleLivepeerWebhook_ends hpast hclean
  | deleteAsset => exact deletePublicBetaAsset_ends hpast
  | alarm jobId digest => exact advanceAlarm_ends rfl hpast

theorem call_minds (call : JobCall) (n : Nat) :
    Minds n (fun _ later => Refusals later) (handle call) [] := by
  have hempty : Refusals [] := by
    intro newer key older h
    cases newer <;> cases h
  unfold Minds
  rw [handle, numbered, Handler.lift_bind]
  refine ⟨hempty, fun i s b t hs hexec => ?_⟩
  cases hexec
  change s.own n = [] at hs
  have hbegun : UnderWay call [.began call] := by
    refine ⟨fun other hother => ?_, fun key hkey => ?_⟩
    · cases List.mem_singleton.mp hother
      rfl
    · cases List.mem_singleton.mp hkey
  have hclean : Untouched call [.began call] := fun _ mark hmark => List.mem_singleton.mp hmark
  change Refusals ((s.log n (.began call)).own n) ∧
    Minds n _ (program call) ((s.log n (.began call)).own n) ∧
    Refusals ((s.log n (.began call)).own n)
  rw [own_log, hs]
  refine ⟨hbegun.refusals, ?_, hbegun.refusals⟩
  exact (program_ends call hbegun hclean).mono fun _ _ hend => hend.refusals

end Refusal

/-! ## Runs -/

abbrev RecordConfig : Type 1 := Config JobObject NumberedOp String Unit JobCall
abbrev RecordEvent : Type := Event RecordInput JobCall Empty
abbrev RecordStep : Type 1 := Transition RecordConfig RecordEvent

/-- A refused transaction leaves the keys as they are. -/
theorem refused_keys {β : Type} {b : β} {op : NumberedOp β} {i : RecordInput} {s t : JobObject}
    {n : Nat} {taken : Option RecordKey} (h : exec β op i s = some (b, t))
    (hrefused : t.own n = .refused taken :: s.own n) : t.keys = s.keys := by
  cases exec_acts h with
  | began call hop hpost =>
    subst hpost
    rfl
  | refused hb hcheck hpost =>
    subst hpost
    rfl
  | acted marks hmarks hown hothers hrequests =>
    by_cases hn : n = op.number
    · subst hn
      rw [hown] at hrefused
      cases marks with
      | nil => exact absurd hrefused.symm (List.cons_ne_self _ _)
      | cons mark marks =>
        obtain ⟨rfl, -⟩ := List.cons.inj hrefused
        exact (hmarks _ List.mem_cons_self).elim
    · rw [hothers n hn] at hrefused
      exact absurd hrefused.symm (List.cons_ne_self _ _)

/-- What the calls of a run mark: each keeps to `Refusals`. -/
theorem run_refusals {tr : List RecordStep} {c : RecordConfig}
    (h : Trace (ExecStep recordSystem.next) ⟨emptyObject, []⟩ tr c) (n : Nat) :
    Refusals (c.shared.own n) := by
  have hnone : Refusals [] := by
    intro newer key older heq
    cases newer <;> cases heq
  have hrest (call : JobCall) (number : Nat) :
      recordNumbering.Alone Refusals number Numbering.Anyhow (recordNumbering.rest call number) [] :=
    (call_minds call number).mono fun _ _ _ => trivial
  have hgood (number : Nat) : Refusals (recordNumbering.own emptyObject number) := hnone
  have hsound := recordNumbering.run hrest hgood (fun _ _ => rfl) h
  exact hsound.good n

/-- The outside of an object whose job is uploading: a ready event of its asset is new. -/
def uploadingAnswers (what : String) : Bool :=
  what ∉ ["jobProviderKind(record) === 'stream'", "publicBetaDeadlineExpired(record)",
    "previous.nextReconcileAtMs > Date.now()", "isLegacyProfileJobOnMarketV2 && expirable",
    "publicBetaDeadlineExpired(existing) && not ended", "existing is terminal",
    "existing.state === 'ONCHAIN_PUBLISHED'",
    "isLegacyProfileJobOnMarketV2 && existing.publication && finalizing",
    "stream && existing.publication && finalizing"]

def uploadingInput : RecordInput := ⟨uploadingAnswers, ∅⟩

/-- The object after a call that nothing interrupts. -/
def afterCall (call : JobCall) (s : JobObject) : JobObject :=
  ((recordSystem.handle call).runUpTo recordSystem.exec uploadingInput none s).2

theorem trace_afterCall (call : JobCall) (s : JobObject) :
    ∃ tr, Trace (ExecStep recordSystem.next) ⟨s, []⟩ tr ⟨afterCall call s, []⟩ :=
  recordSystem.trace_alone call uploadingInput s

section Runs

variable {s : JobObject}

theorem afterCall_outbox {key : String} (hnew : .outbox key ∉ s.keys)
    (hcheck : hasCapacity s.keys [.outbox key, .reconcile] = true) :
    afterCall (.outbox key) s =
      (({ s with requests := s.requests + 1 } : JobObject).log s.requests
        (.began (.outbox key))).write s.requests (.outbox key) := by
  simp [afterCall, recordSystem, Handler.runUpTo, exec, numbered, handle, program, transaction,
    Handler.lift, Handler.perform, Handler.bind, bind, pure, Handler.ofExcept, hnew,
    JobObject.checked, JobObject.log, JobObject.write, hcheck]

/-- The first intent takes its nonce and the job. -/
theorem afterCall_intent (hnew : .nonce "n-1" ∉ s.keys) (hjob : .job ∉ s.keys)
    (hcheck : hasCapacity s.keys [.nonce "n-1", .job, .reconcile] = true) :
    (afterCall (.intent "n-1" none "event") s).keys =
      insert .job (insert (.nonce "n-1") s.keys) := by
  simp [afterCall, recordSystem, Handler.runUpTo, exec, numbered, handle, program, transaction,
    Handler.lift, Handler.perform, Handler.bind, bind, pure, Handler.ofExcept, hnew, hjob,
    JobObject.checked, JobObject.log, JobObject.write, hcheck, reserveUploadIntent, demand, ask,
    uploadingInput, uploadingAnswers, renewLease, put]

/-- The second one reconciles: its nonce and the reconcile record fit, the event does not. -/
theorem afterCall_reconcile (hnew : .nonce "n-2" ∉ s.keys) (hjob : .job ∈ s.keys)
    (hevent : .webhook "event" ∉ s.keys)
    (hcheck : hasCapacity s.keys [.nonce "n-2", .reconcile] = true)
    (hfull : hasCapacity (insert .reconcile (insert (.nonce "n-2") s.keys))
      [.webhook "event", .reconcile] = false)
    (hrecord : hasCapacity (insert .reconcile (insert (.nonce "n-2") s.keys)) [.reconcile] = true) :
    (afterCall (.intent "n-2" (some "reconcile") "event") s).keys =
        insert .reconcile (insert (.nonce "n-2") s.keys) ∧
      .refused (some (.webhook "event")) ∈
        (afterCall (.intent "n-2" (some "reconcile") "event") s).own s.requests := by
  simp [afterCall, recordSystem, Handler.runUpTo, exec, numbered, handle, program, transaction,
    Handler.lift, Handler.perform, Handler.bind, bind, pure, Handler.ofExcept, Handler.rescue,
    hnew, hjob, hevent, JobObject.checked, JobObject.log, JobObject.write, hcheck, hfull, hrecord,
    reserveUploadIntent, demand, ask, uploadingInput, uploadingAnswers, reconcileUpload, put,
    Records.read, runWhen, putWhen, handleProviderEvent, expireLegacyProfileJob, acceptReadiness,
    isRetryCode, recordLimit]

/-- The keys of `k` outbox entries. -/
def outboxKeys (k : Nat) : Finset RecordKey :=
  (Finset.range k).image fun j => .outbox (decimal j)

theorem card_outboxKeys (k : Nat) : (outboxKeys k).card = k := by
  have hinj : Function.Injective fun j => RecordKey.outbox (decimal j) := fun _ _ h =>
    decimal_injective (RecordKey.outbox.inj h)
  rw [outboxKeys, Finset.card_image_of_injective _ hinj, Finset.card_range]

theorem mem_outboxKeys {k : Nat} {key : RecordKey} :
    key ∈ outboxKeys k ↔ ∃ j < k, key = .outbox (decimal j) := by
  simp only [outboxKeys, Finset.mem_image, Finset.mem_range, eq_comm]

/-- Keys that are new fit where there is room for them. -/
theorem hasCapacity_of_card {stored : Finset RecordKey} {keys : List RecordKey}
    (h : stored.card + keys.length ≤ maxPersistentRecords) : hasCapacity stored keys = true := by
  have hmissing : (missing stored keys).card ≤ keys.length :=
    (Finset.card_le_card Finset.sdiff_subset).trans keys.toFinset_card_le
  rw [hasCapacity, Bool.or_eq_true, decide_eq_true_eq, decide_eq_true_eq]
  right
  omega

/-- Up to 254 outbox entries can be stored. -/
theorem reach_outboxKeys {k : Nat} (hk : k ≤ 254) : ∃ tr s,
    Trace (ExecStep recordSystem.next) ⟨emptyObject, []⟩ tr ⟨s, []⟩ ∧ s.keys = outboxKeys k := by
  induction k with
  | zero => exact ⟨[], emptyObject, .nil, rfl⟩
  | succ k ih =>
    obtain ⟨tr, s, hrun, hkeys⟩ := ih (by omega)
    have hnew : RecordKey.outbox (decimal k) ∉ s.keys := by
      rw [hkeys, mem_outboxKeys]
      rintro ⟨j, hj, heq⟩
      have hsame := decimal_injective (RecordKey.outbox.inj heq)
      omega
    have hcheck : hasCapacity s.keys [.outbox (decimal k), .reconcile] = true := by
      apply hasCapacity_of_card
      rw [hkeys, card_outboxKeys]
      change k + 2 ≤ 256
      omega
    obtain ⟨tr', hnext⟩ := trace_afterCall (.outbox (decimal k)) s
    refine ⟨tr ++ tr', _, hrun.append hnext, ?_⟩
    rw [afterCall_outbox hnew hcheck, keys_write, keys_log, hkeys, outboxKeys, outboxKeys,
      Finset.range_add_one, Finset.image_insert]

end Runs

end Youtick.Bridge.Records
