import Youtick.Lib.Keys
import Youtick.MarketV2.EventLog

/-!
# Market V2: idempotency keys

Every event on the 1.0.0 envelope is about a `Mark`: an occasion that may come again, or one of the
facts that happen once (a job authorized, a publication finalized or suspended, a quote key version,
a withdrawal resolved). The name and the key of the event spell the mark and nothing else
(`Mark.eq_of_key`).

A once-only mark cannot come twice in a run, because the storage keeps a trace of it
(`Marked.once`), and a withdrawal is resolved once because its receipt is consumed
(`returned_perm`). So two events of a run share name and key exactly when two of its calls announce
the same occasion (`event_keys_iff`).
-/

set_option autoImplicit false

namespace Youtick.MarketV2

open Youtick.Lib

/-! ## Marks -/

/-- What an event on the 1.0.0 envelope is about. -/
inductive Mark where
  | occasion (a : Occasion)
  | jobAuthorized (jobId : String)
  | finalized (publicationId : String) (generation : Nat)
  | suspended (publicationId : String)
  | quoteKey (version : Nat)
  | withdrawn (succeeded : Bool) (withdrawalId : String)

namespace Mark

def event : Mark → String
  | .occasion a => a.event
  | .jobAuthorized _ => "media_job_authorized"
  | .finalized _ _ => "publication_finalized"
  | .suspended _ => "publication_sales_suspended"
  | .quoteKey _ => "quote_key_rotated"
  | .withdrawn true _ => "creator_balance_withdrawal_succeeded"
  | .withdrawn false _ => "creator_balance_withdrawal_failed"

def key : Mark → String
  | .occasion a => a.key
  | .jobAuthorized jobId => "job:" ++ jobId ++ ":" ++ decimal 1 ++ ":authorized"
  | .finalized publicationId generation =>
    "publication:" ++ publicationId ++ ":" ++ decimal generation ++ ":finalized"
  | .suspended publicationId => "publication:" ++ publicationId ++ ":sales-suspended"
  | .quoteKey version => "quote-key:" ++ decimal version
  | .withdrawn _ withdrawalId => withdrawalId

end Mark

/-- The event is on the 1.0.0 envelope and spells the mark. -/
structure Event.Spells (e : Event) (m : Mark) : Prop where
  market : e.isMarket = true
  event : e.event = m.event
  key : e.idempotencyKey = some m.key

/-- The events of the governance calls. -/
def governanceEvents : List String :=
  ["bridge_frozen", "bridge_unfreeze_requested", "bridge_unfreeze_cancelled", "bridge_unfrozen",
    "new_purchases_paused", "new_purchases_unpause_requested", "new_purchases_unpause_cancelled",
    "new_purchases_unpaused", "public_testnet_beta_started", "public_testnet_beta_closed",
    "bridge_rotation_proposed", "bridge_rotation_cancelled", "bridge_rotated",
    "role_rotation_proposed", "role_rotation_cancelled", "role_rotated", "code_upgrade_proposed",
    "code_upgrade_cancelled", "vat_key_revoked"]

/-- The texts of an occasion as a call announces them. -/
def Occasion.Proper : Occasion → Prop
  | .governance event _ _ => event ∈ governanceEvents
  | .uploadKey _ _ keySha256 => NoColon keySha256
  | _ => True

def Mark.Proper : Mark → Prop
  | .occasion a => a.Proper
  | _ => True

theorem Call.governanceEvent_mem {s : Contract} {c : Call} {event : String}
    (h : c.governanceEvent s = some event) : event ∈ governanceEvents := by
  cases c with
  | freezeBridge | requestBridgeUnfreeze | cancelBridgeUnfreeze | unfreezeBridge
  | pauseNewPurchases | requestNewPurchasesUnpause | cancelNewPurchasesUnpause | unpauseNewPurchases
  | closePublicTestnetBeta | proposeBridge | cancelBridgeRotation | proposeRoleRotation
  | cancelRoleRotation | proposeCodeUpgrade | cancelCodeUpgrade =>
    simp only [Call.governanceEvent] at h
    split at h
    · first | (obtain rfl := Option.some.inj h; decide) | cases h
    · first | (obtain rfl := Option.some.inj h; decide) | cases h
  | startPublicTestnetBeta | executeBridgeRotation | executeRoleRotation | revokeVatKey =>
    obtain rfl := Option.some.inj h
    decide
  | _ => cases h

theorem Call.announces_proper {env : Env} {s : Contract} {c : Call} {occasion : Occasion}
    (h : c.announces env s = some occasion) : occasion.Proper := by
  cases c with
  | replaceUploadKey =>
    obtain ⟨_, -, rfl⟩ := Option.map_eq_some_iff.mp h
    exact noColon_hex _
  | migrate =>
    obtain ⟨_, -, rfl⟩ := Option.map_eq_some_iff.mp h
    trivial
  | withdrawCreatorBalance | withdrawPlatformBalance | withdrawPlatformNear =>
    obtain rfl := Option.some.inj h
    trivial
  | takedownPublication =>
    simp only [Call.announces] at h
    split at h
    · cases h
    · obtain rfl := Option.some.inj h
      trivial
  | _ =>
    simp only [Call.announces] at h
    obtain ⟨_, hevent, rfl⟩ := Option.map_eq_some_iff.mp h
    exact governanceEvent_mem hevent

/-! ## The key spells the mark -/

/-- The event names of the other occasions. -/
def otherOccasions : List String :=
  ["media_job_upload_key_replaced", "code_upgraded", "creator_balance_withdrawal_started",
    "platform_withdrawal_started", "publication_takedown"]

/-- The event names of the marks that come once. -/
def onceEvents : List String :=
  ["media_job_authorized", "publication_finalized", "publication_sales_suspended",
    "quote_key_rotated", "creator_balance_withdrawal_succeeded",
    "creator_balance_withdrawal_failed"]

theorem governanceEvents_apart {event : String} (h : event ∈ governanceEvents) :
    event ∉ otherOccasions ∧ event ∉ onceEvents := by
  revert event
  decide

theorem Occasion.governance_of_event {event : String} {b : Occasion}
    (h : event ∈ governanceEvents) (heq : event = b.event) :
    ∃ caller atMs, b = .governance event caller atMs := by
  cases b with
  | governance event' caller atMs =>
    obtain rfl : event = event' := heq
    exact ⟨caller, atMs, rfl⟩
  | _ =>
    refine absurd ?_ (governanceEvents_apart h).1
    rw [heq]
    simp [Occasion.event, otherOccasions]

theorem Mark.occasion_of_event {a : Occasion} {m : Mark} (ha : a.Proper)
    (heq : a.event = m.event) : ∃ b, m = .occasion b := by
  have honce : a.event ∉ onceEvents := by
    cases a with
    | governance => exact (governanceEvents_apart ha).2
    | _ => simp [Occasion.event, onceEvents]
  cases m with
  | occasion b => exact ⟨b, rfl⟩
  | withdrawn succeeded =>
    refine absurd ?_ honce
    rw [heq]
    cases succeeded <;> simp [Mark.event, onceEvents]
  | _ =>
    refine absurd ?_ honce
    rw [heq]
    simp [Mark.event, onceEvents]

theorem Occasion.eq_of_key {a b : Occasion} (ha : a.Proper) (hb : b.Proper)
    (hevent : a.event = b.event) (hkey : a.key = b.key) : a = b := by
  cases a with
  | governance event caller atMs =>
    obtain ⟨caller', atMs', rfl⟩ := governance_of_event ha hevent
    obtain ⟨hcaller, rfl⟩ := append_decimal_injective hkey
    rw [(String.append_right_inj _).mp hcaller]
  | uploadKey jobId generation keySha256 =>
    cases b with
    | governance =>
      obtain ⟨_, _, h⟩ := governance_of_event hb hevent.symm
      cases h
    | uploadKey jobId' generation' keySha256' =>
      have hassoc : ∀ head tail : String,
          head ++ ":upload-key:" ++ tail = (head ++ ":upload-key") ++ ":" ++ tail := by
        intro head tail
        apply String.toList_inj.mp
        simp
      have hsplit : ("job:" ++ jobId ++ ":" ++ decimal generation ++ ":upload-key") ++ ":" ++
          keySha256 = ("job:" ++ jobId' ++ ":" ++ decimal generation' ++ ":upload-key") ++
          ":" ++ keySha256' := by
        rw [← hassoc, ← hassoc]
        exact hkey
      obtain ⟨hhead, rfl⟩ := append_colon_injective ha hb hsplit
      have hnumber := (String.append_left_inj _).mp hhead
      obtain ⟨hid, rfl⟩ := append_decimal_injective hnumber
      rw [(String.append_right_inj _).mp hid]
    | _ => simp [Occasion.event] at hevent
  | codeUpgraded codeSha256 =>
    cases b with
    | governance =>
      obtain ⟨_, _, h⟩ := governance_of_event hb hevent.symm
      cases h
    | codeUpgraded => rw [(String.append_right_inj _).mp hkey]
    | _ => simp [Occasion.event] at hevent
  | creatorWithdrawal creatorId amount atMs =>
    cases b with
    | governance =>
      obtain ⟨_, _, h⟩ := governance_of_event hb hevent.symm
      cases h
    | creatorWithdrawal =>
      obtain ⟨hhead, rfl⟩ := append_decimal_injective hkey
      obtain ⟨hcreator, rfl⟩ := append_decimal_injective hhead
      rw [(String.append_right_inj _).mp hcreator]
    | _ => simp [Occasion.event] at hevent
  | platformWithdrawal asset amount atMs =>
    cases b with
    | governance =>
      obtain ⟨_, _, h⟩ := governance_of_event hb hevent.symm
      cases h
    | platformWithdrawal asset' =>
      obtain ⟨hhead, rfl⟩ := append_decimal_injective hkey
      obtain ⟨hasset, rfl⟩ := append_decimal_injective hhead
      have hname : feeAssetName asset = feeAssetName asset' :=
        (String.append_right_inj _).mp hasset
      cases asset <;> cases asset' <;> first | rfl | exact absurd hname (by decide)
    | _ => simp [Occasion.event] at hevent
  | takedown publicationAndIncident =>
    cases b with
    | governance =>
      obtain ⟨_, _, h⟩ := governance_of_event hb hevent.symm
      cases h
    | takedown => rw [(String.append_right_inj _).mp hkey]
    | _ => simp [Occasion.event] at hevent

/-- Equal names and keys spell the same mark. -/
theorem Mark.eq_of_key {m n : Mark} (hm : m.Proper) (hn : n.Proper) (hevent : m.event = n.event)
    (hkey : m.key = n.key) : m = n := by
  cases m with
  | occasion a =>
    obtain ⟨b, rfl⟩ := occasion_of_event hm hevent
    rw [Occasion.eq_of_key hm hn hevent hkey]
  | jobAuthorized jobId =>
    cases n with
    | occasion b =>
      obtain ⟨_, h⟩ := occasion_of_event hn hevent.symm
      cases h
    | jobAuthorized =>
      obtain ⟨hid, -⟩ := append_decimal_injective ((String.append_left_inj _).mp hkey)
      rw [(String.append_right_inj _).mp hid]
    | withdrawn succeeded => cases succeeded <;> simp [Mark.event] at hevent
    | _ => simp [Mark.event] at hevent
  | finalized publicationId generation =>
    cases n with
    | occasion b =>
      obtain ⟨_, h⟩ := occasion_of_event hn hevent.symm
      cases h
    | finalized =>
      obtain ⟨hid, rfl⟩ := append_decimal_injective ((String.append_left_inj _).mp hkey)
      rw [(String.append_right_inj _).mp hid]
    | withdrawn succeeded => cases succeeded <;> simp [Mark.event] at hevent
    | _ => simp [Mark.event] at hevent
  | suspended publicationId =>
    cases n with
    | occasion b =>
      obtain ⟨_, h⟩ := occasion_of_event hn hevent.symm
      cases h
    | suspended => rw [(String.append_right_inj _).mp ((String.append_left_inj _).mp hkey)]
    | withdrawn succeeded => cases succeeded <;> simp [Mark.event] at hevent
    | _ => simp [Mark.event] at hevent
  | quoteKey version =>
    cases n with
    | occasion b =>
      obtain ⟨_, h⟩ := occasion_of_event hn hevent.symm
      cases h
    | quoteKey => rw [decimal_injective ((String.append_right_inj _).mp hkey)]
    | withdrawn succeeded => cases succeeded <;> simp [Mark.event] at hevent
    | _ => simp [Mark.event] at hevent
  | withdrawn succeeded withdrawalId =>
    cases n with
    | occasion b =>
      obtain ⟨_, h⟩ := occasion_of_event hn hevent.symm
      cases h
    | withdrawn succeeded' withdrawalId' =>
      obtain rfl : withdrawalId = withdrawalId' := hkey
      cases succeeded <;> cases succeeded' <;> first | rfl | simp [Mark.event] at hevent
    | _ => cases succeeded <;> simp [Mark.event] at hevent

/-! ## What a call marks -/

/-- What is true of a call that logs an event about the mark; `after` is what its events speak of
once it has run. -/
def Mark.Made (env : Env) (s : Contract) (c : Call) (after : Shown) : Mark → Prop
  | .occasion a => c.announces env s = some a
  | .jobAuthorized jobId => s.mediaJobs.get jobId = none ∧ after.mediaJobs.get jobId ≠ none
  | .finalized publicationId _ =>
    s.publications.get publicationId = none ∧ ∃ p, after.publications.get publicationId = some p
  | .suspended publicationId =>
    (∃ p, s.publications.get publicationId = some p ∧ p.availability = .active) ∧
      ∃ p, after.publications.get publicationId = some p ∧ p.availability ≠ .active
  | .quoteKey version => s.quoteKeyVersion < version ∧ after.quoteKeyVersion = version
  | .withdrawn _ withdrawalId =>
    ∃ creatorId amount, c = .callback (.onCreatorWithdraw creatorId amount withdrawalId)

/-- A call logs at most one event on the 1.0.0 envelope; what it announces, it logs. -/
inductive Marking (env : Env) (s : Contract) (c : Call) (after : Shown) (es : List Event) :
    Prop where
  | none (hquiet : c.announces env s = none) (hes : es.filter Event.isMarket = [])
  | one (e : Event) (m : Mark) (hes : es.filter Event.isMarket = [e]) (hspells : e.Spells m)
      (hproper : m.Proper) (hmade : m.Made env s c after)
      (hannounces : ∀ a, c.announces env s = some a → m = .occasion a)

theorem emitMarketEvent_key {env : Env} {event key : String} {data : List (String × Json)}
    (h : Keyless data) :
    (emitMarketEvent env event key data).idempotencyKey = some key := by
  have hnone : data.find? (fun field => decide (field.1 = "idempotency_key")) = none := by
    rw [List.find?_eq_none]
    intro field hfield
    simpa using h field hfield
  simp [Event.idempotencyKey, Event.field, emitMarketEvent, hnone]

section Spells

variable {env : Env} {s : Contract} {c : Call} {after : Shown}

/-- An event with a key of its own, about a mark the call made. -/
theorem Marking.single {event key : String} {data : List (String × Json)} {m : Mark}
    (hkey : Keyless data) (hevent : event = m.event)
    (hm : key = m.key) (hproper : m.Proper) (hmade : m.Made env s c after)
    (hannounces : ∀ a, c.announces env s = some a → m = .occasion a) :
    Marking env s c after [emitMarketEvent env event key data] := by
  refine .one _ m rfl ⟨rfl, hevent, ?_⟩ hproper hmade hannounces
  rw [emitMarketEvent_key hkey, hm]

/-- The same for an occasion. -/
theorem Marking.announced {event key : String} {data : List (String × Json)} {a : Occasion}
    (hannounces : c.announces env s = some a)
    (hkey : Keyless data) (hevent : event = a.event)
    (hm : key = a.key) : Marking env s c after [emitMarketEvent env event key data] := by
  refine .single (m := .occasion a) hkey hevent hm (Call.announces_proper hannounces) hannounces ?_
  intro b hb
  rw [Option.some.inj (hannounces.symm.trans hb)]

/-- The same for a mark that comes once. -/
theorem Marking.first {event key : String} {data : List (String × Json)} {m : Mark}
    (hquiet : c.announces env s = Option.none)
    (hkey : Keyless data) (hevent : event = m.event)
    (hm : key = m.key) (hproper : m.Proper) (hmade : m.Made env s c after) :
    Marking env s c after [emitMarketEvent env event key data] := by
  refine .single hkey hevent hm hproper hmade ?_
  intro a ha
  cases hquiet.symm.trans ha

theorem Call.announces_of_governanceEvent {event : String}
    (h : c.governanceEvent s = some event) :
    c.announces env s = some (.governance event env.predecessorAccountId env.blockTimestampMs) := by
  cases c with
  | replaceUploadKey | migrate | withdrawCreatorBalance | withdrawPlatformBalance
  | withdrawPlatformNear | takedownPublication => cases h
  | _ =>
    simp only [Call.announces, h, Option.map_some]

theorem Logs.marking {ps : List Promise} {es : List Event} (h : Logs env s c after ps es) :
    Marking env s c after es := by
  cases h with
  | quiet hquiet _ hes =>
    refine .none hquiet (List.filter_eq_nil_iff.mpr fun e he => ?_)
    simp [hes e he]
  | governance hevent hdata =>
    exact .announced (Call.announces_of_governanceEvent hevent) hdata rfl rfl
  | codeUpgraded hpending =>
    refine .announced (a := .codeUpgraded _) ?_ (by simp [Keyless]) rfl rfl
    simp [Call.announces, hpending]
  | jobAuthorized job hquiet hfresh hgeneration =>
    refine .first (m := .jobAuthorized job.jobId) hquiet (by simp [Keyless]) rfl ?_ trivial
      ⟨hfresh, by simp⟩
    simp [Mark.key, hgeneration]
  | @uploadKeyReplaced jobId newPublicKey expiresAtMs job replaced hjob hreplaced =>
    refine .announced (a := .uploadKey job.jobId job.generation
      (hexSha256 env.toHost (utf8 newPublicKey))) ?_ (by simp [Keyless]) rfl ?_
    · simp [Call.announces, hjob]
    · rw [hreplaced]
      rfl
  | @quoteKeyRotated version publicKey hversion =>
    refine .first (m := .quoteKey version) rfl (by simp [Keyless]) rfl rfl trivial ⟨?_, rfl⟩
    omega
  | restarted => exact .none rfl rfl
  | @finalized submission job publication hfresh hpublication =>
    have hid : publication.publicationId = submission.jobId := by
      rw [hpublication]
      rfl
    refine .first (m := .finalized publication.publicationId publication.generation) rfl
      (by simp [Keyless]) rfl rfl trivial ?_
    rw [hid]
    exact ⟨hfresh, publication, by simp⟩
  | @suspended publicationId publication suspended hget hactive hsuspended =>
    refine .first (m := .suspended publicationId) rfl (by simp [Keyless]) rfl rfl trivial
      ⟨⟨publication, hget, hactive⟩, suspended, by simp, ?_⟩
    rw [hsuspended]
    simp
  | @takenDown publicationId _ incidentId _ _ publication _ hget hup =>
    have hassoc : "publication:" ++ publicationId ++ ":takedown:" ++ incidentId =
        "publication:" ++ (publicationId ++ ":takedown:" ++ incidentId) := by
      simp only [String.append_assoc]
    refine .announced (a := .takedown (publicationId ++ ":takedown:" ++ incidentId)) ?_
      (by simp [Keyless]) rfl hassoc
    simp only [Call.announces, takenDown_of_get hget, decide_eq_true_eq, if_neg hup]
  | creatorWithdrawal hcreator hamount hid =>
    subst hcreator hamount hid
    exact .announced rfl (by simp [Keyless]) rfl rfl
  | platformWithdrawal => exact .announced (a := .platformWithdrawal .usdc _ _) rfl (by simp [Keyless]) rfl rfl
  | nearWithdrawal => exact .announced (a := .platformWithdrawal .near _ _) rfl (by simp [Keyless]) rfl rfl
  | @creatorWithdrawn creatorId withdrawalId event amount reason hreason =>
    rcases hreason with ⟨rfl, rfl⟩ | ⟨rfl, rfl⟩
    · exact .first (m := .withdrawn true withdrawalId) rfl (by simp [Keyless]) rfl rfl trivial
        ⟨creatorId, amount, rfl⟩
    · exact .first (m := .withdrawn false withdrawalId) rfl (by simp [Keyless]) rfl rfl trivial
        ⟨creatorId, amount, rfl⟩

end Spells

/-! ## Marks of a run -/

section Run

variable {host : Host} {w₀ w : World} {tr : List (Transition World Label)}
  {x y : Transition World Label}

/-- The events a transition logged on the 1.0.0 envelope. -/
def marketEventsOf (host : Host) (x : Transition World Label) : List Event :=
  (loggedBy host x).filter Event.isMarket

theorem marketEvents_eq (host : Host) (tr : List (Transition World Label)) :
    marketEvents host tr = tr.flatMap (marketEventsOf host) :=
  List.filter_flatMap

/-- The transition logged an event about the mark. -/
structure Marked (host : Host) (x : Transition World Label) (m : Mark) (r : RanCall) : Prop where
  call : ranCall host x = some r
  made : m.Made r.env x.pre.contract r.call x.post.contract.shown
  proper : m.Proper
  spells : ∃ e, marketEventsOf host x = [e] ∧ e.Spells m
  announced : ∀ a, announcement host x = some a → m = .occasion a

theorem Marked.spells_of_mem {m : Mark} {r : RanCall} {e : Event} (h : Marked host x m r)
    (he : e ∈ marketEventsOf host x) : e.Spells m := by
  obtain ⟨f, hf, hspells⟩ := h.spells
  rw [hf] at he
  rwa [List.mem_singleton.mp he]

theorem announcement_of_occasion {a : Occasion} {r : RanCall}
    (h : Marked host x (.occasion a) r) : announcement host x = some a := by
  rw [announcement, h.call]
  exact h.made

/-- A transition announces nothing and logs nothing on the envelope, or logs one mark. -/
theorem marked_cases (h : worldStep host x.pre x.label x.post) :
    (announcement host x = none ∧ marketEventsOf host x = []) ∨ ∃ m r, Marked host x m r := by
  cases hcall : ranCall host x with
  | none => exact .inl ⟨by simp [announcement, hcall], by simp [marketEventsOf, loggedBy, hcall]⟩
  | some r =>
    obtain ⟨rest, -, rfl, hrun, hpost⟩ := ranCall_cases h hcall
    have hevents : marketEventsOf r.env.toHost x = r.outcome.events.filter Event.isMarket := by
      simp [marketEventsOf, loggedBy, hcall]
    have hannouncement : announcement r.env.toHost x = r.call.announces r.env x.pre.contract := by
      simp [announcement, hcall]
    cases (Call.run_logs hrun).marking with
    | none hquiet hes => exact .inl ⟨hannouncement.trans hquiet, hevents.trans hes⟩
    | one e m hes hspells hproper hmade hannounces =>
      refine .inr ⟨m, r, hcall, ?_, hproper, ⟨e, hevents.trans hes, hspells⟩, ?_⟩
      · rw [hpost]
        exact hmade
      · intro a ha
        exact hannounces a (hannouncement.symm.trans ha)

/-- No step takes back what `Shown.Later` keeps. -/
theorem World.step_later {l : Label} {w' : World} (h : worldStep host w l w') :
    w.contract.shown.Later w'.contract.shown := by
  cases World.ran_cases h with
  | ran _ _ hrun hpost =>
    rw [hpost]
    exact (Call.run_logs hrun).later
  | quiet _ hcontract =>
    rw [hcontract]
    exact .refl _

theorem later_of_trace (h : Trace (worldStep host) w₀ tr w) :
    w₀.contract.shown.Later w.contract.shown :=
  h.relate (I := fun _ => True)
    (R := fun a b : World => a.contract.shown.Later b.contract.shown) (fun _ => .refl _)
    (fun _ _ _ => .trans) (fun _ _ _ _ _ => trivial) (fun _ _ _ _ => World.step_later) trivial

/-- The storage remembers a mark that comes once: it is not made again later. -/
theorem Mark.Made.once {env env' : Env} {s s' : Contract} {c c' : Call} {after after' : Shown}
    {m : Mark} (h : m.Made env s c after) (hlater : after.Later s'.shown)
    (h' : m.Made env' s' c' after') :
    (∃ a, m = .occasion a) ∨ ∃ succeeded withdrawalId, m = .withdrawn succeeded withdrawalId := by
  cases m with
  | occasion a => exact .inl ⟨a, rfl⟩
  | withdrawn succeeded withdrawalId => exact .inr ⟨succeeded, withdrawalId, rfl⟩
  | jobAuthorized jobId => exact absurd h'.1 (hlater.mediaJobs jobId h.2)
  | finalized publicationId =>
    obtain ⟨-, p, hp⟩ := h
    obtain ⟨p', hp', -⟩ := hlater.publications publicationId p hp
    cases h'.1.symm.trans hp'
  | suspended publicationId =>
    obtain ⟨-, p, hp, hinactive⟩ := h
    obtain ⟨p', hp', hkept⟩ := hlater.publications publicationId p hp
    obtain ⟨⟨q, hq, hactive⟩, -⟩ := h'
    obtain rfl := Option.some.inj (hp'.symm.trans hq)
    exact absurd hactive (hkept hinactive)
  | quoteKey version =>
    obtain ⟨-, rfl⟩ := h
    have hless : s'.quoteKeyVersion < after.quoteKeyVersion := h'.1
    exact absurd hlater.quoteKeyVersion (Nat.not_le_of_lt hless)

/-! ## Withdrawals come back once -/

def Call.withdrawalId : Call → Option String
  | .callback (.onCreatorWithdraw _ _ withdrawalId) => some withdrawalId
  | _ => none

/-- The withdrawals a transition started. -/
def sentBy (host : Host) (x : Transition World Label) : List String :=
  match ranCall host x with
  | some r => r.outcome.promises.filterMap Promise.withdrawalId
  | none => []

/-- The withdrawal a transition resolved. -/
def returnedBy (host : Host) (x : Transition World Label) : List String :=
  match ranCall host x with
  | some r => r.call.withdrawalId.toList
  | none => []

/-- The withdrawals under way. -/
def World.withdrawals (w : World) : List String := w.pending.items.filterMap Promise.withdrawalId

/-- A callback takes its receipt out. -/
theorem Delivery.returned {l : Label} {ctx : Context} {c : Call} {rest : Outbox Promise}
    {o : Outcome Unit} (h : Delivery host w l ctx c rest) (hrun : c.run ⟨host, ctx⟩ w.contract = .ok o) :
    (c.withdrawalId.toList ++ rest.items.filterMap Promise.withdrawalId).Subperm w.withdrawals := by
  cases hid : c.withdrawalId with
  | none => exact (h.items_sublist.filterMap _).subperm
  | some withdrawalId =>
    cases c with
    | callback callback =>
      cases callback with
      | onCreatorWithdraw creatorId amount withdrawalId' =>
        obtain rfl := Option.some.inj hid
        obtain ⟨i, promise, ok, hget, hcallback, rfl, -⟩ := h.callback_inv hrun
        obtain ⟨a, b, hitems, herase⟩ := Outbox.items_eraseIdx hget
        have hpromise : promise.withdrawalId = some withdrawalId' := by
          simp [Promise.withdrawalId, hcallback]
        rw [World.withdrawals, hitems, herase]
        simp only [List.filterMap_append, List.filterMap_cons, hpromise, Option.toList_some]
        rw [List.singleton_append]
        exact List.perm_middle.symm.subperm
      | _ => cases hid
    | _ => cases hid

theorem World.step_withdrawals (h : worldStep host x.pre x.label x.post) :
    (returnedBy host x ++ x.post.withdrawals).Subperm (x.pre.withdrawals ++ sentBy host x) := by
  cases World.ran_cases h with
  | @ran ctx c rest o hdelivery hcall hrun hpost =>
    have hsent : x.post.withdrawals =
        rest.items.filterMap Promise.withdrawalId ++ sentBy host x := by
      simp only [World.withdrawals, hpost, Outbox.items_send, List.filterMap_append, sentBy, hcall]
    rw [hsent, ← List.append_assoc]
    refine (List.subperm_append_right _).mpr ?_
    simp only [returnedBy, hcall]
    exact hdelivery.returned hrun
  | quiet hcall _ hitems =>
    simp only [returnedBy, sentBy, hcall, List.nil_append, List.append_nil]
    exact (hitems.filterMap _).subperm

/-- Every withdrawal that came back, and every one still out, was started on its own. -/
theorem returned_subperm (h : Trace (worldStep host) w₀ tr w) (h₀ : w₀.pending = []) :
    (tr.flatMap (returnedBy host) ++ w.withdrawals).Subperm (tr.flatMap (sentBy host)) := by
  induction h with
  | nil => simp [World.withdrawals, h₀, Outbox.items]
  | @snoc tr s l t _ hst ih =>
    have hstep := World.step_withdrawals (x := ⟨s, l, t⟩) hst
    simp only [List.flatMap_append, List.flatMap_singleton]
    rw [List.append_assoc]
    refine ((List.subperm_append_left _).mpr hstep).trans ?_
    rw [← List.append_assoc]
    exact (List.subperm_append_right _).mpr ih

/-- What a call sends out to a creator, it announces. -/
theorem Logs.sent {env : Env} {s : Contract} {c : Call} {after : Shown} {ps : List Promise}
    {es : List Event} (h : Logs env s c after ps es) :
    ps.filterMap Promise.withdrawalId = [] ∨ ∃ creatorId amount atMs,
      c.announces env s = some (.creatorWithdrawal creatorId amount atMs) ∧
        ps.filterMap Promise.withdrawalId = [creatorWithdrawalId creatorId amount atMs] := by
  cases h with
  | quiet _ hps => exact .inl (List.filterMap_eq_nil_iff.mpr hps)
  | creatorWithdrawal hcreator hamount hid =>
    subst hcreator hamount hid
    exact .inr ⟨_, _, _, rfl, rfl⟩
  | _ => exact .inl rfl

theorem sentBy_cases (h : worldStep host x.pre x.label x.post) :
    sentBy host x = [] ∨ ∃ creatorId amount atMs,
      announcement host x = some (.creatorWithdrawal creatorId amount atMs) ∧
        sentBy host x = [creatorWithdrawalId creatorId amount atMs] := by
  cases hcall : ranCall host x with
  | none => exact .inl (by simp [sentBy, hcall])
  | some r =>
    obtain ⟨rest, -, rfl, hrun, -⟩ := ranCall_cases h hcall
    have hlogs := Call.run_logs hrun
    simpa [sentBy, announcement, hcall] using hlogs.sent

/-! ## Keys of a run -/

/-- Two calls that announce the same occasion. -/
def Repeats (host : Host) (x y : Transition World Label) : Prop :=
  ∃ a, announcement host x = some a ∧ announcement host y = some a

/-- Two events with one name and one key. -/
def Event.SameKey (e f : Event) : Prop :=
  e.event = f.event ∧ e.idempotencyKey = f.idempotencyKey

theorem Event.Spells.sameKey {e f : Event} {m : Mark} (he : e.Spells m) (hf : f.Spells m) :
    e.SameKey f :=
  ⟨he.event.trans hf.event.symm, he.key.trans hf.key.symm⟩

theorem Event.Spells.eq_of_sameKey {e f : Event} {m n : Mark} (he : e.Spells m) (hf : f.Spells n)
    (hm : m.Proper) (hn : n.Proper) (h : e.SameKey f) : m = n := by
  have hkey : some m.key = some n.key := he.key.symm.trans (h.2.trans hf.key)
  exact Mark.eq_of_key hm hn (he.event.symm.trans (h.1.trans hf.event)) (Option.some.inj hkey)

/-- Without a repetition every withdrawal is started once. -/
theorem sent_nodup (h : Trace (worldStep host) w₀ tr w)
    (honce : tr.Pairwise fun x y => ¬ Repeats host x y) : (tr.flatMap (sentBy host)).Nodup := by
  have hcases : ∀ x ∈ tr, sentBy host x = [] ∨ ∃ creatorId amount atMs,
      announcement host x = some (.creatorWithdrawal creatorId amount atMs) ∧
        sentBy host x = [creatorWithdrawalId creatorId amount atMs] := by
    intro x hx
    exact sentBy_cases (h.step_of_mem hx)
  rw [List.Nodup, List.pairwise_flatMap]
  constructor
  · intro x hx
    rcases hcases x hx with hnil | ⟨_, _, _, -, hone⟩
    · simp [hnil]
    · simp [hone]
  · refine honce.imp_of_mem ?_
    intro x y hx hy hxy a ha b hb hab
    rcases hcases x hx with hnil | ⟨creatorId, amount, atMs, hannounce, hone⟩
    · simp [hnil] at ha
    rcases hcases y hy with hnil | ⟨creatorId', amount', atMs', hannounce', hone'⟩
    · simp [hnil] at hb
    rw [hone, List.mem_singleton] at ha
    rw [hone', List.mem_singleton] at hb
    have hkey : creatorWithdrawalId creatorId amount atMs =
        creatorWithdrawalId creatorId' amount' atMs' := by
      rw [← ha, ← hb, hab]
    have heq : Occasion.creatorWithdrawal creatorId amount atMs =
        .creatorWithdrawal creatorId' amount' atMs' :=
      Occasion.eq_of_key trivial trivial rfl hkey
    exact hxy ⟨_, hannounce, heq ▸ hannounce'⟩

/-- Two marks of a run that are equal are an occasion that came again. -/
theorem marked_once (h₀ : Initial host w₀) (h : Trace (worldStep host) w₀ tr w)
    (honce : tr.Pairwise fun x y => ¬ Repeats host x y) :
    tr.Pairwise fun x y => ∀ m r r', Marked host x m r → Marked host y m r' →
      ∃ a, m = .occasion a := by
  have hreturned : (tr.flatMap (returnedBy host)).Nodup := by
    obtain ⟨l, hperm, hsub⟩ := returned_subperm h h₀.fresh.2
    have hnodup := hperm.nodup_iff.mp ((sent_nodup h honce).sublist hsub)
    exact hnodup.of_append_left
  rw [List.Nodup, List.pairwise_flatMap] at hreturned
  have hkept : tr.Pairwise fun x y => x.post.contract.shown.Later y.pre.contract.shown :=
    h.pairwise (I := fun _ => True) (fun _ _ _ _ _ => trivial)
      (fun x b y _ _ hb _ => later_of_trace hb) trivial
  refine (hreturned.2.and hkept).imp ?_
  intro x y ⟨hdistinct, hlater⟩ m r r' hx hy
  rcases hx.made.once hlater hy.made with ha | ⟨succeeded, withdrawalId, rfl⟩
  · exact ha
  · obtain ⟨_, _, hx'⟩ := hx.made
    obtain ⟨_, _, hy'⟩ := hy.made
    refine absurd rfl (hdistinct withdrawalId ?_ withdrawalId ?_)
    · simp [returnedBy, hx.call, hx', Call.withdrawalId]
    · simp [returnedBy, hy.call, hy', Call.withdrawalId]

/-- The events of a run have keys of their own exactly when no occasion comes twice. -/
theorem event_keys_iff (h₀ : Initial host w₀) (h : Trace (worldStep host) w₀ tr w) :
    (marketEvents host tr).Pairwise (fun e f => ¬ e.SameKey f) ↔
      tr.Pairwise fun x y => ¬ Repeats host x y := by
  have hmarked : ∀ x ∈ tr, (announcement host x = none ∧ marketEventsOf host x = []) ∨
      ∃ m r, Marked host x m r := by
    intro x hx
    exact marked_cases (h.step_of_mem hx)
  rw [marketEvents_eq, List.pairwise_flatMap]
  constructor
  · rintro ⟨-, hpairs⟩
    refine hpairs.imp_of_mem ?_
    rintro x y hx hy hkeys ⟨a, ha, ha'⟩
    rcases hmarked x hx with ⟨hnone, -⟩ | ⟨m, r, hm⟩
    · cases hnone.symm.trans ha
    rcases hmarked y hy with ⟨hnone, -⟩ | ⟨n, r', hn⟩
    · cases hnone.symm.trans ha'
    obtain rfl := hm.announced a ha
    obtain rfl := hn.announced a ha'
    obtain ⟨e, he, hspells⟩ := hm.spells
    obtain ⟨f, hf, hspells'⟩ := hn.spells
    exact hkeys e (by simp [he]) f (by simp [hf]) (hspells.sameKey hspells')
  · intro honce
    constructor
    · intro x hx
      rcases hmarked x hx with ⟨-, hnil⟩ | ⟨m, r, hm⟩
      · simp [hnil]
      · obtain ⟨e, he, -⟩ := hm.spells
        simp [he]
    · refine (honce.and (marked_once h₀ h honce)).imp_of_mem ?_
      rintro x y hx hy ⟨hxy, hdistinct⟩ e he f hf hsame
      rcases hmarked x hx with ⟨-, hnil⟩ | ⟨m, r, hm⟩
      · simp [hnil] at he
      rcases hmarked y hy with ⟨-, hnil⟩ | ⟨n, r', hn⟩
      · simp [hnil] at hf
      obtain rfl := (hm.spells_of_mem he).eq_of_sameKey (hn.spells_of_mem hf) hm.proper hn.proper
        hsame
      obtain ⟨a, rfl⟩ := hdistinct m r r' hm hn
      exact hxy ⟨a, announcement_of_occasion hm, announcement_of_occasion hn⟩

end Run

/-- The admin proposes new accounts for two roles in one block. -/
def Vectors.twoProposals : List Label :=
  [.call (context config.adminAccountId issuedAtMs)
      (.proposeRoleRotation .guardian "guardian-2.testnet"),
    .call (context config.adminAccountId issuedAtMs)
      (.proposeRoleRotation .paymentOperator "operator-2.testnet")]

/-- The role an event names. -/
def Vectors.role (e : Event) : Option String :=
  match e.field "role" with
  | some (.str role) => some role
  | _ => none

/-- Two events with different roles share their name and their key. -/
def Vectors.sharesKey : List Event → Bool
  | [e, f] => decide (role e ≠ role f ∧ e.event = f.event ∧ e.idempotencyKey = f.idempotencyKey)
  | _ => false

/-- Two different events of one run share their name and their key. -/
theorem event_keys_shared :
    ∃ w₀ tr w, Initial Vectors.host w₀ ∧ Trace (worldStep Vectors.host) w₀ tr w ∧
      ∃ e f, marketEvents Vectors.host tr = [e, f] ∧ e ≠ f ∧ e.SameKey f := by
  have hrun : (Vectors.worldRun Vectors.host Vectors.twoProposals).map (fun r =>
      Vectors.sharesKey (marketEvents Vectors.host r.1)) = some true := by decide +kernel
  obtain ⟨w₀, tr, w, h₀, h, hpair⟩ := Vectors.trace_of_worldRun hrun
  refine ⟨w₀, tr, w, h₀, h, ?_⟩
  unfold Vectors.sharesKey at hpair
  split at hpair
  · next e f hevents =>
      obtain ⟨hrole, hsame⟩ := of_decide_eq_true hpair
      refine ⟨e, f, hevents, ?_, hsame⟩
      rintro rfl
      exact hrole rfl
  · cases hpair

theorem event_keys_twoProposals :
    ∃ w₀ tr w, Initial Vectors.host w₀ ∧ Trace (worldStep Vectors.host) w₀ tr w ∧ tr ≠ [] ∧
      ((marketEvents Vectors.host tr).Pairwise (fun e f => ¬ e.SameKey f) ↔
        tr.Pairwise fun x y => ¬ Repeats Vectors.host x y) := by
  have hrun : (Vectors.worldRun Vectors.host Vectors.twoProposals).map (·.1.length) = some 2 := by
    decide +kernel
  obtain ⟨w₀, tr, w, h₀, h, hlength⟩ := Vectors.trace_of_worldRun hrun
  refine ⟨w₀, tr, w, h₀, h, ?_, event_keys_iff h₀ h⟩
  rintro rfl
  cases hlength

end Youtick.MarketV2
