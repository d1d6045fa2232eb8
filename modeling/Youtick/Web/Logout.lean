import Youtick.Lib.Obligations
import Youtick.Lib.Requests
import Youtick.Web.DeviceSessionSafety

/-!
# Web: logout is final

What the store holds after a logout was read for and written after it (`logout_is_final`): a write is
fenced by the revision that its own call has read, and every invalidation raises the revision. A device
key is returned right after its session was read: of its reads and returns a call can be reasoned about
as if it ran alone, since they stand in the history under its own number.
-/

set_option autoImplicit false

namespace Youtick.Web.Sessions

open Youtick.Lib

/-! ## What one call has read and returned -/

/-- The line is a read or a return of this request. -/
def Fact.concerns (number : Nat) : Fact → Bool
  | .read reader _ _ _ => decide (reader = number)
  | .resolved resolver _ _ => decide (resolver = number)
  | _ => false

/-- The reads and returns of one request, newest first. -/
def World.own (w : World) (number : Nat) : List Fact := w.history.filter (Fact.concerns number)

/-- A key is returned right after the session of the key was read. -/
def Confirmed (done : List Fact) : Prop :=
  ∀ newer number accountId key older, done = newer ++ .resolved number accountId key :: older →
    ∃ revision session rest, older = .read number accountId revision session :: rest ∧
      session.map (·.certificate.sessionPublicKey) = some key

/-- The line is no return of a key. -/
def Fact.Open : Fact → Prop
  | .resolved _ _ _ => False
  | _ => True

/-- The operation returns no key. -/
def SessionOp.Quiet : {β : Type} → SessionOp β → Prop
  | _, .resolve _ _ => False
  | _, _ => True

section Own

variable {fact : Fact} {done added : List Fact} {browser : Browser} {w u : World} {i : SessionInput}
  {β : Type} {b : β} {n : Nat}

theorem Confirmed.nil : Confirmed [] := by
  intro newer _ _ _ older h
  cases newer <;> cases h

theorem Confirmed.cons (h : Confirmed done) (hfact : fact.Open) : Confirmed (fact :: done) := by
  intro newer number accountId key older heq
  cases newer with
  | nil =>
    obtain ⟨rfl, -⟩ := List.cons.inj heq
    exact hfact.elim
  | cons x newer =>
    obtain ⟨-, rfl⟩ := List.cons.inj heq
    exact h newer number accountId key older rfl

theorem Confirmed.append (h : Confirmed done) (hadded : ∀ x ∈ added, x.Open) :
    Confirmed (added ++ done) := by
  induction added with
  | nil => exact h
  | cons x added ih =>
    apply Confirmed.cons
    · exact ih fun y hy => hadded y (List.mem_cons_of_mem _ hy)
    · exact hadded x List.mem_cons_self

/-- The key of a session that was just read may be returned. -/
theorem Confirmed.resolved {number revision : Nat} {accountId key : String}
    {session : Option DeviceSession}
    (h : Confirmed (.read number accountId revision session :: done))
    (hkey : session.map (·.certificate.sessionPublicKey) = some key) :
    Confirmed (.resolved number accountId key :: .read number accountId revision session :: done) := by
  intro newer number' accountId' key' older heq
  cases newer with
  | nil =>
    obtain ⟨hhead, rfl⟩ := List.cons.inj heq
    cases hhead
    exact ⟨revision, session, done, rfl, hkey⟩
  | cons x newer =>
    obtain ⟨-, htail⟩ := List.cons.inj heq
    exact h newer number' accountId' key' older htail

/-- What an operation adds to the history concerns no other request. -/
theorem exec_adds {op : NumberedOp β} (h : exec browser β op i w = some (b, u)) :
    w.requests ≤ u.requests ∧ ∃ added, u.history = added ++ w.history ∧
      (∀ x ∈ added, ∀ m, m ≠ op.number → x.concerns m = false) ∧
      (op.op.Quiet → ∀ x ∈ added, x.Open) := by
  obtain ⟨k, n, op⟩ := op
  have hnone (hrequests : w.requests ≤ u.requests) (hhistory : u.history = w.history) :
      w.requests ≤ u.requests ∧ ∃ added, u.history = added ++ w.history ∧
        (∀ x ∈ added, ∀ m, m ≠ n → x.concerns m = false) ∧
        (op.Quiet → ∀ x ∈ added, x.Open) :=
    ⟨hrequests, [], hhistory, fun _ hx => absurd hx List.not_mem_nil,
      fun _ _ hx => absurd hx List.not_mem_nil⟩
  have hone (fact : Fact) (hrequests : w.requests ≤ u.requests)
      (hhistory : u.history = fact :: w.history) (hothers : ∀ m, m ≠ n → fact.concerns m = false)
      (hopen : op.Quiet → fact.Open) :
      w.requests ≤ u.requests ∧ ∃ added, u.history = added ++ w.history ∧
        (∀ x ∈ added, ∀ m, m ≠ n → x.concerns m = false) ∧
        (op.Quiet → ∀ x ∈ added, x.Open) := by
    refine ⟨hrequests, [fact], hhistory, fun x hx => ?_, fun hquiet x hx => ?_⟩
    · rw [List.mem_singleton.mp hx]
      exact hothers
    · rw [List.mem_singleton.mp hx]
      exact hopen hquiet
  have hread (m : Nat) (hm : m ≠ n) : decide (n = m) = false := decide_eq_false (Ne.symm hm)
  cases op with
  | accept =>
    cases h
    exact hnone (Nat.le_succ _) rfl
  | readStored =>
    cases h
    exact hone _ le_rfl rfl hread fun _ => trivial
  | resolve =>
    cases h
    exact hone _ le_rfl rfl hread fun hquiet => hquiet.elim
  | readProgress | update =>
    cases h
    exact hone _ le_rfl rfl (fun _ _ => rfl) fun _ => trivial
  | save session revision generation reuseDevice =>
    change storeExec browser n k w (.save session revision generation reuseDevice) = some (b, u) at h
    unfold storeExec at h
    dsimp only at h
    split at h
    · cases h
      exact hnone le_rfl rfl
    · split at h
      · cases h
        exact hnone le_rfl rfl
      · cases h
        exact hone _ le_rfl rfl (fun _ _ => rfl) fun _ => trivial
  | savePosition watcher record =>
    change storeExec browser n k w (.savePosition watcher record) = some (b, u) at h
    unfold storeExec at h
    dsimp only at h
    split at h
    · cases h
      exact hnone le_rfl rfl
    · split at h
      · cases h
        exact hnone le_rfl rfl
      · cases h
        exact hone _ le_rfl rfl (fun _ _ => rfl) fun _ => trivial
  | openWatch watcher watch =>
    change tabExec browser n k i w (.openWatch watcher watch) = some (b, u) at h
    unfold tabExec at h
    dsimp only at h
    split at h
    · cases h
      exact hnone le_rfl rfl
    · cases h
      exact hnone le_rfl rfl
  | join work =>
    obtain ⟨result, -, heq⟩ := Option.map_eq_some_iff.mp h
    cases heq
    exact hnone le_rfl rfl
  | _ =>
    cases h
    exact hnone le_rfl rfl

theorem own_of_others {added : List Fact} (hhistory : u.history = added ++ w.history)
    (hadded : ∀ x ∈ added, x.concerns n = false) : u.own n = w.own n := by
  unfold World.own
  rw [hhistory, List.filter_append, List.filter_eq_nil_iff.mpr, List.nil_append]
  intro x hx
  rw [hadded x hx]
  exact Bool.false_ne_true

/-- An operation that returns no key leaves what was returned confirmed. -/
theorem own_of_quiet {op : NumberedOp β} (hop : op.op.Quiet) (hdone : Confirmed (w.own n))
    (h : exec browser β op i w = some (b, u)) : Confirmed (u.own n) := by
  obtain ⟨-, added, hhistory, -, hopen⟩ := exec_adds h
  unfold World.own
  rw [hhistory, List.filter_append]
  apply hdone.append
  intro x hx
  exact hopen hop x (List.mem_of_mem_filter hx)

end Own

/-- The numbers of the requests of a run. -/
def sessionNumbering (browser : Browser) (env : SessionEnv) :
    Numbering (sessionSystem browser env) Fact where
  taken := World.requests
  own := World.own
  number := fun op => op.number
  accept := fun incoming => ⟨incoming.tab, 0, .accept⟩
  rest := fun incoming n => numbered incoming.tab n (handle browser env n incoming.call)
  broken := cancelled
  handle_eq := fun _ => rfl
  accept_exec := by
    intro incoming i w n u h
    cases h
    exact ⟨rfl, rfl, fun _ => rfl⟩
  rest_uses := fun _ _ => Handler.Uses.lift _ fun _ => rfl
  exec_own := by
    intro β op i w b u h
    obtain ⟨hrequests, added, hhistory, hothers, -⟩ := exec_adds h
    exact ⟨hrequests, fun m hm => own_of_others hhistory fun x hx => hothers x hx m hm⟩
  world_own := by
    intro delivery w u h
    change deliver delivery w = some u at h
    unfold deliver at h
    split at h
    · cases h
      exact ⟨rfl, fun _ => rfl⟩
    · cases h

/-! ## Programs that return no key -/

section Quiet

variable {env : SessionEnv} {α τ : Type} {accountId : String}

theorem SessionOp.Fencing.quiet {revision : Option Nat} {β : Type} {op : SessionOp β}
    (h : op.Fencing revision) : op.Quiet := by
  cases op with
  | resolve => exact h
  | _ => trivial

theorem perform_quiet {β : Type} {op : SessionOp β} {code : String} (hop : op.Quiet) :
    (Handler.perform code op : SessionHandler β).Uses fun op => op.Quiet :=
  Handler.Uses.perform hop

theorem quiet_of_fencing {p : SessionHandler τ} (h : p.Uses fun op => op.Fencing none) :
    p.Uses fun op => op.Quiet :=
  h.mono fun _ hop => hop.quiet

/-- So is a program that reads first and saves under what it has read. -/
theorem FencedByRead.quiet {p : SessionHandler τ} (h : FencedByRead p) :
    p.Uses fun op => op.Quiet := by
  obtain ⟨readFrom, rest, rfl, hrest⟩ := h
  refine Handler.Uses.bind (quiet_of_fencing readStored_fencing) fun found => ?_
  exact (hrest found).mono fun _ hop => hop.quiet

theorem prepareWork_quiet {given : Option String} {generation : Nat} :
    (prepareWork env given generation).Uses fun op => op.Quiet := by
  unfold prepareWork
  split
  · exact signSession_fenced.quiet
  · refine Handler.Uses.bind (quiet_of_fencing readValidDeviceSession_fencing)
      fun found => ?_
    refine Handler.Uses.bind (quiet_of_fencing (requireGeneration_fencing _))
      fun _ => ?_
    split
    · trivial
    · exact signSession_fenced.quiet

theorem shareWork_quiet {key : String} {work : Nat} {session : α → DeviceSession}
    {p : SessionHandler α} (hp : p.Uses fun op => op.Quiet) :
    (shareWork key work session p).Uses fun op => op.Quiet := by
  unfold shareWork
  refine Handler.Uses.bind (Handler.Uses.rescue ?_ fun _ => trivial) fun outcome => ?_
  · exact Handler.Uses.bind hp fun _ => trivial
  · exact Handler.Uses.bind (perform_quiet trivial) fun _ => Handler.Uses.ofExcept _

theorem joinWork_quiet (work : Nat) : (joinWork work).Uses fun op => op.Quiet :=
  quiet_of_fencing (joinWork_fencing work)

theorem prepareDeviceSession_quiet {given : Option String} {aborted : Bool} :
    (prepareDeviceSession env given aborted).Uses fun op => op.Quiet := by
  unfold prepareDeviceSession
  refine Handler.Uses.bind (Handler.Uses.ofExcept _) fun _ => ?_
  refine Handler.Uses.bind (perform_quiet trivial) fun pending => ?_
  split
  · exact joinWork_quiet _
  · exact shareWork_quiet prepareWork_quiet

theorem playbackWork_quiet {generation : Nat} :
    (playbackWork env accountId generation).Uses fun op => op.Quiet := by
  unfold playbackWork
  refine Handler.Uses.bind (quiet_of_fencing readValidDeviceSession_fencing)
    fun found => ?_
  refine Handler.Uses.bind (quiet_of_fencing (requireGeneration_fencing _))
    fun _ => ?_
  dsimp only
  split
  · trivial
  · apply FencedByRead.quiet
    refine ⟨accountId, _, rfl, fun found => ?_⟩
    refine Handler.Uses.bind createKey_fencing fun created => ?_
    refine Handler.Uses.bind (perform_fencing trivial) fun originHash => ?_
    exact Handler.Uses.bind saveSession_fencing fun _ => trivial

theorem rememberPlaybackDelegate_quiet {authorization : PlaybackSessionAuthorization}
    {signedDelegate : String} :
    (rememberPlaybackDelegate accountId authorization signedDelegate).Uses
      fun op => op.Quiet := by
  unfold rememberPlaybackDelegate
  refine Handler.Uses.bind (perform_quiet trivial) fun looked => ?_
  apply FencedByRead.quiet
  refine ⟨accountId, _, rfl, fun found => ?_⟩
  refine Handler.Uses.bind (Handler.Uses.ofExcept _) fun session => ?_
  refine Handler.Uses.bind (perform_fencing trivial) fun certificateSha256 => ?_
  refine Handler.Uses.bind (Handler.Uses.ofExcept _) fun _ => ?_
  exact Handler.Uses.bind saveSession_fencing fun _ => trivial

theorem openWatchProgress_quiet {resumable : Rat → Rat → Bool} {number : Nat}
    {input : PlaybackInput} {aborted : Bool} :
    (openWatchProgress resumable number input aborted).Uses fun op => op.Quiet := by
  unfold openWatchProgress
  refine Handler.Uses.bind (perform_quiet trivial) fun looked => ?_
  obtain ⟨generation, expectedRevision⟩ := looked
  cases expectedRevision with
  | none => trivial
  | some expectedRevision =>
    cases aborted with
    | true => trivial
    | false =>
      refine Handler.Uses.bind (perform_quiet trivial) fun watcher => ?_
      refine Handler.Uses.bind (Handler.Uses.rescue ?_ fun _ => trivial) fun opened => ?_
      · refine Handler.Uses.bind (perform_quiet trivial) fun found => ?_
        obtain ⟨revision, deviceKey, position⟩ := found
        dsimp only
        split
        · trivial
        · split
          · trivial
          · exact Handler.Uses.bind (perform_quiet trivial) fun _ => trivial
      · cases opened with
        | some opened => trivial
        | none =>
          refine Handler.Uses.bind ?_ fun _ => trivial
          exact quiet_of_fencing (destroyWatch_fencing watcher)

end Quiet

/-! ## Every return of a key is confirmed -/

section Returns

variable {browser : Browser} {env : SessionEnv} {k n : Nat} {done : List Fact} {α τ : Type}

/-- A program that returns no key leaves what was returned confirmed. -/
theorem quiet_alone {p : SessionHandler τ} (hp : p.Uses fun op => op.Quiet)
    (hdone : Confirmed done) :
    (sessionNumbering browser env).Alone Confirmed n (fun _ past => Confirmed past)
      (numbered k n p) done := by
  apply Numbering.Alone.of_uses (P := fun op => op.op.Quiet)
  · intro β op hop i w b u hw hexec
    exact own_of_quiet hop hw hexec
  · exact Handler.Uses.lift_of _ hp
  · exact hdone

theorem quiet_anyhow {p : SessionHandler τ} (hp : p.Uses fun op => op.Quiet)
    (hdone : Confirmed done) :
    (sessionNumbering browser env).Alone Confirmed n Numbering.Anyhow (numbered k n p) done :=
  (quiet_alone hp hdone).mono fun _ _ _ => trivial

/-- A part of a program that returns no key. -/
theorem quiet_bind {p : SessionHandler α} {f : α → SessionHandler τ}
    (hp : p.Uses fun op => op.Quiet) (hdone : Confirmed done)
    (h : ∀ a past, Confirmed past →
      (sessionNumbering browser env).Alone Confirmed n Numbering.Anyhow (numbered k n (f a)) past) :
    (sessionNumbering browser env).Alone Confirmed n Numbering.Anyhow
      (numbered k n (p >>= f)) done := by
  rw [numbered_bind]
  apply (quiet_alone hp hdone).bind
  · exact h
  · exact fun _ _ _ => trivial

/-- An operation that neither reads nor returns. -/
theorem silent_perform {β : Type} {op : SessionOp β} {code : String} {f : β → SessionHandler τ}
    (hop : ∀ i w b u, exec browser β ⟨k, n, op⟩ i w = some (b, u) → u.history = w.history)
    (hdone : Confirmed done)
    (h : ∀ b, (sessionNumbering browser env).Alone Confirmed n Numbering.Anyhow
      (numbered k n (f b)) done) :
    (sessionNumbering browser env).Alone Confirmed n Numbering.Anyhow
      (numbered k n (Handler.perform code op >>= f)) done := by
  rw [numbered_bind]
  apply Numbering.Alone.perform
  · exact fun _ => trivial
  · intro i w b u hw hexec
    have hown : u.own n = w.own n := congrArg (List.filter (Fact.concerns n)) (hop i w b u hexec)
    change w.own n = done at hw
    change Confirmed (u.own n) ∧ (sessionNumbering browser env).Alone Confirmed n Numbering.Anyhow
      (numbered k n (f b)) (u.own n)
    rw [hown, hw]
    exact ⟨hdone, h b⟩

/-- A check that throws returns nothing. -/
theorem except_bind {x : Except String α} {f : α → SessionHandler τ}
    (h : ∀ a, x = .ok a → (sessionNumbering browser env).Alone Confirmed n Numbering.Anyhow
      (numbered k n (f a)) done) :
    (sessionNumbering browser env).Alone Confirmed n Numbering.Anyhow
      (numbered k n (Handler.ofExcept x >>= f)) done := by
  cases x with
  | ok a => exact h a rfl
  | error e => trivial

/-- The session is read under the account, and nothing else until its key is returned. -/
theorem confirmPlaybackDevice_alone {accountId : String} {session : DeviceSession}
    {generation : Nat} (hdone : Confirmed done) :
    (sessionNumbering browser env).Alone Confirmed n Numbering.Anyhow
      (numbered k n (confirmPlaybackDevice accountId session generation)) done := by
  unfold confirmPlaybackDevice
  refine quiet_bind (perform_quiet trivial) hdone fun certificateHash past hpast => ?_
  change (sessionNumbering browser env).Alone Confirmed n Numbering.Anyhow
    (numbered k n (Handler.perform storageUnavailable .watchSessionChanges >>= fun _ =>
      Handler.perform storageUnavailable (.readStored accountId) >>= fun found =>
        Handler.perform storageUnavailable (.observe found.1) >>= fun _ => _)) past
  refine quiet_bind (perform_quiet trivial) hpast fun _ past hpast => ?_
  rw [numbered_bind]
  apply Numbering.Alone.perform
  · exact fun _ => trivial
  intro i w found u hw hexec
  cases hexec
  change w.own n = past at hw
  subst hw
  have hown : (w.log (.read n accountId w.store.current (w.store.sessions.get accountId))).own n =
      .read n accountId w.store.current (w.store.sessions.get accountId) :: w.own n :=
    List.filter_cons_of_pos (decide_eq_true rfl)
  have hread : Confirmed (.read n accountId w.store.current (w.store.sessions.get accountId) ::
      w.own n) := hpast.cons trivial
  change Confirmed (World.own _ n) ∧ (sessionNumbering browser env).Alone Confirmed n
    Numbering.Anyhow _ (World.own _ n)
  rw [hown]
  refine ⟨hread, ?_⟩
  refine silent_perform (fun _ _ _ _ hexec => ?_) hread fun _ => ?_
  · cases hexec
    rfl
  unfold requireGeneration
  refine silent_perform (fun _ _ _ _ hexec => ?_) hread fun looked => ?_
  · cases hexec
    rfl
  refine except_bind fun _ _ => ?_
  refine except_bind fun _ hchecked => ?_
  have hkey := require_eq_ok.mp hchecked
  rw [numbered_bind]
  apply Numbering.Alone.perform
  · exact fun _ => trivial
  intro j v returned x hv hexec
  cases hexec
  have hreturned : (v.log (.resolved n accountId session.certificate.sessionPublicKey)).own n =
      .resolved n accountId session.certificate.sessionPublicKey :: v.own n :=
    List.filter_cons_of_pos (decide_eq_true rfl)
  change v.own n = _ at hv
  change Confirmed (World.own _ n) ∧ True
  rw [hreturned, hv]
  exact ⟨hread.resolved hkey, trivial⟩

theorem preparePlaybackDevice_alone {accountId : String} (hdone : Confirmed done) :
    (sessionNumbering browser env).Alone Confirmed n Numbering.Anyhow
      (numbered k n (preparePlaybackDevice env accountId)) done := by
  unfold preparePlaybackDevice
  refine except_bind fun _ _ => ?_
  refine quiet_bind (perform_quiet trivial) hdone fun pending past hpast => ?_
  dsimp only
  split
  · refine quiet_bind (joinWork_quiet _) hpast fun session past hpast => ?_
    exact confirmPlaybackDevice_alone hpast
  · refine quiet_bind (shareWork_quiet playbackWork_quiet) hpast fun worked past hpast => ?_
    obtain ⟨session, expectedGeneration⟩ := worked
    exact confirmPlaybackDevice_alone hpast

/-- Whatever the call, every key it returns is confirmed. -/
theorem handle_alone {call : Call} (hdone : Confirmed done) :
    (sessionNumbering browser env).Alone Confirmed n Numbering.Anyhow
      (numbered k n (handle browser env n call)) done := by
  cases call with
  | prepareDeviceSession accountId aborted =>
    exact quiet_anyhow (Handler.Uses.bind prepareDeviceSession_quiet fun _ => trivial) hdone
  | getDeviceSession accountId =>
    refine quiet_anyhow (Handler.Uses.bind ?_ fun _ => trivial) hdone
    apply quiet_of_fencing
    exact getDeviceSession_fencing
  | preparePlaybackDevice accountId =>
    change (sessionNumbering browser env).Alone Confirmed n Numbering.Anyhow
      (numbered k n (preparePlaybackDevice env accountId >>= fun _ => _)) done
    rw [numbered_bind]
    apply (preparePlaybackDevice_alone hdone).bind
    · exact fun _ _ _ => trivial
    · exact fun _ _ _ => trivial
  | rememberPlaybackDelegate accountId authorization signedDelegate =>
    exact quiet_anyhow (Handler.Uses.bind rememberPlaybackDelegate_quiet fun _ => trivial) hdone
  | openWatchProgress input aborted =>
    exact quiet_anyhow (Handler.Uses.bind openWatchProgress_quiet fun _ => trivial) hdone
  | save watcher position duration force =>
    refine quiet_anyhow (Handler.Uses.bind ?_ fun _ => trivial) hdone
    exact quiet_of_fencing (savePosition_fencing)
  | destroyWatch watcher =>
    refine quiet_anyhow (Handler.Uses.bind ?_ fun _ => trivial) hdone
    exact quiet_of_fencing (destroyWatch_fencing watcher)
  | abortWatch watcher =>
    exact quiet_anyhow (Handler.Uses.bind (perform_quiet trivial) fun _ => trivial) hdone
  | clearDeviceSession accountId =>
    cases accountId with
    | none =>
      refine quiet_anyhow (Handler.Uses.bind ?_ fun _ => trivial) hdone
      exact quiet_of_fencing (updateDeviceSession_fencing _)
    | some accountId =>
      refine quiet_anyhow (Handler.Uses.bind ?_ fun _ => trivial) hdone
      exact quiet_of_fencing (updateDeviceSession_fencing _)
  | suspendDeviceSession =>
    refine quiet_anyhow (Handler.Uses.bind ?_ fun _ => trivial) hdone
    exact quiet_of_fencing (updateDeviceSession_fencing _)

/-- In every run, what each call has returned is confirmed. -/
theorem returns_confirmed {store₀ : Store}
    {tr : List (Transition (Config World NumberedOp String Answer Incoming)
      (Event SessionInput Incoming Delivery))}
    {c : Config World NumberedOp String Answer Incoming}
    (h : Trace (ExecStep (sessionSystem browser env).next) ⟨start store₀, []⟩ tr c) (n : Nat) :
    Confirmed (c.shared.own n) := by
  have hrest (incoming : Incoming) (number : Nat) :
      (sessionNumbering browser env).Alone Confirmed number Numbering.Anyhow
        ((sessionNumbering browser env).rest incoming number) [] :=
    handle_alone Confirmed.nil
  have hnone (number : Nat) :
      Confirmed ((sessionNumbering browser env).own (start store₀) number) := Confirmed.nil
  have hsound := (sessionNumbering browser env).run hrest hnone (fun _ _ => rfl) h
  exact hsound.good n

end Returns

/-! ## Logout is final -/

section Final

variable {store₀ : Store} {w u : World} {history newer older : List Fact}

/-- Every session and position after a full logout was read for and written after it. -/
theorem Kept.after_clear {revision : Nat} (h : Kept store₀ w)
    (hhistory : w.history = newer ++ .updated .clear revision :: older) :
    (∀ accountId session, w.store.sessions.get accountId = some session →
      SessionWritten (fun _ => True) session newer) ∧
    ∀ input position, w.store.positions.get input = some position →
      PositionWritten (fun _ => True) input position newer := by
  constructor
  · intro accountId session hget
    rcases h.sessions accountId session hget with ⟨-, hnone⟩ | ⟨number, hwritten⟩
    · have hclear := hnone (.updated .clear revision) (by simp [hhistory])
      cases hclear
    · rw [hhistory] at hwritten
      exact ⟨number, hwritten.within (by simp) (fun h => h) (by simp [Fact.clears])⟩
  · intro input position hget
    rcases h.positions input position hget with ⟨-, hnone⟩ | ⟨opener, hwritten⟩
    · have hclear := hnone (.updated .clear revision) (by simp [hhistory])
      cases hclear
    · rw [hhistory] at hwritten
      exact ⟨opener, hwritten.within (by simp) (fun h => h) (by simp [Fact.clearsAll])⟩

/-- So was the session of an account after the account was cleared. -/
theorem Kept.after_clearAccount {accountId : String} {revision : Nat} (h : Kept store₀ w)
    (hhistory : w.history = newer ++ .updated (.clearAccount accountId) revision :: older) :
    ∀ session, w.store.sessions.get accountId = some session →
      SessionWritten (fun _ => True) session newer := by
  intro session hget
  rcases h.sessions accountId session hget with ⟨-, hnone⟩ | ⟨number, hwritten⟩
  · have hclear := hnone (.updated (.clearAccount accountId) revision) (by simp [hhistory])
    rw [Fact.clears, decide_eq_false_iff_not] at hclear
    exact absurd rfl hclear
  · rw [hhistory] at hwritten
    exact ⟨number, hwritten.within (by simp) (fun h => h) (by simp [Fact.clears])⟩

/-- A call has read the session of the key, and has read no other since. -/
def ReadLast (number : Nat) (accountId key : String) (older : List Fact) : Prop :=
  ∃ between revision session rest,
    older = between ++ .read number accountId revision session :: rest ∧
    (∀ fact ∈ between, ¬ fact.IsRead number) ∧
    session.map (·.certificate.sessionPublicKey) = some key

theorem Confirmed.readLast {number : Nat} {accountId key : String}
    (h : Confirmed (history.filter (Fact.concerns number)))
    (hhistory : history = newer ++ .resolved number accountId key :: older) :
    ReadLast number accountId key older := by
  have hown : history.filter (Fact.concerns number) = newer.filter (Fact.concerns number) ++
      .resolved number accountId key :: older.filter (Fact.concerns number) := by
    rw [hhistory, List.filter_append]
    exact congrArg _ (List.filter_cons_of_pos (decide_eq_true rfl))
  obtain ⟨revision, session, rest, hread, hkey⟩ := h _ _ _ _ _ hown
  obtain ⟨between, later, rfl, hbetween, -, -⟩ := List.filter_eq_cons_iff.mp hread
  refine ⟨between, revision, session, later, rfl, fun fact hfact hisRead => ?_, hkey⟩
  apply hbetween fact hfact
  cases fact with
  | read => exact decide_eq_true hisRead
  | _ => exact hisRead.elim

/-- An event of a run changes the store by a transaction that stands in the history, or not at all. -/
theorem moves_recorded {browser : Browser} {env : SessionEnv}
    {e : Event SessionInput Incoming Delivery}
    (h : Discipline.Moves (sessionDiscipline browser env store₀) e w u) : Recorded w u := by
  cases h with
  | still hsame =>
    rw [hsame]
    exact .inl ⟨rfl, rfl⟩
  | acted _ hrecorded => exact hrecorded
  | world delivery _ hdeliver =>
    change deliver delivery w = some u at hdeliver
    unfold deliver at hdeliver
    split at hdeliver
    · cases hdeliver
      exact .inl ⟨rfl, rfl⟩
    · cases hdeliver

/-- An invalidation that stands in the history has raised the revision. -/
theorem Recorded.advances {update : Update} {revision : Nat} (h : Recorded w u)
    (hhistory : u.history = .updated update revision :: w.history) :
    w.store.current < u.store.current := by
  rcases h with ⟨hsame, -⟩ | ⟨fact, hfact, htells⟩
  · rw [hsame] at hhistory
    exact absurd hhistory.symm (List.cons_ne_self _ _)
  · rw [hfact] at hhistory
    obtain ⟨rfl, -⟩ := List.cons.inj hhistory
    obtain ⟨hstore, -⟩ := htells
    rw [hstore, Store.current_update]
    exact Nat.lt_succ_self _

variable {browser : Browser} {env : SessionEnv}
  {tr : List (Transition (Config World NumberedOp String Answer Incoming)
    (Event SessionInput Incoming Delivery))}
  {c : Config World NumberedOp String Answer Incoming}

/-- In every run of any number of tabs every change of the store is one transaction that stands in the
history, and every clear or suspend raises the stored revision; what the store holds after a logout was
written, and read for, after the logout; and a device key is returned only if it was the stored one when
the call last read it. -/
theorem logout_is_final
    (h : Trace (ExecStep (sessionSystem browser env).next) ⟨start store₀, []⟩ tr c) :
    (∀ x ∈ tr, Recorded x.pre.shared x.post.shared ∧
      ∀ update revision, x.post.shared.history = .updated update revision :: x.pre.shared.history →
        x.pre.shared.store.current < x.post.shared.store.current) ∧
    (∀ newer revision older, c.shared.history = newer ++ .updated .clear revision :: older →
      (∀ accountId session, c.shared.store.sessions.get accountId = some session →
        SessionWritten (fun _ => True) session newer) ∧
      ∀ input position, c.shared.store.positions.get input = some position →
        PositionWritten (fun _ => True) input position newer) ∧
    (∀ newer accountId revision older,
      c.shared.history = newer ++ .updated (.clearAccount accountId) revision :: older →
      ∀ session, c.shared.store.sessions.get accountId = some session →
        SessionWritten (fun _ => True) session newer) ∧
    ∀ newer number accountId key older,
      c.shared.history = newer ++ .resolved number accountId key :: older →
      ReadLast number accountId key older := by
  have hstart : Kept store₀ (start store₀) := by
    refine ⟨rfl, fun accountId session hget => ?_, fun input position hget => ?_,
      fun k watcher watch hwatch => ?_⟩
    · exact .inl ⟨hget, fun _ hfact => absurd hfact List.not_mem_nil⟩
    · exact .inl ⟨hget, fun _ hfact => absurd hfact List.not_mem_nil⟩
    · exact absurd hwatch (by simp [start, Tab.cold])
  obtain ⟨hsound, hall⟩ := Discipline.run (D := sessionDiscipline browser env store₀)
    (fun incoming w _ => handle_safe incoming w) (Discipline.sound_idle hstart) h
    fun _ _ _ _ _ _ _ => trivial
  have hkept : Kept store₀ c.shared := hsound.inv
  refine ⟨fun x hx => ?_, fun newer revision older hhistory => hkept.after_clear hhistory,
    fun newer accountId revision older hhistory => hkept.after_clearAccount hhistory,
    fun newer number accountId key older hhistory => ?_⟩
  · have hrecorded := moves_recorded (hall x hx).2
    refine ⟨hrecorded, fun update revision hhistory => ?_⟩
    exact hrecorded.advances hhistory
  · exact Confirmed.readLast (returns_confirmed h number) hhistory

def logoutBrowser : Browser :=
  ⟨⟨fun _ => none, fun _ => none, fun _ => "", fun bytes => bytes, fun _ _ _ => false⟩,
    fun _ _ => true⟩

def logoutEnv : SessionEnv := ⟨"testnet", "market.near", "https://youtick.org"⟩

def logoutInput : SessionInput :=
  ⟨0, ⟨1, "private", false, "Ed25519", ["sign"]⟩, "ed25519:key", "nonce", none, true, none⟩

/-- A page that is asked to prepare a device has read the store when another page logs out. -/
def logoutRun : List (Event SessionInput Incoming Delivery) :=
  .start ⟨1, .preparePlaybackDevice "alice.near"⟩ :: List.replicate 8 (.run 0 logoutInput) ++
    .start ⟨0, .clearDeviceSession none⟩ :: List.replicate 4 (.run 1 logoutInput)

theorem logoutRun_cleared :
    (execTrace (sessionSystem logoutBrowser logoutEnv).next ⟨start ⟨none, .empty, .empty⟩, []⟩ logoutRun).map
      (fun r => r.2.shared.store.current) = some 1 := by
  rfl

theorem logout_is_final_example : ∃ tr c,
    Trace (ExecStep (sessionSystem logoutBrowser logoutEnv).next) ⟨start ⟨none, .empty, .empty⟩, []⟩ tr c ∧
      c.shared.store.current = 1 ∧
      ∀ newer revision older, c.shared.history = newer ++ .updated .clear revision :: older →
        ∀ accountId session, c.shared.store.sessions.get accountId = some session →
          SessionWritten (fun _ => True) session newer := by
  obtain ⟨⟨tr, c⟩, hrun, hcurrent⟩ := Option.map_eq_some_iff.mp logoutRun_cleared
  have htrace := trace_of_execTrace _ hrun
  refine ⟨tr, c, htrace, hcurrent, fun newer revision older hhistory => ?_⟩
  exact ((logout_is_final htrace).2.1 newer revision older hhistory).1

end Final

end Youtick.Web.Sessions
