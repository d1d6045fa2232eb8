import Youtick.Web.DeviceSessionRuns

/-!
# Web: every call on the device store is safe

A call writes a session only with the revision that it has read itself, and opens a watch only with the
revision of the watch's first read. Between the read and the write it may wait and be overtaken; what it
has read stays in the history. Parts of a program that only read, sign or invalidate need no argument
(`plain_safe`), and a part that saves under one revision needs that revision to be read before it
(`fencing_safe`).
-/

set_option autoImplicit false

namespace Youtick.Web.Sessions

open Youtick.Lib

/-- Nothing but a save under this revision needs a reason. -/
def SessionOp.Fencing (revision : Option Nat) : {β : Type} → SessionOp β → Prop
  | _, .save _ fence _ _ => revision = some fence
  | _, .openWatch _ _ => False
  | _, .resolve _ _ => False
  | _, .settle _ _ _ => False
  | _, _ => True

/-- A program that reads the stored revision first and saves under no other. -/
def FencedByRead {τ : Type} (p : SessionHandler τ) : Prop :=
  ∃ accountId rest, p = readStored accountId >>= rest ∧
    ∀ found, (rest found).Uses fun op => op.Fencing (some found.1)

/-- The operations of call number `n` in tab `k`. -/
def numbered {α : Type} (k n : Nat) (p : SessionHandler α) : Handler NumberedOp String α :=
  p.lift fun op => ⟨k, n, op⟩

theorem numbered_bind {α β : Type} (k n : Nat) (p : SessionHandler α)
    (f : α → SessionHandler β) :
    numbered k n (p >>= f) = numbered k n p >>= fun a => numbered k n (f a) :=
  Handler.lift_bind _ p f

theorem perform_fencing {revision : Option Nat} {β : Type} {op : SessionOp β} {code : String}
    (hop : op.Fencing revision) :
    (Handler.perform code op : SessionHandler β).Uses fun op => op.Fencing revision :=
  Handler.Uses.perform hop

section Rules

variable {browser : Browser} {env : SessionEnv} {store₀ : Store} {incoming : Incoming}
  {k n : Nat} {w : World} {α τ : Type}

/-- An operation that is fenced by what its call has read. -/
theorem Fencing.fenced {revision : Option Nat} {β : Type} {op : SessionOp β}
    (hop : op.Fencing revision)
    (hread : ∀ fence, revision = some fence →
      ReadAt store₀.current (Fact.IsRead n) fence w.history) : op.Fenced store₀ n w := by
  cases op with
  | save _ fence _ _ => exact hread fence hop
  | openWatch => exact hop.elim
  | _ => trivial

/-- A program that saves under one revision is safe once its call has read the revision. -/
theorem fencing_safe {revision : Option Nat} {p : SessionHandler τ}
    (hp : p.Uses fun op => op.Fencing revision)
    (hread : ∀ fence, revision = some fence →
      ReadAt store₀.current (Fact.IsRead n) fence w.history) :
    (sessionDiscipline browser env store₀).Safe incoming Discipline.Anywhere (numbered k n p) w := by
  induction p generalizing w with
  | done a => trivial
  | raise e => trivial
  | act op next onError ihNext ihError =>
    intro t hwt ht
    have hread' (v : World) (hv : w.history <:+ v.history) (fence : Nat)
        (hfence : revision = some fence) :
        ReadAt store₀.current (Fact.IsRead n) fence v.history := (hread fence hfence).mono hv
    refine ⟨ihError hp.2.2 (hread' t hwt), fun i b u _ hexec => ?_⟩
    obtain ⟨hu, hrecorded⟩ := exec_step ht (Fencing.fenced hp.1 (hread' t hwt)) hexec
    have hwu := hwt.trans hrecorded.suffix
    exact ⟨hu, hrecorded, ihNext b (hp.2.1 b) (hread' u hwu), ihError hp.2.2 (hread' u hwu)⟩

/-- A part of a program that saves nothing. -/
theorem plain_safe {p : SessionHandler α} {f : α → SessionHandler τ}
    (hw : Kept store₀ w) (hp : p.Uses fun op => op.Fencing none)
    (h : ∀ a t, Kept store₀ t → w.history <:+ t.history →
      (sessionDiscipline browser env store₀).Safe incoming Discipline.Anywhere
        (numbered k n (f a)) t) :
    (sessionDiscipline browser env store₀).Safe incoming Discipline.Anywhere
      (numbered k n (p >>= f)) w := by
  rw [numbered_bind]
  have hplain : (sessionDiscipline browser env store₀).Safe incoming Discipline.Anywhere
      (numbered k n p) w := fencing_safe hp fun _ hnone => nomatch hnone
  have htrail := Discipline.Safe.trail (D := sessionDiscipline browser env store₀)
    (A := fun v t => v.history <:+ t.history) (fun _ => List.suffix_rfl)
    (fun _ _ _ => List.IsSuffix.trans) (fun _ _ h => h) (fun _ _ h => h.suffix) hplain
  apply Discipline.Safe.bind htrail hw
  · rintro a t ht ⟨-, hwt⟩
    exact h a t ht hwt
  · exact fun _ _ _ _ => trivial

/-- One operation that is fenced by nothing. -/
theorem perform_safe {β : Type} {op : SessionOp β} {code : String} {f : β → SessionHandler τ}
    (hop : ∀ t, op.Fenced store₀ n t)
    (h : ∀ b t, Kept store₀ t →
      (sessionDiscipline browser env store₀).Safe incoming Discipline.Anywhere
        (numbered k n (f b)) t) :
    (sessionDiscipline browser env store₀).Safe incoming Discipline.Anywhere
      (numbered k n (Handler.perform code op >>= f)) w := by
  rw [numbered_bind]
  apply Discipline.Safe.perform_anywhere
  intro v _ hv i b u _ hexec
  change exec browser _ ⟨k, n, op⟩ i v = some (b, u) at hexec
  obtain ⟨hu, hrecorded⟩ := exec_step hv (hop v) hexec
  exact ⟨hu, hrecorded, h b u hu⟩

/-- The call has read the revision that `readStored` returns. -/
theorem readStored_safe {accountId : String}
    {f : Nat × Option DeviceSession → SessionHandler τ} (hw : Kept store₀ w)
    (h : ∀ revision session t, Kept store₀ t →
      ReadAt store₀.current (Fact.IsRead n) revision t.history →
      (sessionDiscipline browser env store₀).Safe incoming Discipline.Anywhere
        (numbered k n (f (revision, session))) t) :
    (sessionDiscipline browser env store₀).Safe incoming Discipline.Anywhere
      (numbered k n (readStored accountId >>= f)) w := by
  unfold readStored
  change (sessionDiscipline browser env store₀).Safe incoming Discipline.Anywhere
    (numbered k n (Handler.perform storageUnavailable .watchSessionChanges >>= fun _ =>
      Handler.perform storageUnavailable (.readStored accountId) >>= fun found =>
        Handler.perform storageUnavailable (.observe found.1) >>= fun _ => f found)) w
  refine plain_safe hw (perform_fencing ?_) fun _ t ht _ => ?_
  · trivial
  rw [numbered_bind]
  apply Discipline.Safe.perform_anywhere
  rintro v htv hv i ⟨revision, session⟩ u - hexec
  change exec browser _ ⟨k, n, .readStored accountId⟩ i v = some ((revision, session), u) at hexec
  obtain ⟨hu, hrecorded⟩ := exec_step hv (by trivial) hexec
  refine ⟨hu, hrecorded, ?_⟩
  have hread : ReadAt store₀.current (Fact.IsRead n) revision u.history := by
    cases hexec
    refine ⟨v.history.countP Fact.advances, hv.revision, .here rfl ?_⟩
    exact List.countP_cons_of_neg Bool.false_ne_true
  refine plain_safe hu (perform_fencing ?_) fun _ x hx hux => ?_
  · trivial
  exact h revision session x hx (hread.mono hux)

end Rules

/-! ## Parts that save nothing, or under one revision -/

section Parts

variable {revision : Option Nat} {env : SessionEnv} {accountId : String}

theorem requireGeneration_fencing (expected : Nat) :
    (requireGeneration expected).Uses fun op => op.Fencing revision := by
  unfold requireGeneration
  refine Handler.Uses.bind (perform_fencing trivial) fun found => ?_
  exact Handler.Uses.ofExcept _

theorem readStored_fencing :
    (readStored accountId).Uses fun op => op.Fencing revision := by
  unfold readStored
  refine Handler.Uses.bind (perform_fencing trivial) fun _ => ?_
  refine Handler.Uses.bind (perform_fencing trivial) fun found => ?_
  exact Handler.Uses.bind (perform_fencing trivial) fun _ => trivial

theorem updateDeviceSession_fencing (update : Update) :
    (updateDeviceSession update).Uses fun op => op.Fencing revision := by
  unfold updateDeviceSession
  refine Handler.Uses.bind (perform_fencing trivial) fun generation => ?_
  refine Handler.Uses.bind (perform_fencing trivial) fun cleared => ?_
  exact Handler.Uses.bind (perform_fencing trivial) fun _ => trivial

theorem validate_fencing {expectedGeneration observed : Nat} {session : DeviceSession} :
    (validate env accountId expectedGeneration observed session).Uses
      fun op => op.Fencing revision := by
  unfold validate
  refine Handler.Uses.bind (Handler.Uses.ofExcept _) fun _ => ?_
  refine Handler.Uses.bind (perform_fencing trivial) fun originHash => ?_
  refine Handler.Uses.bind (perform_fencing trivial) fun nowMs => ?_
  refine Handler.Uses.bind (Handler.Uses.ofExcept _) fun _ => ?_
  refine Handler.Uses.bind (perform_fencing trivial) fun proven => ?_
  refine Handler.Uses.bind (Handler.Uses.ofExcept _) fun _ => ?_
  exact Handler.Uses.bind (perform_fencing trivial) fun _ => trivial

/-- The validation clears, but it saves nothing. -/
theorem readValidDeviceSession_fencing :
    (readValidDeviceSession env accountId).Uses fun op => op.Fencing revision := by
  unfold readValidDeviceSession
  refine Handler.Uses.bind (perform_fencing trivial) fun looked => ?_
  refine Handler.Uses.bind readStored_fencing fun found => ?_
  obtain ⟨observed, session⟩ := found
  cases session with
  | none => trivial
  | some session =>
    refine Handler.Uses.bind (Handler.Uses.rescue ?_ fun _ => trivial) fun outcome => ?_
    · exact Handler.Uses.bind validate_fencing fun _ => trivial
    · cases outcome with
      | some found => trivial
      | none =>
        refine Handler.Uses.bind (perform_fencing trivial) fun looked => ?_
        dsimp only
        split
        · trivial
        · exact Handler.Uses.bind (updateDeviceSession_fencing _) fun _ => trivial

theorem saveSession_fencing {session : DeviceSession} {fence expectedGeneration : Nat}
    {reuseDevice : Bool} :
    (saveSession session fence expectedGeneration reuseDevice).Uses
      fun op => op.Fencing (some fence) := by
  unfold saveSession
  refine Handler.Uses.bind (perform_fencing ?_) fun saved => Handler.Uses.ofExcept _
  exact rfl

theorem createKey_fencing : createKey.Uses fun op => op.Fencing revision := by
  unfold createKey
  refine Handler.Uses.bind (perform_fencing trivial) fun key => ?_
  exact Handler.Uses.bind (perform_fencing trivial) fun _ => trivial

end Parts

/-! ## Calls -/

section Calls

variable {browser : Browser} {env : SessionEnv} {store₀ : Store} {incoming : Incoming}
  {k n : Nat} {w : World} {α τ : Type}

/-- What follows a safe part. -/
theorem bind_safe {p : SessionHandler α} {f : α → SessionHandler τ} (hw : Kept store₀ w)
    (hp : (sessionDiscipline browser env store₀).Safe incoming Discipline.Anywhere
      (numbered k n p) w)
    (h : ∀ a t, Kept store₀ t →
      (sessionDiscipline browser env store₀).Safe incoming Discipline.Anywhere
        (numbered k n (f a)) t) :
    (sessionDiscipline browser env store₀).Safe incoming Discipline.Anywhere
      (numbered k n (p >>= f)) w := by
  rw [numbered_bind]
  apply Discipline.Safe.bind hp hw
  · exact fun a t ht _ => h a t ht
  · exact fun _ _ _ _ => trivial

/-- A whole call that saves nothing. -/
theorem call_safe {p : SessionHandler τ} (hp : p.Uses fun op => op.Fencing none) :
    (sessionDiscipline browser env store₀).Safe incoming Discipline.Anywhere
      (numbered k n p) w := fencing_safe hp fun _ hnone => nomatch hnone

/-- What follows the read of a revision and saves under it. -/
theorem fenced_safe {p : SessionHandler τ} {revision : Nat}
    (hread : ReadAt store₀.current (Fact.IsRead n) revision w.history)
    (hp : p.Uses fun op => op.Fencing (some revision)) :
    (sessionDiscipline browser env store₀).Safe incoming Discipline.Anywhere
      (numbered k n p) w := by
  refine fencing_safe hp fun fence hfence => ?_
  cases hfence
  exact hread

theorem FencedByRead.safe {p : SessionHandler τ} (hp : FencedByRead p) (hw : Kept store₀ w) :
    (sessionDiscipline browser env store₀).Safe incoming Discipline.Anywhere
      (numbered k n p) w := by
  obtain ⟨accountId, rest, rfl, hrest⟩ := hp
  apply readStored_safe hw
  intro revision session t _ hread
  exact fenced_safe hread (hrest (revision, session))

theorem signSession_fenced {accountId : Option String} {readFrom : String} {generation : Nat} :
    FencedByRead (signSession env accountId readFrom generation) := by
  refine ⟨readFrom, _, rfl, fun found => ?_⟩
  refine Handler.Uses.bind (perform_fencing trivial) fun key => ?_
  refine Handler.Uses.bind (perform_fencing trivial) fun issuedAtMs => ?_
  refine Handler.Uses.bind (perform_fencing trivial) fun sessionPublicKey => ?_
  refine Handler.Uses.bind (perform_fencing trivial) fun originHash => ?_
  refine Handler.Uses.bind (perform_fencing trivial) fun nonce => ?_
  refine Handler.Uses.bind (requireGeneration_fencing _) fun _ => ?_
  refine Handler.Uses.bind (perform_fencing trivial) fun answer => ?_
  refine Handler.Uses.bind (Handler.Uses.ofExcept _) fun proof => ?_
  refine Handler.Uses.bind (Handler.Uses.ofExcept _) fun _ => ?_
  refine Handler.Uses.bind (requireGeneration_fencing _) fun _ => ?_
  refine Handler.Uses.bind (perform_fencing trivial) fun nowMs => ?_
  refine Handler.Uses.bind (Handler.Uses.ofExcept _) fun _ => ?_
  refine Handler.Uses.bind saveSession_fencing fun _ => ?_
  exact Handler.Uses.bind (requireGeneration_fencing _) fun _ => trivial

/-- Work that is shared is safe when it is safe alone. -/
theorem shareWork_safe {key : String} {work : Nat} {session : α → DeviceSession}
    {p : SessionHandler α} (hw : Kept store₀ w)
    (hp : (sessionDiscipline browser env store₀).Safe incoming Discipline.Anywhere
      (numbered k n p) w) :
    (sessionDiscipline browser env store₀).Safe incoming Discipline.Anywhere
      (numbered k n (shareWork key work session p)) w := by
  unfold shareWork
  apply bind_safe hw
  · unfold numbered
    rw [Handler.lift_rescue]
    apply Discipline.Safe.rescue (Q := Discipline.Anywhere) _ hw
    · exact fun _ _ _ _ => trivial
    · exact fun _ _ _ _ => trivial
    · exact bind_safe hw hp fun _ _ _ => trivial
  · intro outcome t _
    refine perform_safe (fun _ => trivial) fun _ u _ => ?_
    exact call_safe (Handler.Uses.ofExcept _)

theorem joinWork_fencing {revision : Option Nat} (work : Nat) :
    (joinWork work).Uses fun op => op.Fencing revision := by
  unfold joinWork
  exact Handler.Uses.bind (perform_fencing trivial) fun _ => Handler.Uses.ofExcept _

theorem prepareWork_safe {accountId : Option String} {generation : Nat} (hw : Kept store₀ w) :
    (sessionDiscipline browser env store₀).Safe incoming Discipline.Anywhere
      (numbered k n (prepareWork env accountId generation)) w := by
  unfold prepareWork
  split
  · exact signSession_fenced.safe hw
  · apply plain_safe hw readValidDeviceSession_fencing
    rintro ⟨existing, armed⟩ t ht -
    apply plain_safe ht (requireGeneration_fencing _)
    intro _ u hu _
    split
    · trivial
    · exact signSession_fenced.safe hu

theorem prepareDeviceSession_safe {accountId : Option String} {aborted : Bool}
    (hw : Kept store₀ w) :
    (sessionDiscipline browser env store₀).Safe incoming Discipline.Anywhere
      (numbered k n (prepareDeviceSession env accountId aborted)) w := by
  unfold prepareDeviceSession
  apply plain_safe hw (Handler.Uses.ofExcept _)
  intro _ t ht _
  refine plain_safe ht (perform_fencing ?_) fun pending u hu _ => ?_
  · trivial
  split
  · exact call_safe (joinWork_fencing _)
  · exact shareWork_safe hu (prepareWork_safe hu)

theorem playbackWork_safe {accountId : String} {generation : Nat} (hw : Kept store₀ w) :
    (sessionDiscipline browser env store₀).Safe incoming Discipline.Anywhere
      (numbered k n (playbackWork env accountId generation)) w := by
  unfold playbackWork
  apply plain_safe hw readValidDeviceSession_fencing
  rintro ⟨existing, armed⟩ t ht -
  apply plain_safe ht (requireGeneration_fencing _)
  intro _ u hu _
  dsimp only
  split
  · trivial
  · refine FencedByRead.safe ⟨accountId, _, rfl, fun found => ?_⟩ hu
    refine Handler.Uses.bind createKey_fencing fun created => ?_
    refine Handler.Uses.bind (perform_fencing trivial) fun originHash => ?_
    exact Handler.Uses.bind saveSession_fencing fun _ => trivial

theorem confirmPlaybackDevice_safe {accountId : String} {session : DeviceSession}
    {generation : Nat} (hw : Kept store₀ w) :
    (sessionDiscipline browser env store₀).Safe incoming Discipline.Anywhere
      (numbered k n (confirmPlaybackDevice accountId session generation)) w := by
  unfold confirmPlaybackDevice
  refine plain_safe hw (perform_fencing ?_) fun certificateHash t ht _ => ?_
  · trivial
  apply plain_safe ht readStored_fencing
  intro found u hu _
  apply plain_safe hu (requireGeneration_fencing _)
  intro _ v hv _
  apply plain_safe hv (Handler.Uses.ofExcept _)
  intro _ x _ _
  exact perform_safe (fun _ => trivial) fun _ _ _ => trivial

theorem preparePlaybackDevice_safe {accountId : String} (hw : Kept store₀ w) :
    (sessionDiscipline browser env store₀).Safe incoming Discipline.Anywhere
      (numbered k n (preparePlaybackDevice env accountId)) w := by
  unfold preparePlaybackDevice
  apply plain_safe hw (Handler.Uses.ofExcept _)
  intro _ t ht _
  refine plain_safe ht (perform_fencing ?_) fun pending u hu _ => ?_
  · trivial
  dsimp only
  split
  · apply plain_safe hu (joinWork_fencing _)
    intro session v hv _
    exact confirmPlaybackDevice_safe hv
  · apply bind_safe hu (shareWork_safe hu (playbackWork_safe hu))
    rintro ⟨session, expectedGeneration⟩ v hv
    exact confirmPlaybackDevice_safe hv

theorem rememberPlaybackDelegate_safe {accountId signedDelegate : String}
    {authorization : PlaybackSessionAuthorization} (hw : Kept store₀ w) :
    (sessionDiscipline browser env store₀).Safe incoming Discipline.Anywhere
      (numbered k n (rememberPlaybackDelegate accountId authorization signedDelegate)) w := by
  unfold rememberPlaybackDelegate
  refine plain_safe hw (perform_fencing ?_) fun looked t ht _ => ?_
  · trivial
  refine FencedByRead.safe ⟨accountId, _, rfl, fun found => ?_⟩ ht
  refine Handler.Uses.bind (Handler.Uses.ofExcept _) fun session => ?_
  refine Handler.Uses.bind (perform_fencing trivial) fun certificateSha256 => ?_
  refine Handler.Uses.bind (Handler.Uses.ofExcept _) fun _ => ?_
  exact Handler.Uses.bind saveSession_fencing fun _ => trivial

theorem destroyWatch_fencing {revision : Option Nat} (watcher : Nat) :
    (destroyWatch watcher).Uses fun op => op.Fencing revision := by
  unfold destroyWatch
  exact Handler.Uses.bind (perform_fencing trivial) fun _ => perform_fencing trivial

/-- A watch opens with the revision that its own call has read. -/
theorem openWatchProgress_safe {resumable : Rat → Rat → Bool} {input : PlaybackInput}
    {aborted : Bool} (hw : Kept store₀ w) :
    (sessionDiscipline browser env store₀).Safe incoming Discipline.Anywhere
      (numbered k n (openWatchProgress resumable n input aborted)) w := by
  unfold openWatchProgress
  refine plain_safe hw (perform_fencing ?_) fun looked t ht _ => ?_
  · trivial
  obtain ⟨generation, expectedRevision⟩ := looked
  cases expectedRevision with
  | none => trivial
  | some expectedRevision =>
    cases aborted with
    | true => trivial
    | false =>
      refine plain_safe ht (perform_fencing ?_) fun watcher u hu _ => ?_
      · trivial
      apply bind_safe hu
      · unfold numbered
        rw [Handler.lift_rescue]
        apply Discipline.Safe.rescue (Q := Discipline.Anywhere) _ hu
        · exact fun _ _ _ _ => trivial
        · exact fun _ _ _ _ => trivial
        · rw [Handler.lift_bind]
          apply Discipline.Safe.perform_anywhere
          rintro v - hv i ⟨revision, deviceKey, position⟩ x - hexec
          change exec browser _ ⟨k, n, .readProgress input⟩ i v = some (_, x) at hexec
          obtain ⟨hx, hrecorded⟩ := exec_step hv (by trivial) hexec
          refine ⟨hx, hrecorded, ?_⟩
          have hread : ReadAt store₀.current (Fact.IsProgressRead n) revision x.history := by
            cases hexec
            refine ⟨v.history.countP Fact.advances, hv.revision, .here rfl ?_⟩
            exact List.countP_cons_of_neg Bool.false_ne_true
          dsimp only
          split
          · trivial
          · next deviceKey _ =>
              split
              · trivial
              · rw [Handler.lift_bind]
                apply Discipline.Safe.perform_anywhere
                intro y hxy hy j active z _ hopen
                change exec browser _ ⟨k, n, .openWatch watcher ⟨input, revision, deviceKey, n, 0⟩⟩
                  j y = some (active, z) at hopen
                obtain ⟨hz, hopened⟩ := exec_step hy (by exact hread.mono hxy) hopen
                exact ⟨hz, hopened, trivial⟩
      · intro opened v hv
        cases opened with
        | some opened => trivial
        | none =>
          exact call_safe (Handler.Uses.bind (destroyWatch_fencing watcher) fun _ => trivial)

theorem savePosition_fencing {revision : Option Nat} {watcher : Nat}
    {position duration : Option Rat} {force : Bool} :
    (savePosition watcher position duration force).Uses fun op => op.Fencing revision := by
  unfold savePosition
  split
  · split
    · trivial
    · refine Handler.Uses.bind (perform_fencing trivial) fun due => ?_
      cases due with
      | none => trivial
      | some nowMs => exact Handler.Uses.rescue (perform_fencing trivial) fun _ => trivial
  · trivial

theorem getDeviceSession_fencing {revision : Option Nat} {accountId : String} :
    (getDeviceSession env accountId).Uses fun op => op.Fencing revision := by
  unfold getDeviceSession
  refine Handler.Uses.bind (perform_fencing trivial) fun looked => ?_
  refine Handler.Uses.bind readValidDeviceSession_fencing fun valid => ?_
  obtain ⟨found, armed⟩ := valid
  cases found with
  | none => trivial
  | some session =>
    dsimp only
    split
    · trivial
    · refine Handler.Uses.bind (perform_fencing trivial) fun device => ?_
      refine Handler.Uses.bind (requireGeneration_fencing _) fun _ => ?_
      split
      · trivial
      · refine Handler.Uses.bind (perform_fencing trivial) fun certificateSha256 => ?_
        refine Handler.Uses.bind (perform_fencing trivial) fun nowMs => ?_
        split
        · trivial
        · refine Handler.Uses.bind readStored_fencing fun current => ?_
          refine Handler.Uses.bind (requireGeneration_fencing _) fun _ => ?_
          exact Handler.Uses.bind (Handler.Uses.ofExcept _) fun _ => trivial

/-- Every call is safe. -/
theorem call_of_handle {call : Call} (hw : Kept store₀ w) :
    (sessionDiscipline browser env store₀).Safe incoming Discipline.Anywhere
      (numbered k n (handle browser env n call)) w := by
  cases call with
  | prepareDeviceSession accountId aborted =>
    exact bind_safe hw (prepareDeviceSession_safe hw) fun _ _ _ => trivial
  | getDeviceSession accountId =>
    exact call_safe (Handler.Uses.bind getDeviceSession_fencing fun _ => trivial)
  | preparePlaybackDevice accountId =>
    exact bind_safe hw (preparePlaybackDevice_safe hw) fun _ _ _ => trivial
  | rememberPlaybackDelegate accountId authorization signedDelegate =>
    exact bind_safe hw (rememberPlaybackDelegate_safe hw) fun _ _ _ => trivial
  | openWatchProgress input aborted =>
    exact bind_safe hw (openWatchProgress_safe hw) fun _ _ _ => trivial
  | save watcher position duration force =>
    exact call_safe (Handler.Uses.bind savePosition_fencing fun _ => trivial)
  | destroyWatch watcher =>
    exact call_safe (Handler.Uses.bind (destroyWatch_fencing watcher) fun _ => trivial)
  | abortWatch watcher =>
    exact call_safe (Handler.Uses.bind (perform_fencing trivial) fun _ => trivial)
  | clearDeviceSession accountId =>
    cases accountId with
    | none => exact call_safe (Handler.Uses.bind (updateDeviceSession_fencing _) fun _ => trivial)
    | some accountId =>
      exact call_safe (Handler.Uses.bind (updateDeviceSession_fencing _) fun _ => trivial)
  | suspendDeviceSession =>
    exact call_safe (Handler.Uses.bind (updateDeviceSession_fencing _) fun _ => trivial)

theorem handle_safe (incoming : Incoming) (s : World) :
    (sessionDiscipline browser env store₀).Safe incoming Discipline.Anywhere
      ((sessionSystem browser env).handle incoming) s := by
  apply Discipline.Safe.perform_anywhere
  intro t _ ht i number u _ hexec
  change exec browser _ ⟨incoming.tab, 0, .accept⟩ i t = some (number, u) at hexec
  obtain ⟨hu, hrecorded⟩ := exec_step ht (by trivial) hexec
  exact ⟨hu, hrecorded, call_of_handle hu⟩

end Calls

end Youtick.Web.Sessions
