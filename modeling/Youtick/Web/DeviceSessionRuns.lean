import Youtick.Lib.Fence
import Youtick.Web.DeviceSession

/-!
# Web: runs of device sessions

The stored revision counts the invalidations in the history, so a write that is fenced by the revision
it has read comes after every invalidation that the read came after. What is in the store was there
from the start and never cleared, or it was written so (`SessionFrom`, `PositionFrom`). An open watch
keeps the revision of its first read (`Kept.watches`).
-/

set_option autoImplicit false

namespace Youtick.Web.Sessions

open Youtick.Lib

/-! ## What the store comes from -/

/-- The revision of the store goes up. -/
def Fact.advances : Fact → Bool
  | .updated _ _ => true
  | _ => false

/-- The session of an account is deleted. -/
def Fact.clears (accountId : String) : Fact → Bool
  | .updated .clear _ => true
  | .updated (.clearAccount cleared) _ => decide (cleared = accountId)
  | _ => false

/-- Everything is deleted. -/
def Fact.clearsAll : Fact → Bool
  | .updated .clear _ => true
  | _ => false

/-- The request has read a session and the revision. -/
def Fact.IsRead (number : Nat) : Fact → Prop
  | .read reader _ _ _ => reader = number
  | _ => False

/-- The request has read a position and the revision. -/
def Fact.IsProgressRead (number : Nat) : Fact → Prop
  | .readProgress reader _ => reader = number
  | _ => False

/-- The request has read this revision, counted from the first one. -/
def ReadAt (first : Nat) (P : Fact → Prop) (revision : Nat) (history : List Fact) : Prop :=
  ∃ count, revision = first + count ∧ MadeAt Fact.advances P count history

/-- Some request has read the store and then written the session. -/
def SessionWritten (Q : Fact → Prop) (session : DeviceSession) (history : List Fact) : Prop :=
  ∃ number, Written (Fact.IsRead number) (· = .wroteSession number session) Q history

/-- Some watch has read the store and then written the position. -/
def PositionWritten (Q : Fact → Prop) (input : PlaybackInput) (position : WatchPosition)
    (history : List Fact) : Prop :=
  ∃ opener, Written (Fact.IsProgressRead opener)
    (· = .wrotePosition opener input (some position)) Q history

/-- A stored session was never cleared, or it was read for and written after the last clear. -/
def SessionFrom (store₀ : Store) (history : List Fact) (accountId : String)
    (session : DeviceSession) : Prop :=
  (store₀.sessions.get accountId = some session ∧
    ∀ fact ∈ history, fact.clears accountId = false) ∨
  SessionWritten (fun fact => fact.clears accountId = false) session history

def PositionFrom (store₀ : Store) (history : List Fact) (input : PlaybackInput)
    (position : WatchPosition) : Prop :=
  (store₀.positions.get input = some position ∧ ∀ fact ∈ history, fact.clearsAll = false) ∨
  PositionWritten (fun fact => fact.clearsAll = false) input position history

/-- The invariant of every run from a store. -/
structure Kept (store₀ : Store) (w : World) : Prop where
  revision : w.store.current = store₀.current + w.history.countP Fact.advances
  sessions : ∀ accountId session, w.store.sessions.get accountId = some session →
    SessionFrom store₀ w.history accountId session
  positions : ∀ input position, w.store.positions.get input = some position →
    PositionFrom store₀ w.history input position
  watches : ∀ k watcher watch, (w.tabs k).watches.get watcher = some watch →
    ReadAt store₀.current (Fact.IsProgressRead watch.opener) watch.revision w.history

section Facts

variable {store₀ : Store} {history : List Fact} {fact : Fact} {accountId : String}
  {session : DeviceSession} {input : PlaybackInput} {position : WatchPosition}

theorem ReadAt.mono {first revision : Nat} {P : Fact → Prop} {history' : List Fact}
    (h : ReadAt first P revision history) (hsuffix : history <:+ history') :
    ReadAt first P revision history' := by
  obtain ⟨count, hrevision, hmade⟩ := h
  exact ⟨count, hrevision, hmade.mono hsuffix⟩

/-- The revision that is stored now was read since the last invalidation. -/
theorem ReadAt.since {first revision : Nat} {P : Fact → Prop} (h : ReadAt first P revision history)
    (hnow : revision = first + history.countP Fact.advances) :
    Since P (fun fact => fact.advances = false) history := by
  obtain ⟨count, hrevision, hmade⟩ := h
  exact hmade.since (by omega)

theorem Fact.clears_of_advances (h : fact.advances = false) : fact.clears accountId = false := by
  cases fact with
  | updated => cases h
  | _ => rfl

theorem Fact.clearsAll_of_advances (h : fact.advances = false) : fact.clearsAll = false := by
  cases fact with
  | updated => cases h
  | _ => rfl

/-- A line that does not clear the account leaves its session. -/
theorem SessionFrom.cons (h : SessionFrom store₀ history accountId session)
    (hfact : fact.clears accountId = false) :
    SessionFrom store₀ (fact :: history) accountId session := by
  rcases h with ⟨hstart, hnone⟩ | ⟨number, hwritten⟩
  · refine .inl ⟨hstart, fun other hother => ?_⟩
    rcases List.mem_cons.mp hother with rfl | hold
    · exact hfact
    · exact hnone other hold
  · exact .inr ⟨number, hwritten.cons hfact⟩

theorem PositionFrom.cons (h : PositionFrom store₀ history input position)
    (hfact : fact.clearsAll = false) :
    PositionFrom store₀ (fact :: history) input position := by
  rcases h with ⟨hstart, hnone⟩ | ⟨opener, hwritten⟩
  · refine .inl ⟨hstart, fun other hother => ?_⟩
    rcases List.mem_cons.mp hother with rfl | hold
    · exact hfact
    · exact hnone other hold
  · exact .inr ⟨opener, hwritten.cons hfact⟩

end Facts

/-! ## Transactions -/

section Transactions

variable {store₀ : Store} {w u : World}

/-- An operation that leaves the store, the history and what the watches have read. -/
theorem Kept.still (h : Kept store₀ w) (hstore : u.store = w.store)
    (hhistory : u.history = w.history)
    (hwatches : ∀ k watcher watch, (u.tabs k).watches.get watcher = some watch →
      ∃ other, (w.tabs k).watches.get watcher = some other ∧ other.opener = watch.opener ∧
        other.revision = watch.revision) : Kept store₀ u where
  revision := by
    rw [hstore, hhistory]
    exact h.revision
  sessions := by
    rw [hstore, hhistory]
    exact h.sessions
  positions := by
    rw [hstore, hhistory]
    exact h.positions
  watches := by
    intro k watcher watch hwatch
    obtain ⟨other, hother, hopener, hrevision⟩ := hwatches k watcher watch hwatch
    rw [hhistory, ← hopener, ← hrevision]
    exact h.watches k watcher other hother

/-- A line that changes no revision and no session. -/
theorem Kept.noted {fact : Fact} (h : Kept store₀ w) (hfact : fact.advances = false) :
    Kept store₀ (w.log fact) where
  revision := by
    change w.store.current = store₀.current + (fact :: w.history).countP Fact.advances
    rw [List.countP_cons_of_neg (by rw [hfact]; exact Bool.false_ne_true)]
    exact h.revision
  sessions := fun accountId session hget =>
    (h.sessions accountId session hget).cons (Fact.clears_of_advances hfact)
  positions := fun input position hget =>
    (h.positions input position hget).cons (Fact.clearsAll_of_advances hfact)
  watches := fun k watcher watch hwatch =>
    (h.watches k watcher watch hwatch).mono (List.suffix_cons _ _)

/-- A session is written by a request that has read the stored revision. -/
theorem Kept.put {number : Nat} {session : DeviceSession} (h : Kept store₀ w)
    (hread : ReadAt store₀.current (Fact.IsRead number) w.store.current w.history) :
    Kept store₀ { w.log (.wroteSession number session) with store := w.store.put session } := by
  have hnoted : Kept store₀ (w.log (.wroteSession number session)) := h.noted rfl
  refine ⟨hnoted.revision, fun accountId other hget => ?_, hnoted.positions, hnoted.watches⟩
  change (w.store.sessions.insert session.proof.accountId session).get accountId = some other at hget
  rw [LookupMap.get_insert] at hget
  split at hget
  · cases hget
    have hsince := hread.since h.revision
    exact .inr ⟨number, .here rfl (hsince.mono (fun _ hx => hx)
      fun _ hx => Fact.clears_of_advances hx)⟩
  · exact hnoted.sessions accountId other hget

/-- A position is written, or deleted, by a watch that has read the stored revision. -/
theorem Kept.setPosition {watch : Watch} {position : Option WatchPosition} (h : Kept store₀ w)
    (hread : ReadAt store₀.current (Fact.IsProgressRead watch.opener) w.store.current w.history) :
    Kept store₀ { w.log (.wrotePosition watch.opener watch.input position) with
      store := w.store.setPosition watch.input position } := by
  have hnoted : Kept store₀ (w.log (.wrotePosition watch.opener watch.input position)) :=
    h.noted rfl
  refine ⟨hnoted.revision, hnoted.sessions, fun input other hget => ?_, hnoted.watches⟩
  cases position with
  | none =>
    change (w.store.positions.remove watch.input).get input = some other at hget
    by_cases hinput : input = watch.input
    · rw [hinput, LookupMap.get_remove_self] at hget
      cases hget
    · rw [LookupMap.get_remove_of_ne _ hinput] at hget
      exact hnoted.positions input other hget
  | some position =>
    change (w.store.positions.insert watch.input position).get input = some other at hget
    rw [LookupMap.get_insert] at hget
    split at hget
    · next hinput =>
        cases hget
        subst hinput
        have hsince := hread.since h.revision
        exact .inr ⟨watch.opener, .here rfl (hsince.mono (fun _ hx => hx)
          fun _ hx => Fact.clearsAll_of_advances hx)⟩
    · exact hnoted.positions input other hget

theorem Store.current_update (store : Store) (update : Update) :
    (store.update update).current = store.current + 1 := by
  cases update <;> rfl

/-- What an update leaves was there before it. -/
theorem Store.get_update {store : Store} {update : Update} {accountId : String}
    {session : DeviceSession} {revision : Nat}
    (h : (store.update update).sessions.get accountId = some session) :
    store.sessions.get accountId = some session ∧
      (Fact.updated update revision).clears accountId = false := by
  cases update with
  | clear => simp [Store.update] at h
  | clearAccount cleared =>
    change (store.sessions.remove cleared).get accountId = some session at h
    by_cases hsame : accountId = cleared
    · rw [hsame, LookupMap.get_remove_self] at h
      cases h
    · rw [LookupMap.get_remove_of_ne _ hsame] at h
      exact ⟨h, decide_eq_false (Ne.symm hsame)⟩
  | suspend => exact ⟨h, rfl⟩

theorem Store.position_update {store : Store} {update : Update} {input : PlaybackInput}
    {position : WatchPosition} {revision : Nat}
    (h : (store.update update).positions.get input = some position) :
    store.positions.get input = some position ∧ (Fact.updated update revision).clearsAll = false := by
  cases update with
  | clear => simp [Store.update] at h
  | clearAccount cleared => exact ⟨h, rfl⟩
  | suspend => exact ⟨h, rfl⟩

theorem Kept.update {update : Update} (h : Kept store₀ w) :
    Kept store₀ { w.log (.updated update (w.store.update update).current) with
      store := w.store.update update } where
  revision := by
    change (w.store.update update).current = store₀.current +
      (Fact.updated update (w.store.update update).current :: w.history).countP Fact.advances
    rw [List.countP_cons_of_pos rfl, Store.current_update, h.revision]
    exact Nat.add_assoc _ _ _
  sessions := by
    intro accountId session hget
    obtain ⟨hbefore, hclears⟩ := Store.get_update hget
    exact (h.sessions accountId session hbefore).cons hclears
  positions := by
    intro input position hget
    obtain ⟨hbefore, hclears⟩ := Store.position_update hget
    exact (h.positions input position hbefore).cons hclears
  watches := fun k watcher watch hwatch =>
    (h.watches k watcher watch hwatch).mono (List.suffix_cons _ _)

end Transactions

/-! ## Operations -/

/-- What the write of an operation is fenced by. -/
def SessionOp.Fenced (store₀ : Store) (number : Nat) (w : World) : {β : Type} → SessionOp β → Prop
  | _, .save _ revision _ _ =>
    ReadAt store₀.current (Fact.IsRead number) revision w.history
  | _, .openWatch _ watch =>
    ReadAt store₀.current (Fact.IsProgressRead watch.opener) watch.revision w.history
  | _, _ => True

/-- What a line of the history says of the step that has written it. -/
def Fact.Tells (w u : World) : Fact → Prop
  | .read _ accountId revision session => revision = w.store.current ∧
      session = w.store.sessions.get accountId ∧ u.store = w.store
  | .readProgress _ revision => revision = w.store.current ∧ u.store = w.store
  | .wroteSession _ session => u.store = w.store.put session
  | .wrotePosition _ input position => u.store = w.store.setPosition input position
  | .updated update revision => u.store = w.store.update update ∧ revision = u.store.current
  | .resolved _ _ _ => u.store = w.store

/-- The store changes by transactions that stand in the history. -/
def Recorded (w u : World) : Prop :=
  (u.history = w.history ∧ u.store = w.store) ∨
    ∃ fact, u.history = fact :: w.history ∧ fact.Tells w u

section Operations

variable {store₀ : Store} {browser : Browser} {w u : World} {i : SessionInput} {β : Type} {b : β}
  {n k : Nat}

theorem Recorded.suffix (h : Recorded w u) : w.history <:+ u.history := by
  rcases h with ⟨hsame, -⟩ | ⟨fact, hfact, -⟩
  · rw [hsame]
  · rw [hfact]
    exact List.suffix_cons _ _

/-- The other tabs stay, and the watches of this one. -/
theorem watches_setTab {tab : Tab} (htab : tab.watches = (w.tabs k).watches) (j watcher : Nat)
    (watch : Watch) (h : ((w.setTab k tab).tabs j).watches.get watcher = some watch) :
    ∃ other, (w.tabs j).watches.get watcher = some other ∧ other.opener = watch.opener ∧
      other.revision = watch.revision := by
  change (Function.update w.tabs k tab j).watches.get watcher = some watch at h
  by_cases hj : j = k
  · subst hj
    rw [Function.update_self, htab] at h
    exact ⟨watch, h, rfl, rfl⟩
  · rw [Function.update_of_ne hj] at h
    exact ⟨watch, h, rfl, rfl⟩

theorem Kept.setTab {tab : Tab} (h : Kept store₀ w) (htab : tab.watches = (w.tabs k).watches) :
    Kept store₀ (w.setTab k tab) := h.still rfl rfl (watches_setTab htab)

theorem Tab.watches_observe (tab : Tab) (revision : Nat) :
    (tab.observe revision).watches = tab.watches := by
  unfold Tab.observe
  split
  · rfl
  · split <;> rfl

theorem Tab.watches_deliver (tab : Tab) (revision : Nat) :
    (tab.deliver revision).watches = tab.watches := by
  unfold Tab.deliver
  split <;> rfl

theorem Tab.watches_begin (tab : Tab) (key : String) : (tab.begin key).2.watches = tab.watches := by
  unfold Tab.begin
  split <;> rfl

/-- A save takes its time down and leaves what its watch has read. -/
theorem watches_startSave {watcher : Nat} {force : Bool} {nowMs : Nat} (j other : Nat)
    (watch : Watch)
    (h : ((w.setTab k ((w.tabs k).startSave watcher force nowMs).2).tabs j).watches.get other =
      some watch) :
    ∃ before, (w.tabs j).watches.get other = some before ∧ before.opener = watch.opener ∧
      before.revision = watch.revision := by
  cases hget : (w.tabs k).watches.get watcher with
  | none =>
    have htab : ((w.tabs k).startSave watcher force nowMs).2.watches = (w.tabs k).watches := by
      rw [Tab.startSave, hget]
    exact watches_setTab htab j other watch h
  | some due =>
    by_cases hidle : watcher ∈ (w.tabs k).stopped ∨ (force = false ∧ nowMs < due.lastWrite + 5000)
    · have htab : ((w.tabs k).startSave watcher force nowMs).2.watches = (w.tabs k).watches := by
        rw [Tab.startSave, hget]
        dsimp only
        rw [if_pos hidle]
      exact watches_setTab htab j other watch h
    · rw [Tab.startSave, hget] at h
      dsimp only at h
      rw [if_neg hidle] at h
      change (Function.update w.tabs k _ j).watches.get other = some watch at h
      by_cases hj : j = k
      · subst hj
        rw [Function.update_self] at h
        dsimp only at h
        rw [LookupMap.get_insert] at h
        split at h
        · next hsame =>
            cases h
            exact ⟨due, by rw [hsame]; exact hget, rfl, rfl⟩
        · exact ⟨watch, h, rfl, rfl⟩
      · rw [Function.update_of_ne hj] at h
        exact ⟨watch, h, rfl, rfl⟩

/-- A transaction keeps the invariant, and it stands in the history. -/
theorem storeExec_step {op : SessionOp β} (hw : Kept store₀ w) (hop : op.Fenced store₀ n w)
    (h : storeExec browser n k w op = some (b, u)) : Kept store₀ u ∧ Recorded w u := by
  cases op with
  | readStored accountId =>
    cases h
    exact ⟨hw.noted rfl, .inr ⟨_, rfl, rfl, rfl, rfl⟩⟩
  | readProgress input =>
    cases h
    exact ⟨hw.noted rfl, .inr ⟨_, rfl, rfl, rfl⟩⟩
  | save session revision generation reuseDevice =>
    unfold storeExec at h
    dsimp only at h
    split at h
    · cases h
      exact ⟨hw, .inl ⟨rfl, rfl⟩⟩
    · next hfence =>
        obtain ⟨hrevision, -⟩ := not_or.mp hfence
        split at h
        · cases h
          exact ⟨hw, .inl ⟨rfl, rfl⟩⟩
        · cases h
          rw [not_not] at hrevision
          subst hrevision
          exact ⟨hw.put hop, .inr ⟨_, rfl, rfl⟩⟩
  | update update =>
    cases h
    exact ⟨hw.update, .inr ⟨_, rfl, rfl, rfl⟩⟩
  | savePosition watcher record =>
    unfold storeExec at h
    dsimp only at h
    split at h
    · cases h
      exact ⟨hw, .inl ⟨rfl, rfl⟩⟩
    · next watch hwatch =>
        split at h
        · cases h
          exact ⟨hw, .inl ⟨rfl, rfl⟩⟩
        · next hsame =>
            cases h
            obtain ⟨-, hdevice⟩ := not_or.mp hsame
            rw [Bool.not_eq_false, Store.sameDevice, Bool.and_eq_true] at hdevice
            have hread := hw.watches k watcher watch hwatch
            rw [← of_decide_eq_true hdevice.1] at hread
            exact ⟨hw.setPosition hread, .inr ⟨_, rfl, rfl⟩⟩
  | _ => cases h

/-- So does an operation on a tab. -/
theorem tabExec_step {op : SessionOp β} (hw : Kept store₀ w) (hop : op.Fenced store₀ n w)
    (h : tabExec browser n k i w op = some (b, u)) : Kept store₀ u ∧ Recorded w u := by
  cases op with
  | accept =>
    cases h
    exact ⟨hw.still rfl rfl fun _ _ watch hwatch => ⟨watch, hwatch, rfl, rfl⟩, .inl ⟨rfl, rfl⟩⟩
  | begin key =>
    cases h
    exact ⟨hw.setTab (Tab.watches_begin _ key), .inl ⟨rfl, rfl⟩⟩
  | observe revision =>
    cases h
    exact ⟨hw.setTab (Tab.watches_observe _ revision), .inl ⟨rfl, rfl⟩⟩
  | settle | watchSessionChanges | invalidate | listen | stop | unsubscribe =>
    cases h
    exact ⟨hw.setTab rfl, .inl ⟨rfl, rfl⟩⟩
  | announce revision =>
    cases h
    exact ⟨hw.still rfl rfl (watches_setTab rfl), .inl ⟨rfl, rfl⟩⟩
  | join work =>
    obtain ⟨result, -, heq⟩ := Option.map_eq_some_iff.mp h
    cases heq
    exact ⟨hw, .inl ⟨rfl, rfl⟩⟩
  | openWatch watcher watch =>
    unfold tabExec at h
    dsimp only at h
    split at h
    · cases h
      exact ⟨hw, .inl ⟨rfl, rfl⟩⟩
    · cases h
      refine ⟨⟨hw.revision, hw.sessions, hw.positions, fun j other found hfound => ?_⟩,
        .inl ⟨rfl, rfl⟩⟩
      change (Function.update w.tabs k _ j).watches.get other = some found at hfound
      by_cases hj : j = k
      · subst hj
        rw [Function.update_self] at hfound
        dsimp only at hfound
        rw [LookupMap.get_insert] at hfound
        split at hfound
        · cases hfound
          exact hop
        · exact hw.watches _ other found hfound
      · rw [Function.update_of_ne hj] at hfound
        exact hw.watches j other found hfound
  | startSave watcher force =>
    cases h
    exact ⟨hw.still rfl rfl watches_startSave, .inl ⟨rfl, rfl⟩⟩
  | resolve accountId sessionPublicKey =>
    cases h
    exact ⟨hw.noted rfl, .inr ⟨_, rfl, rfl⟩⟩
  | look | now | digest | generateKey | exportKey | nonce | sign | proveKey | viewDevice =>
    cases h
    exact ⟨hw, .inl ⟨rfl, rfl⟩⟩
  | _ => cases h

theorem exec_step {op : NumberedOp β} (hw : Kept store₀ w)
    (hop : op.op.Fenced store₀ op.number w) (h : exec browser β op i w = some (b, u)) :
    Kept store₀ u ∧ Recorded w u := by
  unfold exec at h
  split at h
  · exact storeExec_step hw hop h
  · exact tabExec_step hw hop h

end Operations

/-- A request relies on the history to grow, and every step of it is recorded there. -/
def sessionDiscipline (browser : Browser) (env : SessionEnv) (store₀ : Store) :
    Discipline (sessionSystem browser env) where
  inv := Kept store₀
  meets := fun _ _ => True
  rely := fun _ w u => w.history <:+ u.history
  guar := fun _ => Recorded
  rely_refl := fun _ _ => List.suffix_rfl
  rely_trans := fun _ _ _ _ => List.IsSuffix.trans
  guar_rely := fun _ _ _ _ _ _ hg => hg.suffix
  world := by
    intro delivery w u hw h
    change deliver delivery w = some u at h
    unfold deliver at h
    split at h
    · cases h
      exact ⟨hw.setTab (Tab.watches_deliver _ delivery.revision), fun _ => List.suffix_rfl⟩
    · cases h

end Youtick.Web.Sessions
