import Youtick.Lib.Obligations
import Youtick.Web.DeviceSessionSafety

/-!
# Web: a paid device key stays stored

A payment is bound to the key that `preparePlaybackDevice` returns. The revision of the store does not
change when a session is saved, so only the writers themselves can keep that key: the transaction of
`preparePlaybackDevice` looks at what is stored, and `rememberPlaybackDelegate` writes back what it has
read. A wallet session is written without a look. In the runs where no wallet session is written over a
device key, every call returns the one key that is stored (`device_key_kept`).
-/

set_option autoImplicit false

namespace Youtick.Web.Sessions

open Youtick.Lib
open Youtick.Relayer (Platform)

/-! ## The calls for one account -/

inductive DeviceCall where
  | ensureDeviceSession (aborted : Bool)
  | connectDeviceSession (aborted : Bool)
  | preparePlaybackDevice
  | rememberPlaybackDelegate (authorization : PlaybackSessionAuthorization)
      (signedDelegate : String)

def DeviceCall.call (accountId : String) : DeviceCall → Call
  | .ensureDeviceSession aborted => .prepareDeviceSession (some accountId) aborted
  | .connectDeviceSession aborted => .prepareDeviceSession none aborted
  | .preparePlaybackDevice => .preparePlaybackDevice accountId
  | .rememberPlaybackDelegate authorization signedDelegate =>
    .rememberPlaybackDelegate accountId authorization signedDelegate

/-- A call in one of the tabs. -/
structure DeviceIncoming where
  tab : Nat
  call : DeviceCall

/-- The tabs of one browser, where every call is for this account. -/
def deviceSystem (browser : Browser) (env : SessionEnv) (accountId : String) :
    System World SessionInput NumberedOp String Answer DeviceIncoming Delivery where
  exec := exec browser
  handle := fun incoming =>
    (sessionSystem browser env).handle ⟨incoming.tab, incoming.call.call accountId⟩
  solo := fun _ => false
  environment := deliver

/-! ## Device keys -/

/-- The signed delegate that was remembered with a session. -/
def DeviceSession.delegate (session : DeviceSession) : Option String :=
  match session.proof with
  | .wallet _ _ _ _ => none
  | .market _ signedDelegate => signedDelegate

/-- The same key with the same certificate; a delegate that was remembered is there still. -/
structure SameKey (before after : DeviceSession) : Prop where
  certificate : after.certificate = before.certificate
  privateKey : after.privateKey = before.privateKey
  delegate : before.delegate.isSome = true → after.delegate.isSome = true

/-- A device key that is stored for the account stays stored. -/
def KeepsDevice (accountId : String) (before after : Store) : Prop :=
  ∀ session, before.sessions.get accountId = some session → session.isMarket = true →
    ∃ kept, after.sessions.get accountId = some kept ∧ SameKey session kept

/-- The key of the session is the device key that is stored for the account. -/
def HoldsDevice (accountId : String) (session : DeviceSession) (store : Store) : Prop :=
  session.isMarket = true ∧ ∃ stored, store.sessions.get accountId = some stored ∧
    stored.certificate = session.certificate ∧ stored.privateKey = session.privateKey

/-- What a write does to the device key of its account: a session of a wallet is not written over it. -/
def SessionOp.Spares (accountId : String) (k : Nat) (w : World) :
    {β : Type} → SessionOp β → Prop
  | _, .save session revision generation false =>
    session.isMarket = false → session.proof.accountId = accountId →
      w.store.current = revision → generation = (w.tabs k).generation →
        ∀ stored, w.store.sessions.get accountId = some stored → stored.isMarket = false
  | _, _ => True

/-- The operation clears nothing. -/
def SessionOp.Lasting : {β : Type} → SessionOp β → Prop
  | _, .update _ => False
  | _, _ => True

section Keys

variable {accountId : String} {s t : Store} {a b c session : DeviceSession}

theorem SameKey.refl (session : DeviceSession) : SameKey session session := ⟨rfl, rfl, fun h => h⟩

theorem SameKey.trans (hab : SameKey a b) (hbc : SameKey b c) : SameKey a c :=
  ⟨hbc.certificate.trans hab.certificate, hbc.privateKey.trans hab.privateKey,
    fun h => hbc.delegate (hab.delegate h)⟩

theorem isMarket_of_certificate (h : b.certificate = a.certificate) : b.isMarket = a.isMarket := by
  unfold DeviceSession.isMarket
  rw [h]

theorem KeepsDevice.refl (accountId : String) (s : Store) : KeepsDevice accountId s s :=
  fun session hget _ => ⟨session, hget, .refl session⟩

theorem KeepsDevice.trans {u : Store} (hst : KeepsDevice accountId s t)
    (htu : KeepsDevice accountId t u) : KeepsDevice accountId s u := by
  intro session hget hmarket
  obtain ⟨kept, hkept, hsame⟩ := hst session hget hmarket
  obtain ⟨last, hlast, hsame'⟩ := htu kept hkept
    ((isMarket_of_certificate hsame.certificate).trans hmarket)
  exact ⟨last, hlast, hsame.trans hsame'⟩

theorem HoldsDevice.keep (h : HoldsDevice accountId session s) (hst : KeepsDevice accountId s t) :
    HoldsDevice accountId session t := by
  obtain ⟨hmarket, stored, hstored, hcertificate, hkey⟩ := h
  obtain ⟨kept, hkept, hsame⟩ := hst stored hstored
    ((isMarket_of_certificate hcertificate).trans hmarket)
  exact ⟨hmarket, kept, hkept, hsame.certificate.trans hcertificate,
    hsame.privateKey.trans hkey⟩

/-- What is stored holds its own key. -/
theorem HoldsDevice.stored (hget : s.sessions.get accountId = some session)
    (hmarket : session.isMarket = true) : HoldsDevice accountId session s :=
  ⟨hmarket, session, hget, rfl, rfl⟩

/-- A write for another account. -/
theorem KeepsDevice.put_other (h : session.proof.accountId ≠ accountId) :
    KeepsDevice accountId s (s.put session) := by
  intro stored hget _
  refine ⟨stored, ?_, .refl stored⟩
  change (s.sessions.insert session.proof.accountId session).get accountId = some stored
  rw [LookupMap.get_insert, if_neg (Ne.symm h)]
  exact hget

/-- A write where no device key is stored. -/
theorem KeepsDevice.put_free
    (h : ∀ stored, s.sessions.get accountId = some stored → stored.isMarket = false) :
    KeepsDevice accountId s (s.put session) := by
  intro stored hget hmarket
  rw [h stored hget] at hmarket
  cases hmarket

/-- A write by a transaction that has looked, and found no device key. -/
theorem KeepsDevice.put_unkept (h : s.kept accountId true = none) :
    KeepsDevice accountId s (s.put session) := by
  apply KeepsDevice.put_free
  intro stored hstored
  rw [Store.kept, Option.filter_eq_none_iff] at h
  have hfree := h stored hstored
  rw [Bool.true_and, Bool.not_eq_true] at hfree
  exact hfree

/-- A write of the key that is stored, with a delegate. -/
theorem KeepsDevice.put_same (h : HoldsDevice accountId session s)
    (hdelegate : session.delegate.isSome = true) : KeepsDevice accountId s (s.put session) := by
  by_cases haccount : session.proof.accountId = accountId
  · intro stored hget _
    obtain ⟨-, found, hfound, hcertificate, hkey⟩ := h
    rw [hfound] at hget
    cases hget
    refine ⟨session, ?_, hcertificate.symm, hkey.symm, fun _ => hdelegate⟩
    change (s.sessions.insert session.proof.accountId session).get accountId = some session
    rw [LookupMap.get_insert, if_pos haccount.symm]
  · exact .put_other haccount

end Keys

/-! ## What the tabs share -/

/-- The key under which calls of `preparePlaybackDevice` share their work. -/
def paymentKey (accountId : String) : String := "payment:" ++ accountId

/-- The work was begun under this key. -/
def BegunAs (w : World) (k work : Nat) (key : String) : Prop :=
  ∃ outcome, (w.tabs k).works[work]? = some (key, outcome)

/-- The work that was begun under this key has ended with this session. -/
def EndedWith (w : World) (k work : Nat) (key : String) (session : DeviceSession) : Prop :=
  ∃ result : Result DeviceSession, result = .ok session ∧
    (w.tabs k).works[work]? = some (key, some result)

/-- Work stays what it was begun as. -/
def KeepsWorks (w u : World) : Prop :=
  ∀ k work key, BegunAs w k work key → BegunAs u k work key

/-- The invariant: pending work has its key, work for a payment ends with the stored device key, and so
does every return of a key. -/
structure DeviceKept (accountId : String) (w : World) : Prop where
  pending : ∀ k key work, (w.tabs k).pending.get key = some work → BegunAs w k work key
  works : ∀ k work session, EndedWith w k work (paymentKey accountId) session →
    HoldsDevice accountId session w.store
  resolved : ∀ number key, .resolved number accountId key ∈ w.history →
    ∃ session, HoldsDevice accountId session w.store ∧
      session.certificate.sessionPublicKey = key

/-- What an operation of call `n` in tab `k` needs in order to keep the invariant. -/
def SessionOp.Justified (accountId : String) (k : Nat) (w : World) :
    {β : Type} → SessionOp β → Prop
  | _, .settle key work result => BegunAs w k work key ∧
      (key = paymentKey accountId → ∀ session, result = .ok session →
        HoldsDevice accountId session w.store)
  | _, .save session _ _ reuseDevice => reuseDevice = true ∨ session.isMarket = false ∨
      HoldsDevice accountId session w.store ∧ session.delegate.isSome = true
  | _, .resolve account key => account = accountId →
      ∃ session, HoldsDevice accountId session w.store ∧
        session.certificate.sessionPublicKey = key
  | _, _ => True

section Steps

variable {accountId : String} {browser : Browser} {w u : World} {i : SessionInput} {β : Type}
  {b : β} {n k : Nat}

theorem KeepsWorks.refl (w : World) : KeepsWorks w w := fun _ _ _ h => h

theorem KeepsWorks.trans {v : World} (hwu : KeepsWorks w u) (huv : KeepsWorks u v) :
    KeepsWorks w v := fun k work key h => huv k work key (hwu k work key h)

/-- An operation that leaves the pending work of every tab, or drops it, and adds no return. -/
theorem DeviceKept.still (h : DeviceKept accountId w)
    (hstore : KeepsDevice accountId w.store u.store)
    (hhistory : ∀ number key, .resolved number accountId key ∈ u.history →
      .resolved number accountId key ∈ w.history)
    (hworks : ∀ k, (u.tabs k).works = (w.tabs k).works)
    (hpending : ∀ k key work, (u.tabs k).pending.get key = some work →
      (w.tabs k).pending.get key = some work) :
    DeviceKept accountId u ∧ KeepsDevice accountId w.store u.store ∧ KeepsWorks w u := by
  have hbegun (k work : Nat) (key : String) (hold : BegunAs w k work key) :
      BegunAs u k work key := by
    unfold BegunAs at hold ⊢
    rw [hworks k]
    exact hold
  refine ⟨⟨fun k key work hget => ?_, fun k work session hwork => ?_, fun number key hfact => ?_⟩,
    hstore, hbegun⟩
  · exact hbegun k work key (h.pending k key work (hpending k key work hget))
  · unfold EndedWith at hwork
    rw [hworks k] at hwork
    exact (h.works k work session hwork).keep hstore
  · obtain ⟨session, hholds, hkey⟩ := h.resolved number key (hhistory number key hfact)
    exact ⟨session, hholds.keep hstore, hkey⟩

/-- An operation on one tab that leaves its works. -/
theorem DeviceKept.setTab {tab : Tab} (h : DeviceKept accountId w)
    (hstore : u.store = w.store) (hhistory : u.history = w.history)
    (htabs : u.tabs = Function.update w.tabs k tab) (hworks : tab.works = (w.tabs k).works)
    (hpending : ∀ key work, tab.pending.get key = some work →
      (w.tabs k).pending.get key = some work) :
    DeviceKept accountId u ∧ KeepsDevice accountId w.store u.store ∧ KeepsWorks w u := by
  apply h.still
  · rw [hstore]
    exact .refl _ _
  · intro number key hfact
    rw [hhistory] at hfact
    exact hfact
  · intro j
    rw [htabs]
    by_cases hj : j = k
    · subst hj
      rw [Function.update_self, hworks]
    · rw [Function.update_of_ne hj]
  · intro j key work hget
    rw [htabs] at hget
    by_cases hj : j = k
    · subst hj
      rw [Function.update_self] at hget
      exact hpending key work hget
    · rw [Function.update_of_ne hj] at hget
      exact hget

/-- New work has its key. -/
theorem DeviceKept.begin (h : DeviceKept accountId w) (key : String) :
    DeviceKept accountId (w.setTab k ((w.tabs k).begin key).2) ∧
      KeepsDevice accountId w.store w.store ∧ KeepsWorks w (w.setTab k ((w.tabs k).begin key).2) ∧
      BegunAs (w.setTab k ((w.tabs k).begin key).2) k ((w.tabs k).begin key).1.work key := by
  cases hpending : (w.tabs k).pending.get key with
  | some work =>
    have htab : (w.tabs k).begin key = (⟨true, work, (w.tabs k).generation⟩, w.tabs k) := by
      unfold Tab.begin
      rw [hpending]
    rw [htab]
    have hsame : w.setTab k (w.tabs k) = w := by
      unfold World.setTab
      rw [Function.update_eq_self]
    rw [hsame]
    exact ⟨h, .refl _ _, .refl w, h.pending k key work hpending⟩
  | none =>
    have htab : (w.tabs k).begin key = (⟨false, (w.tabs k).works.length, (w.tabs k).generation⟩,
        { w.tabs k with
          pending := (w.tabs k).pending.insert key (w.tabs k).works.length
          works := (w.tabs k).works ++ [(key, none)] }) := by
      unfold Tab.begin
      rw [hpending]
    rw [htab]
    dsimp only
    have hnew : BegunAs (w.setTab k { w.tabs k with
        pending := (w.tabs k).pending.insert key (w.tabs k).works.length
        works := (w.tabs k).works ++ [(key, none)] }) k (w.tabs k).works.length key := by
      refine ⟨none, ?_⟩
      simp [World.setTab]
    have hbegun : KeepsWorks w (w.setTab k { w.tabs k with
        pending := (w.tabs k).pending.insert key (w.tabs k).works.length
        works := (w.tabs k).works ++ [(key, none)] }) := by
      rintro j work other ⟨outcome, hwork⟩
      refine ⟨outcome, ?_⟩
      by_cases hj : j = k
      · subst hj
        obtain ⟨hlt, -⟩ := List.getElem?_eq_some_iff.mp hwork
        simp only [World.setTab, Function.update_self]
        rw [List.getElem?_append_left hlt]
        exact hwork
      · simp only [World.setTab, Function.update_of_ne hj]
        exact hwork
    refine ⟨⟨fun j other work hget => ?_, fun j work session hwork => ?_, h.resolved⟩,
      .refl _ _, hbegun, hnew⟩
    · by_cases hj : j = k
      · subst hj
        simp only [World.setTab, Function.update_self] at hget
        rw [LookupMap.get_insert] at hget
        split at hget
        · next hkey =>
            cases hget
            rw [hkey]
            exact hnew
        · exact hbegun _ _ _ (h.pending _ other work hget)
      · simp only [World.setTab, Function.update_of_ne hj] at hget
        exact hbegun _ _ _ (h.pending j other work hget)
    · obtain ⟨result, hok, hwork⟩ := hwork
      apply h.works j work session
      refine ⟨result, hok, ?_⟩
      by_cases hj : j = k
      · subst hj
        simp only [World.setTab, Function.update_self] at hwork
        rcases Nat.lt_or_ge work (w.tabs j).works.length with hlt | hge
        · rw [List.getElem?_append_left hlt] at hwork
          exact hwork
        · rw [List.getElem?_append_right hge, List.getElem?_singleton] at hwork
          split at hwork
          · cases hwork
          · cases hwork
      · simp only [World.setTab, Function.update_of_ne hj] at hwork
        exact hwork

/-- Work is settled by its own request. -/
theorem DeviceKept.settle {key : String} {work : Nat} {result : Result DeviceSession}
    (h : DeviceKept accountId w) (hwork : BegunAs w k work key)
    (hresult : key = paymentKey accountId → ∀ session, result = .ok session →
      HoldsDevice accountId session w.store) :
    DeviceKept accountId (w.setTab k ((w.tabs k).settle key work result)) ∧
      KeepsDevice accountId w.store w.store ∧
      KeepsWorks w (w.setTab k ((w.tabs k).settle key work result)) := by
  have hworks (j other : Nat) : ((w.setTab k ((w.tabs k).settle key work result)).tabs j).works[other]? =
      if j = k ∧ other = work then
        ((w.tabs j).works[other]?).map fun begun => (begun.1, some result)
      else (w.tabs j).works[other]? := by
    by_cases hj : j = k
    · subst hj
      simp only [World.setTab, Function.update_self, Tab.settle, List.getElem?_modify]
      by_cases hother : other = work
      · subst hother
        simp
      · simp [hother, Ne.symm hother]
    · simp [World.setTab, hj]
  have hbegun : KeepsWorks w (w.setTab k ((w.tabs k).settle key work result)) := by
    rintro j other label ⟨outcome, hother⟩
    unfold BegunAs
    rw [hworks]
    split
    · rw [hother]
      exact ⟨some result, rfl⟩
    · exact ⟨outcome, hother⟩
  refine ⟨⟨fun j label other hget => ?_, fun j other session hother => ?_, h.resolved⟩,
    .refl _ _, hbegun⟩
  · apply hbegun
    apply h.pending j label other
    by_cases hj : j = k
    · subst hj
      simp only [World.setTab, Function.update_self, Tab.settle] at hget
      split at hget
      · by_cases hlabel : label = key
        · rw [hlabel, LookupMap.get_remove_self] at hget
          cases hget
        · rw [LookupMap.get_remove_of_ne _ hlabel] at hget
          exact hget
      · exact hget
    · simp only [World.setTab, Function.update_of_ne hj] at hget
      exact hget
  · obtain ⟨ended, hok, hother⟩ := hother
    rw [hworks] at hother
    split at hother
    · next hsame =>
        obtain ⟨rfl, rfl⟩ := hsame
        obtain ⟨outcome, hlabel⟩ := hwork
        rw [hlabel] at hother
        obtain ⟨hkey, hended⟩ := Prod.mk.inj (Option.some.inj hother)
        cases hended
        exact hresult hkey session hok
    · exact h.works j other session ⟨ended, hok, hother⟩

/-- An operation that changes nothing here. -/
theorem DeviceKept.same (h : DeviceKept accountId w) :
    DeviceKept accountId w ∧ KeepsDevice accountId w.store w.store ∧ KeepsWorks w w :=
  ⟨h, .refl _ _, .refl w⟩

/-- A line of the history that returns no key of the account. -/
theorem DeviceKept.log {fact : Fact} {store : Store} (h : DeviceKept accountId w)
    (hstore : KeepsDevice accountId w.store store)
    (hfact : ∀ number key, fact ≠ .resolved number accountId key) :
    DeviceKept accountId { w.log fact with store := store } ∧
      KeepsDevice accountId w.store store ∧ KeepsWorks w { w.log fact with store := store } := by
  apply h.still
  · exact hstore
  · intro number key hmem
    rcases List.mem_cons.mp hmem with hhead | hold
    · exact absurd hhead.symm (hfact number key)
    · exact hold
  · exact fun _ => rfl
  · exact fun _ _ _ hget => hget

theorem Tab.startSave_works (tab : Tab) (watcher : Nat) (force : Bool) (nowMs : Nat) :
    (tab.startSave watcher force nowMs).2.works = tab.works ∧
      (tab.startSave watcher force nowMs).2.pending = tab.pending := by
  unfold Tab.startSave
  split
  · exact ⟨rfl, rfl⟩
  · split <;> exact ⟨rfl, rfl⟩

/-- A transaction keeps the device key of the account. -/
theorem storeExec_device {op : SessionOp β} (hw : DeviceKept accountId w) (hlasting : op.Lasting)
    (hspares : op.Spares accountId k w) (hop : op.Justified accountId k w)
    (h : storeExec browser n k w op = some (b, u)) :
    DeviceKept accountId u ∧ KeepsDevice accountId w.store u.store ∧ KeepsWorks w u := by
  cases op with
  | readStored account =>
    cases h
    exact hw.log (.refl _ _) (fun _ _ hsame => nomatch hsame)
  | readProgress input =>
    cases h
    exact hw.log (.refl _ _) (fun _ _ hsame => nomatch hsame)
  | update update => exact hlasting.elim
  | save session revision generation reuseDevice =>
    unfold storeExec at h
    dsimp only at h
    split at h
    · cases h
      exact hw.same
    · next hfence =>
        obtain ⟨hrevision, hgeneration⟩ := not_or.mp hfence
        rw [not_not] at hrevision hgeneration
        split at h
        · cases h
          exact hw.same
        · next hkept =>
            cases h
            refine hw.log ?_ (fun _ _ hsame => nomatch hsame)
            by_cases haccount : session.proof.accountId = accountId
            · cases reuseDevice with
              | true =>
                rw [haccount] at hkept
                exact .put_unkept hkept
              | false =>
                rcases hop with hreuse | hwallet | ⟨hholds, hdelegate⟩
                · cases hreuse
                · apply KeepsDevice.put_free
                  exact hspares hwallet haccount hrevision hgeneration
                · exact .put_same hholds hdelegate
            · exact .put_other haccount
  | savePosition watcher record =>
    unfold storeExec at h
    dsimp only at h
    split at h
    · cases h
      exact hw.same
    · split at h
      · cases h
        exact hw.same
      · cases h
        exact hw.log (.refl _ _) (fun _ _ hsame => nomatch hsame)
  | _ => cases h

/-- So does an operation on a tab. -/
theorem tabExec_device {op : SessionOp β} (hw : DeviceKept accountId w)
    (hop : op.Justified accountId k w) (h : tabExec browser n k i w op = some (b, u)) :
    DeviceKept accountId u ∧ KeepsDevice accountId w.store u.store ∧ KeepsWorks w u := by
  cases op with
  | accept =>
    cases h
    exact hw.still (.refl _ _) (fun _ _ h => h) (fun _ => rfl) fun _ _ _ h => h
  | begin key =>
    cases h
    obtain ⟨hkept, hstore, hworks, -⟩ := hw.begin (k := k) key
    exact ⟨hkept, hstore, hworks⟩
  | settle key work result =>
    cases h
    exact hw.settle hop.1 hop.2
  | observe revision =>
    cases h
    refine hw.setTab rfl rfl rfl ?_ ?_
    · unfold Tab.observe
      split
      · rfl
      · split <;> rfl
    · intro key work hget
      unfold Tab.observe at hget
      split at hget
      · exact hget
      · split at hget <;> exact hget
  | invalidate =>
    cases h
    refine hw.setTab rfl rfl rfl rfl fun key work hget => ?_
    simp [Tab.invalidate] at hget
  | watchSessionChanges | listen | stop | unsubscribe =>
    cases h
    exact hw.setTab rfl rfl rfl rfl fun _ _ hget => hget
  | announce revision =>
    cases h
    exact hw.setTab rfl rfl rfl rfl fun _ _ hget => hget
  | join work =>
    obtain ⟨result, -, heq⟩ := Option.map_eq_some_iff.mp h
    cases heq
    exact hw.same
  | openWatch watcher watch =>
    unfold tabExec at h
    dsimp only at h
    split at h
    · cases h
      exact hw.same
    · cases h
      exact hw.setTab rfl rfl rfl rfl fun _ _ hget => hget
  | startSave watcher force =>
    cases h
    refine hw.setTab rfl rfl rfl (Tab.startSave_works _ _ _ _).1 fun key work hget => ?_
    rw [← (Tab.startSave_works (w.tabs k) watcher force i.nowMs).2]
    exact hget
  | resolve account key =>
    cases h
    have hresolved (number : Nat) (returned : String)
        (hmem : .resolved number accountId returned ∈ (w.log (.resolved n account key)).history) :
        ∃ session, HoldsDevice accountId session w.store ∧
          session.certificate.sessionPublicKey = returned := by
      rcases List.mem_cons.mp hmem with hhead | hold
      · cases hhead
        exact hop rfl
      · exact hw.resolved number returned hold
    exact ⟨⟨hw.pending, hw.works, hresolved⟩, .refl _ _, .refl w⟩
  | look | now | digest | generateKey | exportKey | nonce | sign | proveKey | viewDevice =>
    cases h
    exact hw.same
  | _ => cases h

theorem exec_device {op : NumberedOp β} (hw : DeviceKept accountId w) (hlasting : op.op.Lasting)
    (hspares : op.op.Spares accountId op.tab w) (hop : op.op.Justified accountId op.tab w)
    (h : exec browser β op i w = some (b, u)) :
    DeviceKept accountId u ∧ KeepsDevice accountId w.store u.store ∧ KeepsWorks w u := by
  unfold exec at h
  split at h
  · exact storeExec_device hw hlasting hspares hop h
  · exact tabExec_device hw hop h

end Steps

/-! ## Programs -/

/-- What others and the call itself keep. -/
def Keeps (accountId : String) (w u : World) : Prop :=
  KeepsDevice accountId w.store u.store ∧ KeepsWorks w u

def deviceDiscipline (browser : Browser) (env : SessionEnv) (accountId : String) :
    Discipline (deviceSystem browser env accountId) where
  inv := DeviceKept accountId
  meets := fun op w => op.op.Lasting ∧ op.op.Spares accountId op.tab w
  rely := fun _ => Keeps accountId
  guar := fun _ => Keeps accountId
  rely_refl := fun _ w => ⟨.refl _ _, .refl w⟩
  rely_trans := fun _ _ _ _ hst htu => ⟨hst.1.trans htu.1, hst.2.trans htu.2⟩
  guar_rely := fun _ _ _ _ _ _ h => h
  world := by
    intro delivery w u hw h
    change deliver delivery w = some u at h
    unfold deliver at h
    split at h
    · cases h
      have hkept : DeviceKept accountId
            (w.setTab delivery.tab ((w.tabs delivery.tab).deliver delivery.revision)) ∧
          KeepsDevice accountId w.store w.store ∧
          KeepsWorks w (w.setTab delivery.tab ((w.tabs delivery.tab).deliver delivery.revision)) := by
        refine hw.setTab rfl rfl rfl ?_ fun key work hget => ?_
        · unfold Tab.deliver
          split <;> rfl
        · unfold Tab.deliver at hget
          split at hget
          · simp [Tab.invalidate] at hget
          · exact hget
      exact ⟨hkept.1, fun _ => hkept.2⟩
    · cases h

/-- Where a program runs. -/
structure Site where
  browser : Browser
  env : SessionEnv
  accountId : String
  incoming : DeviceIncoming
  tab : Nat
  number : Nat

/-- The program keeps the device key, and ends with a result and a state of which `P` holds. -/
def Ends {τ : Type} (site : Site) (P : τ → World → Prop) (p : SessionHandler τ) (w : World) : Prop :=
  (deviceDiscipline site.browser site.env site.accountId).Safe site.incoming
    (fun x t => ∀ a, x = .ok a → P a t) (numbered site.tab site.number p) w

/-- The operation needs nothing to keep the invariant. -/
def SessionOp.Tame : {β : Type} → SessionOp β → Prop
  | _, .settle _ _ _ => False
  | _, .resolve _ _ => False
  | _, .save session _ _ reuseDevice => reuseDevice = true ∨ session.isMarket = false
  | _, _ => True

section Rules

variable {site : Site} {w : World} {α τ : Type} {P : τ → World → Prop}

theorem SessionOp.Tame.justified {β : Type} {op : SessionOp β} (h : op.Tame) (accountId : String)
    (k : Nat) (w : World) : op.Justified accountId k w := by
  cases op with
  | settle => exact h.elim
  | resolve => exact h.elim
  | save session revision generation reuseDevice => exact h.imp_right .inl
  | _ => trivial

theorem SessionOp.Fencing.tame {β : Type} {op : SessionOp β} (h : op.Fencing none) : op.Tame := by
  cases op with
  | settle => exact h.elim
  | resolve => exact h.elim
  | save => cases h
  | _ => trivial

theorem tame_of_fencing {p : SessionHandler τ} (h : p.Uses fun op => op.Fencing none) :
    p.Uses fun op => op.Tame := h.mono fun _ hop => hop.tame

theorem ends_done {a : τ} (h : P a w) : Ends site P (.done a) w := by
  intro a' ha
  cases ha
  exact h

theorem ends_except {x : Except String α} {f : α → SessionHandler τ}
    (h : ∀ a, x = .ok a → Ends site P (f a) w) : Ends site P (Handler.ofExcept x >>= f) w := by
  cases x with
  | ok a => exact h a rfl
  | error e => exact fun _ hok => nomatch hok

theorem ends_perform {β : Type} {op : SessionOp β} {code : String} {f : β → SessionHandler τ}
    (hop : ∀ t, Keeps site.accountId w t → DeviceKept site.accountId t →
      op.Justified site.accountId site.tab t)
    (h : ∀ t, Keeps site.accountId w t → DeviceKept site.accountId t → ∀ i b u,
      exec site.browser β ⟨site.tab, site.number, op⟩ i t = some (b, u) →
      DeviceKept site.accountId u → Keeps site.accountId w u → Ends site P (f b) u) :
    Ends site P (Handler.perform code op >>= f) w := by
  unfold Ends
  rw [numbered_bind]
  apply Discipline.Safe.perform
  intro t hwt ht
  refine ⟨fun _ hok => (nomatch hok), fun i b u hmeets hexec => ?_⟩
  change exec site.browser β ⟨site.tab, site.number, op⟩ i t = some (b, u) at hexec
  obtain ⟨hu, hstore, hworks⟩ := exec_device ht hmeets.1 hmeets.2 (hop t hwt ht) hexec
  have hwu : Keeps site.accountId w u := ⟨hwt.1.trans hstore, hwt.2.trans hworks⟩
  exact ⟨hu, ⟨hstore, hworks⟩, h t hwt ht i b u hexec hu hwu, fun _ hok => nomatch hok⟩

theorem ends_bind {R : α → World → Prop} {p : SessionHandler α} {f : α → SessionHandler τ}
    (hw : DeviceKept site.accountId w) (hp : Ends site R p w)
    (h : ∀ a t, DeviceKept site.accountId t → Keeps site.accountId w t → R a t →
      Ends site P (f a) t) : Ends site P (p >>= f) w := by
  unfold Ends
  rw [numbered_bind]
  have htrail := Discipline.Safe.trail (A := Keeps site.accountId)
    (fun v => ⟨.refl _ _, .refl v⟩) (fun _ _ _ hst htu => ⟨hst.1.trans htu.1, hst.2.trans htu.2⟩)
    (fun _ _ h => h) (fun _ _ h => h) hp
  apply Discipline.Safe.bind htrail hw
  · rintro a t ht ⟨hP, hwt⟩
    exact h a t ht hwt (hP a rfl)
  · exact fun _ _ _ _ _ hok => nomatch hok

/-- A part of a program that needs nothing. -/
theorem ends_tame {p : SessionHandler τ} (hp : p.Uses fun op => op.Tame) :
    Ends site (fun _ _ => True) p w := by
  have hsafe : (deviceDiscipline site.browser site.env site.accountId).Safe site.incoming
      Discipline.Anywhere (numbered site.tab site.number p) w := by
    refine Discipline.safe_of_uses (P := fun op => op.op.Tame) ?_ (Handler.Uses.lift_of _ hp)
    intro β op hop i t b u ht hmeets hexec
    exact exec_device ht hmeets.1 hmeets.2 (hop.justified _ _ _) hexec
  exact hsafe.mono fun _ _ _ _ _ => trivial

theorem ends_bind_tame {p : SessionHandler α} {f : α → SessionHandler τ}
    (hw : DeviceKept site.accountId w) (hp : p.Uses fun op => op.Tame)
    (h : ∀ a t, DeviceKept site.accountId t → Keeps site.accountId w t → Ends site P (f a) t) :
    Ends site P (p >>= f) w :=
  ends_bind hw (ends_tame hp) fun a t ht hwt _ => h a t ht hwt

theorem ends_mono {P' : τ → World → Prop} {p : SessionHandler τ} (hp : Ends site P' p w)
    (h : ∀ a t, P' a t → P a t) : Ends site P p w :=
  Discipline.Safe.mono hp fun _ _ hP a ha => h a _ (hP a ha)

theorem ends_rescue {p : SessionHandler τ} {handle : String → SessionHandler τ}
    (hw : DeviceKept site.accountId w) (hp : Ends site P p w)
    (h : ∀ e t, DeviceKept site.accountId t → Ends site P (handle e) t) :
    Ends site P (p.rescue handle) w := by
  unfold Ends
  unfold numbered
  rw [Handler.lift_rescue]
  apply Discipline.Safe.rescue hp hw
  · exact fun _ _ _ hP => hP
  · exact fun e t ht _ => h e t ht

end Rules

section Programs

variable {site : Site} {w : World} {α : Type}

/-- The stored session that was read is the stored device key from then on, if it is one. -/
def Stored (accountId : String) (found : Option DeviceSession) (t : World) : Prop :=
  ∀ session, found = some session → session.isMarket = true → HoldsDevice accountId session t.store

theorem Stored.keep {accountId : String} {found : Option DeviceSession} {t u : World}
    (h : Stored accountId found t) (htu : Keeps accountId t u) : Stored accountId found u :=
  fun session hfound hmarket => (h session hfound hmarket).keep htu.1

theorem readStored_ends (hw : DeviceKept site.accountId w) :
    Ends site (fun found t => Stored site.accountId found.2 t) (readStored site.accountId) w := by
  unfold readStored
  refine ends_bind_tame hw (Handler.Uses.perform trivial) fun _ t ht _ => ?_
  apply ends_perform
  · exact fun _ _ _ => trivial
  intro v _ hv i found u hexec hu _
  cases hexec
  have hstored : Stored site.accountId (v.store.sessions.get site.accountId)
      (v.log (.read site.number site.accountId v.store.current
        (v.store.sessions.get site.accountId))) :=
    fun session hget hmarket => .stored hget hmarket
  refine ends_bind_tame hu (Handler.Uses.perform trivial) fun _ x _ hux => ?_
  exact ends_done (hstored.keep hux)

/-- A validation gives the session that it was asked about. -/
theorem validate_ends {expectedGeneration revision : Nat} {session : DeviceSession}
    (hw : DeviceKept site.accountId w) (hstored : Stored site.accountId (some session) w) :
    Ends site (fun found t => Stored site.accountId found t)
      (validate site.env site.accountId expectedGeneration revision session) w := by
  unfold validate
  refine ends_except fun _ _ => ?_
  refine ends_bind_tame hw (Handler.Uses.perform trivial) fun originHash t ht hwt => ?_
  refine ends_bind_tame ht (Handler.Uses.perform trivial) fun nowMs u hu htu => ?_
  refine ends_except fun _ _ => ?_
  refine ends_bind_tame hu (Handler.Uses.perform trivial) fun proven v hv huv => ?_
  refine ends_except fun _ _ => ?_
  refine ends_bind_tame hv (Handler.Uses.perform trivial) fun looked x _ hvx => ?_
  have hx := (((hstored.keep hwt).keep htu).keep huv).keep hvx
  apply ends_done
  split
  · exact fun _ hnone => nomatch hnone
  · exact hx

theorem readValidDeviceSession_ends (hw : DeviceKept site.accountId w) :
    Ends site (fun valid t => Stored site.accountId valid.1 t)
      (readValidDeviceSession site.env site.accountId) w := by
  unfold readValidDeviceSession
  refine ends_bind_tame hw (Handler.Uses.perform trivial) fun looked t ht _ => ?_
  refine ends_bind ht (readStored_ends ht) fun found u hu _ hfound => ?_
  obtain ⟨revision, session⟩ := found
  cases session with
  | none => exact ends_done fun _ hnone => nomatch hnone
  | some session =>
    refine ends_bind (R := fun outcome t => ∀ found, outcome = some found →
      Stored site.accountId found t) hu ?_ fun outcome v hv _ houtcome => ?_
    · apply ends_rescue hu
      · refine ends_bind hu (validate_ends hu hfound) fun found v _ _ hvalid => ?_
        apply ends_done
        intro found' hsame
        cases hsame
        exact hvalid
      · exact fun e x _ => ends_done fun _ hnone => nomatch hnone
    · cases outcome with
      | some found => exact ends_done (houtcome found rfl)
      | none =>
        refine ends_bind_tame hv (Handler.Uses.perform trivial) fun looked x hx _ => ?_
        dsimp only
        split
        · exact ends_done fun _ hnone => nomatch hnone
        · refine ends_bind_tame hx (tame_of_fencing (updateDeviceSession_fencing _))
            fun generation y _ _ => ?_
          exact ends_done fun _ hnone => nomatch hnone

/-- A wallet's session is no device key. -/
theorem signSession_tame {env : SessionEnv} {given : Option String} {readFrom : String}
    {generation : Nat} : (signSession env given readFrom generation).Uses fun op => op.Tame := by
  unfold signSession
  refine Handler.Uses.bind (tame_of_fencing readStored_fencing) fun found => ?_
  refine Handler.Uses.bind (Handler.Uses.perform trivial) fun key => ?_
  refine Handler.Uses.bind (Handler.Uses.perform trivial) fun issuedAtMs => ?_
  refine Handler.Uses.bind (Handler.Uses.perform trivial) fun sessionPublicKey => ?_
  refine Handler.Uses.bind (Handler.Uses.perform trivial) fun originHash => ?_
  refine Handler.Uses.bind (Handler.Uses.perform trivial) fun nonce => ?_
  refine Handler.Uses.bind (tame_of_fencing (requireGeneration_fencing _)) fun _ => ?_
  refine Handler.Uses.bind (Handler.Uses.perform trivial) fun answer => ?_
  refine Handler.Uses.bind (Handler.Uses.ofExcept _) fun proof => ?_
  refine Handler.Uses.bind (Handler.Uses.ofExcept _) fun _ => ?_
  refine Handler.Uses.bind (tame_of_fencing (requireGeneration_fencing _)) fun _ => ?_
  refine Handler.Uses.bind (Handler.Uses.perform trivial) fun nowMs => ?_
  refine Handler.Uses.bind (Handler.Uses.ofExcept _) fun _ => ?_
  refine Handler.Uses.bind ?_ fun _ => ?_
  · exact Handler.Uses.bind (Handler.Uses.perform (.inr rfl)) fun _ => Handler.Uses.ofExcept _
  · exact Handler.Uses.bind (tame_of_fencing (requireGeneration_fencing _)) fun _ => trivial

theorem prepareWork_tame {env : SessionEnv} {given : Option String} {generation : Nat} :
    (prepareWork env given generation).Uses fun op => op.Tame := by
  unfold prepareWork
  split
  · exact signSession_tame
  · refine Handler.Uses.bind (tame_of_fencing readValidDeviceSession_fencing) fun found => ?_
    refine Handler.Uses.bind (tame_of_fencing (requireGeneration_fencing _)) fun _ => ?_
    split
    · trivial
    · exact signSession_tame

/-- The transaction of `preparePlaybackDevice` ends with the stored device key. -/
theorem save_holds {browser : Browser} {k n : Nat} {i : SessionInput} {session : DeviceSession}
    {revision generation : Nat} {saved : Option DeviceSession} {accountId : String} {u : World}
    (h : exec browser _ ⟨k, n, .save session revision generation true⟩ i w = some (saved, u))
    (hmarket : session.isMarket = true) (haccount : session.proof.accountId = accountId) :
    ∀ found, saved = some found → HoldsDevice accountId found u.store := by
  subst haccount
  change storeExec browser n k w (.save session revision generation true) = some (saved, u) at h
  intro found hfound
  subst hfound
  unfold storeExec at h
  dsimp only at h
  split at h
  · cases h
  · split at h
    · next existing hkept =>
        cases h
        obtain ⟨hexisting, hdevice⟩ := Option.filter_eq_some_iff.mp hkept
        exact .stored hexisting hdevice
    · cases h
      apply HoldsDevice.stored _ hmarket
      exact LookupMap.get_insert_self _ _ _

/-- The work for a payment ends with the stored device key. -/
theorem playbackWork_ends {generation : Nat} (hw : DeviceKept site.accountId w) :
    Ends site (fun worked t => HoldsDevice site.accountId worked.1 t.store)
      (playbackWork site.env site.accountId generation) w := by
  unfold playbackWork
  refine ends_bind hw (readValidDeviceSession_ends hw) fun valid t ht _ hvalid => ?_
  obtain ⟨existing, armed⟩ := valid
  refine ends_bind_tame ht (tame_of_fencing (requireGeneration_fencing _)) fun _ u hu htu => ?_
  dsimp only
  split
  · next session hfilter =>
      obtain ⟨hexisting, hmarket⟩ := Option.filter_eq_some_iff.mp hfilter
      exact ends_done ((hvalid.keep htu) session hexisting hmarket)
  · refine ends_bind_tame hu (tame_of_fencing readStored_fencing) fun found v hv _ => ?_
    refine ends_bind_tame hv (tame_of_fencing createKey_fencing) fun created x hx _ => ?_
    refine ends_bind_tame hx (Handler.Uses.perform trivial) fun originHash y _ _ => ?_
    apply ends_perform
    · exact fun _ _ _ => .inl rfl
    intro z _ _ i saved z' hexec _ _
    have hsaved := save_holds hexec rfl rfl
    refine ends_except fun session hsession => ?_
    exact ends_done (hsaved session (expect_eq_ok.mp hsession))

/-- Work that is shared ends with the same result. -/
theorem shareWork_ends {key : String} {work : Nat} {session : α → DeviceSession}
    {p : SessionHandler α} (hw : DeviceKept site.accountId w) (hbegun : BegunAs w site.tab work key)
    (hp : Ends site (fun a t => key = paymentKey site.accountId →
      HoldsDevice site.accountId (session a) t.store) p w) :
    Ends site (fun a t => key = paymentKey site.accountId →
      HoldsDevice site.accountId (session a) t.store) (shareWork key work session p) w := by
  unfold shareWork
  refine ends_bind (R := fun outcome t => key = paymentKey site.accountId →
    ∀ a, outcome = .ok a → HoldsDevice site.accountId (session a) t.store) hw ?_
    fun outcome t _ hwt houtcome => ?_
  · apply ends_rescue hw
    · refine ends_bind hw hp fun a t _ _ ha => ?_
      apply ends_done
      intro hkey a' hsame
      cases hsame
      exact ha hkey
    · exact fun e t _ => ends_done fun _ _ herror => nomatch herror
  · apply ends_perform
    · intro u htu _
      refine ⟨htu.2 _ _ _ (hwt.2 _ _ _ hbegun), fun hkey found hfound => ?_⟩
      cases outcome with
      | error e => cases hfound
      | ok a =>
        cases hfound
        exact (houtcome hkey a rfl).keep htu.1
    · intro u _ _ i b v _ _ htv
      cases outcome with
      | error e => exact fun _ hok => nomatch hok
      | ok a => exact ends_done fun hkey => (houtcome hkey a rfl).keep htv.1

/-- Joined work for a payment ends with the stored device key. -/
theorem joinWork_ends {work : Nat} (hbegun : BegunAs w site.tab work (paymentKey site.accountId)) :
    Ends site (fun session t => HoldsDevice site.accountId session t.store) (joinWork work) w := by
  unfold joinWork
  apply ends_perform
  · exact fun _ _ _ => trivial
  intro t hwt ht i outcome u hexec _ _
  obtain ⟨result, hresult, heq⟩ := Option.map_eq_some_iff.mp hexec
  cases heq
  cases outcome with
  | error e => exact fun _ hok => nomatch hok
  | ok session =>
    apply ends_done
    obtain ⟨before, hbefore⟩ := hwt.2 _ _ _ hbegun
    rw [hbefore] at hresult
    have hended : before = some (.ok session) := hresult
    subst hended
    exact ht.works site.tab work session ⟨_, rfl, hbefore⟩

/-- The key that is returned is the stored one. -/
theorem confirmPlaybackDevice_ends {session : DeviceSession} {generation : Nat}
    (hw : DeviceKept site.accountId w) (hholds : HoldsDevice site.accountId session w.store) :
    Ends site (fun _ _ => True) (confirmPlaybackDevice site.accountId session generation) w := by
  unfold confirmPlaybackDevice
  refine ends_bind_tame hw (Handler.Uses.perform trivial) fun certificateHash t ht hwt => ?_
  refine ends_bind_tame ht (tame_of_fencing readStored_fencing) fun found u hu htu => ?_
  refine ends_bind_tame hu (tame_of_fencing (requireGeneration_fencing _)) fun _ v _ huv => ?_
  refine ends_except fun _ _ => ?_
  have hv := ((hholds.keep hwt.1).keep htu.1).keep huv.1
  apply ends_perform
  · exact fun x hvx _ _ => ⟨session, hv.keep hvx.1, rfl⟩
  · exact fun _ _ _ _ _ _ _ _ _ => ends_done trivial

theorem rememberPlaybackDelegate_ends {authorization : PlaybackSessionAuthorization}
    {signedDelegate : String} (hw : DeviceKept site.accountId w) :
    Ends site (fun _ _ => True)
      (rememberPlaybackDelegate site.accountId authorization signedDelegate) w := by
  unfold rememberPlaybackDelegate
  refine ends_bind_tame hw (Handler.Uses.perform trivial) fun looked t ht _ => ?_
  refine ends_bind ht (readStored_ends ht) fun found u hu _ hfound => ?_
  refine ends_except fun session hsession => ?_
  obtain ⟨hread, hmatches⟩ := Option.filter_eq_some_iff.mp (expect_eq_ok.mp hsession)
  have hmarket : session.isMarket = true := (Bool.and_eq_true_iff.mp hmatches).1
  have hholds := hfound session hread hmarket
  refine ends_bind_tame hu (Handler.Uses.perform trivial) fun certificateSha256 v hv huv => ?_
  refine ends_except fun _ _ => ?_
  apply ends_perform
  · intro x hvx _
    exact .inr (.inr ⟨(hholds.keep huv.1).keep hvx.1, rfl⟩)
  · intro x _ _ i saved y _ _ _
    cases saved with
    | none => exact fun _ hok => nomatch hok
    | some saved => exact ends_done trivial

theorem begun_of_begin {browser : Browser} {k n : Nat} {i : SessionInput} {key : String}
    {pending : Pending} {u : World} {accountId : String} (hw : DeviceKept accountId w)
    (h : exec browser _ ⟨k, n, .begin key⟩ i w = some (pending, u)) :
    BegunAs u k pending.work key := by
  cases h
  exact (hw.begin key).2.2.2

theorem preparePlaybackDevice_ends :
    Ends site (fun _ _ => True) (preparePlaybackDevice site.env site.accountId) w := by
  unfold preparePlaybackDevice
  refine ends_except fun _ _ => ?_
  apply ends_perform
  · exact fun _ _ _ => trivial
  intro t _ ht i pending u hexec hu _
  have hbegun : BegunAs u site.tab pending.work (paymentKey site.accountId) :=
    begun_of_begin ht hexec
  dsimp only
  split
  · refine ends_bind hu (joinWork_ends hbegun) fun session v hv _ hholds => ?_
    exact confirmPlaybackDevice_ends hv hholds
  · refine ends_bind hu (shareWork_ends hu hbegun ?_) fun worked v hv _ hholds => ?_
    · exact ends_mono (playbackWork_ends hu) fun _ _ h _ => h
    · obtain ⟨session, expectedGeneration⟩ := worked
      exact confirmPlaybackDevice_ends hv (hholds rfl)

/-- Work for a wallet session shares no key with the work for a payment. -/
theorem prepareDeviceSession_ends {given : Option String} {aborted : Bool}
    (hkey : given.getD "connect" ≠ paymentKey site.accountId) :
    Ends site (fun _ _ => True) (prepareDeviceSession site.env given aborted) w := by
  unfold prepareDeviceSession
  refine ends_except fun _ _ => ?_
  apply ends_perform
  · exact fun _ _ _ => trivial
  intro t _ ht i pending u hexec hu _
  have hbegun : BegunAs u site.tab pending.work (given.getD "connect") := begun_of_begin ht hexec
  split
  · exact ends_tame (Handler.Uses.bind (Handler.Uses.perform trivial)
      fun _ => Handler.Uses.ofExcept _)
  · refine ends_mono (shareWork_ends hu hbegun ?_) fun _ _ _ => trivial
    exact ends_mono (ends_tame prepareWork_tame) fun _ _ _ hsame => absurd hsame hkey

theorem connect_ne_paymentKey (accountId : String) : "connect" ≠ paymentKey accountId := by
  intro h
  have hhead := congrArg (fun s => s.toList.head?) h
  simp [paymentKey] at hhead

theorem self_ne_paymentKey (accountId : String) : accountId ≠ paymentKey accountId := by
  intro h
  have hlength := congrArg String.length h
  simp [paymentKey] at hlength

/-- Every call for the account keeps its device key. -/
theorem call_ends {call : DeviceCall} (hw : DeviceKept site.accountId w) :
    Ends site (fun _ _ => True)
      (handle site.browser site.env site.number (call.call site.accountId)) w := by
  cases call with
  | ensureDeviceSession aborted =>
    refine ends_bind hw (prepareDeviceSession_ends ?_) fun _ _ _ _ _ => ends_done trivial
    exact self_ne_paymentKey _
  | connectDeviceSession aborted =>
    refine ends_bind hw (prepareDeviceSession_ends ?_) fun _ _ _ _ _ => ends_done trivial
    exact connect_ne_paymentKey _
  | preparePlaybackDevice =>
    exact ends_bind hw preparePlaybackDevice_ends fun _ _ _ _ _ => ends_done trivial
  | rememberPlaybackDelegate authorization signedDelegate =>
    exact ends_bind hw (rememberPlaybackDelegate_ends hw) fun _ _ _ _ _ => ends_done trivial

end Programs

/-! ## Runs -/

section Runs

variable {browser : Browser} {env : SessionEnv} {accountId : String} {store₀ : Store}
  {tr : List (Transition (Config World NumberedOp String Answer DeviceIncoming)
    (Event SessionInput DeviceIncoming Delivery))}
  {c : Config World NumberedOp String Answer DeviceIncoming}

theorem handle_ends (incoming : DeviceIncoming) (w : World) :
    (deviceDiscipline browser env accountId).Safe incoming Discipline.Anywhere
      ((deviceSystem browser env accountId).handle incoming) w := by
  apply Discipline.Safe.perform_anywhere
  intro t _ ht i number u hmeets hexec
  change exec browser _ ⟨incoming.tab, 0, .accept⟩ i t = some (number, u) at hexec
  obtain ⟨hu, hkept⟩ := exec_device ht hmeets.1 hmeets.2 (by trivial) hexec
  refine ⟨hu, hkept, ?_⟩
  have hends : Ends ⟨browser, env, accountId, incoming, incoming.tab, number⟩ (fun _ _ => True)
      (handle browser env number (incoming.call.call accountId)) u := call_ends hu
  exact Discipline.Safe.mono hends fun _ _ _ => trivial

/-- No operation of the run clears or suspends anything. -/
def NothingCleared
    (tr : List (Transition (Config World NumberedOp String Answer DeviceIncoming)
      (Event SessionInput DeviceIncoming Delivery))) : Prop :=
  ∀ x ∈ tr, ∀ (incoming : DeviceIncoming) {β : Type} (op : NumberedOp β) (i : SessionInput),
    x.pre.Executes x.label incoming op i → op.op.Lasting

/-- No wallet session is written where the account has a device key. -/
def WalletSpares (accountId : String)
    (tr : List (Transition (Config World NumberedOp String Answer DeviceIncoming)
      (Event SessionInput DeviceIncoming Delivery))) : Prop :=
  ∀ x ∈ tr, ∀ (incoming : DeviceIncoming) {β : Type} (op : NumberedOp β) (i : SessionInput),
    x.pre.Executes x.label incoming op i → op.op.Spares accountId op.tab x.pre.shared

/-- Every step keeps a stored device key and its delegate, and all calls have returned the key that is
stored. -/
structure DeviceKeyKept (accountId : String)
    (tr : List (Transition (Config World NumberedOp String Answer DeviceIncoming)
      (Event SessionInput DeviceIncoming Delivery)))
    (c : Config World NumberedOp String Answer DeviceIncoming) : Prop where
  kept : ∀ x ∈ tr, KeepsDevice accountId x.pre.shared.store x.post.shared.store
  returned : ∀ number key, .resolved number accountId key ∈ c.shared.history →
    ∃ session, c.shared.store.sessions.get accountId = some session ∧ session.isMarket = true ∧
      session.certificate.sessionPublicKey = key
  same : ∀ number number' key key', .resolved number accountId key ∈ c.shared.history →
    .resolved number' accountId key' ∈ c.shared.history → key = key'

theorem moves_keep {e : Event SessionInput DeviceIncoming Delivery} {w u : World}
    (h : Discipline.Moves (deviceDiscipline browser env accountId) e w u)
    (hw : DeviceKept accountId w) : KeepsDevice accountId w.store u.store := by
  cases h with
  | still hsame =>
    rw [hsame]
    exact .refl _ _
  | acted _ hkeeps => exact hkeeps.1
  | world delivery _ hdeliver =>
    exact (((deviceDiscipline browser env accountId).world delivery w u hw hdeliver).2
      ⟨0, .preparePlaybackDevice⟩).1

/-- In a run of any number of tabs in which nothing is cleared and no wallet session is written over a
device key, the key that was returned first stays stored with its private key and its delegate, and
every later call returns it as well. -/
theorem device_key_kept
    (h : Trace (ExecStep (deviceSystem browser env accountId).next) ⟨start store₀, []⟩ tr c)
    (hcleared : NothingCleared tr) (hspares : WalletSpares accountId tr) :
    DeviceKeyKept accountId tr c := by
  have hstart : DeviceKept accountId (start store₀) := by
    refine ⟨fun k key work hget => ?_, fun k work session hwork => ?_, fun number key hfact => ?_⟩
    · simp [start, Tab.cold] at hget
    · obtain ⟨result, -, hget⟩ := hwork
      simp [start, Tab.cold] at hget
    · exact absurd hfact List.not_mem_nil
  obtain ⟨hsound, hall⟩ := Discipline.run (D := deviceDiscipline browser env accountId)
    (fun incoming w _ => handle_ends incoming w) (Discipline.sound_idle hstart) h
    fun x hx incoming β op i hexec =>
      ⟨hcleared x hx incoming op i hexec, hspares x hx incoming op i hexec⟩
  have hkept : DeviceKept accountId c.shared := hsound.inv
  have hreturned (number : Nat) (key : String)
      (hfact : .resolved number accountId key ∈ c.shared.history) :
      ∃ session, c.shared.store.sessions.get accountId = some session ∧
        session.isMarket = true ∧ session.certificate.sessionPublicKey = key := by
    obtain ⟨session, ⟨hmarket, stored, hstored, hcertificate, -⟩, hkey⟩ :=
      hkept.resolved number key hfact
    refine ⟨stored, hstored, (isMarket_of_certificate hcertificate).trans hmarket, ?_⟩
    rw [hcertificate]
    exact hkey
  refine ⟨fun x hx => moves_keep (hall x hx).2 (hall x hx).1.inv, hreturned, ?_⟩
  intro number number' key key' hfact hfact'
  obtain ⟨session, hstored, -, rfl⟩ := hreturned number key hfact
  obtain ⟨session', hstored', -, rfl⟩ := hreturned number' key' hfact'
  rw [hstored] at hstored'
  rw [Option.some.inj hstored']

end Runs

/-! ### A wallet signs while a device is paid for -/

namespace Vectors

/-- The digest of the page's origin. -/
def originDigest : Bytes :=
  [102, 221, 15, 222, 227, 238, 235, 193, 117, 114, 43, 159, 161, 55, 9, 60, 68, 1, 152, 156,
   206, 4, 179, 115, 36, 121, 234, 239, 228, 128, 27, 249]

/-- The digest of the certificate of the device key. -/
def certificateDigest : Bytes :=
  [40, 43, 252, 202, 126, 65, 180, 172, 235, 46, 204, 73, 132, 159, 194, 202, 103, 217, 22,
   132, 42, 124, 124, 133, 130, 94, 90, 93, 213, 118, 50, 155]

/-- The digests of the two texts of the runs, told apart by their length. -/
def browser : Browser where
  platform := ⟨fun _ => none, fun _ => none, fun _ => "",
    fun bytes => if bytes.length = 19 then originDigest else certificateDigest, fun _ _ _ => false⟩
  resumable := fun _ _ => true

def env : SessionEnv := ⟨"testnet", "market.testnet", "https://youtick.org"⟩

def walletProof : WalletProof where
  accountId := "alice.testnet"
  publicKey := "ed25519:GfsJWjmGXMfct8JMR9Lm9ySUnniZbnGUTQDbT8ipWf9U"
  signature :=
    "AHPsJm1PtK2/PRBKpxT58RAy/Yq22IKfxAtSyG9khdeSjMLr1GRvP+PzdL4R2QW/S+J1+obziJ2CqffcXkHdMg=="

/-- The key of a session that a wallet signs. -/
def walletInput : SessionInput where
  nowMs := 1791360000000
  key := ⟨1, "private", false, "Ed25519", ["sign"]⟩
  publicKey := "ed25519:DpSY1mfLFv64ug2wes7b1CQmwmLvvBS4UD1khJni76nq"
  nonce := "eDd7UldXtJRCf4kBT5fXmSjzk40U61HiD7XeyYNOswQ"
  signed := some walletProof
  proven := true
  device := none

/-- The key that a payment is bound to. -/
def deviceInput : SessionInput :=
  { walletInput with
    key := ⟨2, "private", false, "Ed25519", ["sign"]⟩
    publicKey := "ed25519:D2YqLMP3LKCwSYLcZ2LDWAQQmKwL315t9UzjRisuTMaB" }

/-- A page prepares a device and gets its key. -/
def preparedRun : List (Event SessionInput DeviceIncoming Delivery) :=
  .start ⟨1, .preparePlaybackDevice⟩ :: List.replicate 21 (.run 0 deviceInput)

/-- A page asks a wallet to sign; while it waits, another page prepares a device and gets its key; then
the wallet answers. -/
def overwrittenRun : List (Event SessionInput DeviceIncoming Delivery) :=
  .start ⟨0, .ensureDeviceSession false⟩ :: List.replicate 17 (.run 0 walletInput) ++
    .start ⟨1, .preparePlaybackDevice⟩ :: List.replicate 21 (.run 1 deviceInput) ++
    List.replicate 5 (.run 0 walletInput)

end Vectors

/-- The account and the key that were returned. -/
def Fact.returned : Fact → Option (String × String)
  | .resolved _ accountId key => some (accountId, key)
  | _ => none

/-- The event deletes nothing. -/
def lastingAt (x : Transition (Config World NumberedOp String Answer DeviceIncoming)
    (Event SessionInput DeviceIncoming Delivery)) : Bool :=
  match x.pre.operation x.label with
  | some ⟨_, ⟨_, _, .update _⟩⟩ => false
  | _ => true

/-- The event writes no session without a look at what is stored. -/
def looksAt (x : Transition (Config World NumberedOp String Answer DeviceIncoming)
    (Event SessionInput DeviceIncoming Delivery)) : Bool :=
  match x.pre.operation x.label with
  | some ⟨_, ⟨_, _, .save _ _ _ false⟩⟩ => false
  | _ => true

section Examples

variable {tr : List (Transition (Config World NumberedOp String Answer DeviceIncoming)
    (Event SessionInput DeviceIncoming Delivery))}

theorem nothingCleared_of_all (h : tr.all lastingAt = true) : NothingCleared tr := by
  intro x hx incoming β op i hexec
  have hlasting := List.all_eq_true.mp h x hx
  unfold lastingAt at hlasting
  rw [hexec.operation] at hlasting
  obtain ⟨k, n, op⟩ := op
  cases op with
  | update => cases hlasting
  | _ => trivial

theorem walletSpares_of_all {accountId : String} (h : tr.all looksAt = true) :
    WalletSpares accountId tr := by
  intro x hx incoming β op i hexec
  have hlooks := List.all_eq_true.mp h x hx
  unfold looksAt at hlooks
  rw [hexec.operation] at hlooks
  obtain ⟨k, n, op⟩ := op
  cases op with
  | save session revision generation reuseDevice =>
    cases reuseDevice with
    | false => cases hlooks
    | true => trivial
  | _ => trivial

theorem overwrittenRun_end :
    (execTrace (deviceSystem Vectors.browser Vectors.env "alice.testnet").next
      ⟨start ⟨none, .empty, .empty⟩, []⟩ Vectors.overwrittenRun).map (fun r =>
        (r.1.all lastingAt, r.2.shared.history.filterMap Fact.returned,
          (r.2.shared.store.sessions.get "alice.testnet").map DeviceSession.isMarket)) =
      some (true, [("alice.testnet", "ed25519:D2YqLMP3LKCwSYLcZ2LDWAQQmKwL315t9UzjRisuTMaB")],
        some false) := by
  decide +kernel

/-- A wallet that was asked to sign before the device was prepared has its session written over the
key that was returned. -/
theorem device_key_overwritten : ∃ tr c,
    Trace (ExecStep (deviceSystem Vectors.browser Vectors.env "alice.testnet").next)
      ⟨start ⟨none, .empty, .empty⟩, []⟩ tr c ∧ NothingCleared tr ∧
      ¬ DeviceKeyKept "alice.testnet" tr c := by
  obtain ⟨⟨tr, c⟩, hrun, hfacts⟩ := Option.map_eq_some_iff.mp overwrittenRun_end
  obtain ⟨hlasting, hrest⟩ := Prod.mk.inj hfacts
  obtain ⟨hreturned, hstored⟩ := Prod.mk.inj hrest
  refine ⟨tr, c, trace_of_execTrace _ hrun, nothingCleared_of_all hlasting, fun hkept => ?_⟩
  obtain ⟨fact, hfact, hkey⟩ := List.mem_filterMap.mp (by
    rw [hreturned]
    exact List.mem_singleton_self _ : ("alice.testnet",
      "ed25519:D2YqLMP3LKCwSYLcZ2LDWAQQmKwL315t9UzjRisuTMaB") ∈
        c.shared.history.filterMap Fact.returned)
  cases fact with
  | resolved number accountId key =>
    cases hkey
    obtain ⟨session, hget, hmarket, -⟩ := hkept.returned number _ hfact
    rw [hget] at hstored
    exact Bool.false_ne_true ((Option.some.inj hstored).symm.trans hmarket)
  | _ => cases hkey

theorem preparedRun_end :
    (execTrace (deviceSystem Vectors.browser Vectors.env "alice.testnet").next
      ⟨start ⟨none, .empty, .empty⟩, []⟩ Vectors.preparedRun).map (fun r =>
        (r.1.all lastingAt, r.1.all looksAt, r.2.shared.history.filterMap Fact.returned)) =
      some (true, true, [("alice.testnet", "ed25519:D2YqLMP3LKCwSYLcZ2LDWAQQmKwL315t9UzjRisuTMaB")]) := by
  decide +kernel

theorem device_key_kept_alone : ∃ tr c,
    Trace (ExecStep (deviceSystem Vectors.browser Vectors.env "alice.testnet").next)
      ⟨start ⟨none, .empty, .empty⟩, []⟩ tr c ∧
      c.shared.history.filterMap Fact.returned =
        [("alice.testnet", "ed25519:D2YqLMP3LKCwSYLcZ2LDWAQQmKwL315t9UzjRisuTMaB")] ∧
      DeviceKeyKept "alice.testnet" tr c := by
  obtain ⟨⟨tr, c⟩, hrun, hfacts⟩ := Option.map_eq_some_iff.mp preparedRun_end
  obtain ⟨hlasting, hrest⟩ := Prod.mk.inj hfacts
  obtain ⟨hlooks, hreturned⟩ := Prod.mk.inj hrest
  have htrace := trace_of_execTrace _ hrun
  refine ⟨tr, c, htrace, hreturned, device_key_kept htrace ?_ ?_⟩
  · exact nothingCleared_of_all hlasting
  · exact walletSpares_of_all hlooks

end Examples

end Youtick.Web.Sessions
