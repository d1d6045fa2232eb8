import Youtick.MarketV2.Liabilities
import Youtick.MarketV2.TicketLogs

/-!
# Market V2: the log of a run

`ranCall` is the call of a transition that did not panic, with its environment and its outcome, and
`loggedBy` the events it logged. `World.ran_cases` reads a step that way, and `Shown.Later` is what
no step takes back of the things the events speak of.
-/

set_option autoImplicit false

namespace Youtick.MarketV2

open Youtick.Lib

/-! ## The calls of a run -/

/-- The call a label delivers, and its context. -/
def World.delivery (host : Host) (w : World) : Label → Option (Context × Call)
  | .call ctx c => some (ctx, c)
  | .land _ _ => none
  | .callback ctx i =>
    match w.pending[i]? with
    | some ⟨promise, some ok⟩ =>
      promise.callback.map fun callback =>
        (ctx.own host [promiseResult ok], .callback callback)
    | _ => none
  | .batch ctx i =>
    match w.pending[i]? with
    | some ⟨.deployContract _ _, none⟩ => some (ctx.own host [], .migrate)
    | _ => none

/-- A call that ran. -/
structure RanCall where
  env : Env
  call : Call
  outcome : Outcome Unit

/-- The call of a transition, unless it panicked. -/
def ranCall (host : Host) (x : Transition World Label) : Option RanCall :=
  match x.pre.delivery host x.label with
  | none => none
  | some (ctx, c) =>
    match c.run ⟨host, ctx⟩ x.pre.contract with
    | .ok o => some ⟨⟨host, ctx⟩, c, o⟩
    | .error _ => none

/-- The events a transition logged. -/
def loggedBy (host : Host) (x : Transition World Label) : List Event :=
  match ranCall host x with
  | some r => r.outcome.events
  | none => []

/-- The events of a run on the 1.0.0 envelope, in emission order. -/
def marketEvents (host : Host) (tr : List (Transition World Label)) : List Event :=
  (tr.flatMap (loggedBy host)).filter Event.isMarket

/-- What the call of a transition announced, of the facts that can be announced again. -/
def announcement (host : Host) (x : Transition World Label) : Option Occasion :=
  (ranCall host x).bind fun r => r.call.announces r.env x.pre.contract

variable {host : Host} {w w' : World} {l : Label}

theorem Delivery.delivery_eq {ctx : Context} {c : Call} {rest : Outbox Promise}
    (h : Delivery host w l ctx c rest) : w.delivery host l = some (ctx, c) := by
  cases h with
  | external => rfl
  | callback hget hcallback => simp only [World.delivery, hget, hcallback, Option.map_some]
  | batch hget => simp only [World.delivery, hget]

/-- A step either ran a call, or logged nothing and left the storage alone. -/
inductive RanStep (host : Host) (w : World) (l : Label) (w' : World) : Prop where
  | ran {ctx : Context} {c : Call} {rest : Outbox Promise} {o : Outcome Unit}
      (hdelivery : Delivery host w l ctx c rest)
      (hcall : ranCall host ⟨w, l, w'⟩ = some ⟨⟨host, ctx⟩, c, o⟩)
      (hrun : c.run ⟨host, ctx⟩ w.contract = .ok o)
      (hpost : w' = ⟨o.state, rest.send o.promises, ctx.blockTimestampMs⟩)
  | quiet (hcall : ranCall host ⟨w, l, w'⟩ = none) (hcontract : w'.contract = w.contract)
      (hitems : w'.pending.items.Sublist w.pending.items)

theorem World.ran_cases (h : worldStep host w l w') : RanStep host w l w' := by
  cases World.step_cases h with
  | ran hdelivery _ hrun =>
    refine .ran hdelivery ?_ hrun rfl
    simp only [ranCall, hdelivery.delivery_eq, hrun]
  | panicked hdelivery _ hrun =>
    refine .quiet ?_ rfl hdelivery.items_sublist
    simp only [ranCall, hdelivery.delivery_eq, hrun]
  | landed hget _ =>
    refine .quiet rfl rfl ?_
    show (Outbox.land _ _ _ _).items.Sublist _
    rw [Outbox.items_land hget]
  | dropped hget _ _ =>
    refine .quiet rfl rfl ?_
    exact (List.eraseIdx_sublist _ _).map _

theorem ranCall_cases {x : Transition World Label} {r : RanCall}
    (h : worldStep host x.pre x.label x.post) (hcall : ranCall host x = some r) :
    ∃ rest, Delivery host x.pre x.label r.env.toContext r.call rest ∧ r.env.toHost = host ∧
      r.call.run r.env x.pre.contract = .ok r.outcome ∧
      x.post = ⟨r.outcome.state, rest.send r.outcome.promises, r.env.blockTimestampMs⟩ := by
  cases World.ran_cases h with
  | ran hdelivery hcall' hrun hpost =>
    obtain rfl := Option.some.inj (hcall'.symm.trans hcall)
    exact ⟨_, hdelivery, rfl, hrun, hpost⟩
  | quiet hcall' => cases hcall'.symm.trans hcall

/-! ## What stays -/

/-- What a run keeps: a stored job stays stored, a stored publication stays stored and does not
become active again, and the quote key version does not fall. -/
structure Shown.Later (s t : Shown) : Prop where
  mediaJobs : ∀ jobId, s.mediaJobs.get jobId ≠ none → t.mediaJobs.get jobId ≠ none
  publications : ∀ publicationId publication, s.publications.get publicationId = some publication →
    ∃ publication', t.publications.get publicationId = some publication' ∧
      (publication.availability ≠ .active → publication'.availability ≠ .active)
  quoteKeyVersion : s.quoteKeyVersion ≤ t.quoteKeyVersion

namespace Shown.Later

variable {s t u : Shown}

theorem refl (s : Shown) : s.Later s where
  mediaJobs := fun _ h => h
  publications := fun _ publication h => ⟨publication, h, id⟩
  quoteKeyVersion := Nat.le_refl _

theorem trans (h : s.Later t) (h' : t.Later u) : s.Later u where
  mediaJobs := fun jobId hget => h'.mediaJobs jobId (h.mediaJobs jobId hget)
  publications := by
    intro publicationId publication hget
    obtain ⟨publication', hget', himp⟩ := h.publications publicationId publication hget
    obtain ⟨publication'', hget'', himp'⟩ := h'.publications publicationId publication' hget'
    exact ⟨publication'', hget'', himp' ∘ himp⟩
  quoteKeyVersion := Nat.le_trans h.quoteKeyVersion h'.quoteKeyVersion

/-- Writing a job keeps every job. -/
theorem insertJob (s : Shown) (jobId : String) (job : MediaJob) :
    s.Later { s with mediaJobs := s.mediaJobs.insert jobId job } where
  mediaJobs := by
    intro jobId' hget
    rw [LookupMap.get_insert]
    split
    · simp
    · exact hget
  publications := fun _ publication h => ⟨publication, h, id⟩
  quoteKeyVersion := Nat.le_refl _

/-- Writing a publication that is fresh, or is not active afterwards, keeps every publication. -/
theorem insertPublication (s : Shown) (publicationId : String) (publication : Publication)
    (h : s.publications.get publicationId = none ∨ publication.availability ≠ .active) :
    s.Later { s with publications := s.publications.insert publicationId publication } where
  mediaJobs := fun _ h => h
  publications := by
    intro publicationId' publication' hget
    by_cases heq : publicationId' = publicationId
    · subst heq
      refine ⟨publication, by simp, fun _ => ?_⟩
      rcases h with h | h
      · rw [h] at hget
        cases hget
      · exact h
    · refine ⟨publication', ?_, id⟩
      rw [LookupMap.get_insert_of_ne _ _ heq]
      exact hget
  quoteKeyVersion := Nat.le_refl _

end Shown.Later

theorem Logs.later {env : Env} {s : Contract} {c : Call} {after : Shown} {ps : List Promise}
    {es : List Event} (h : Logs env s c after ps es) : s.shown.Later after := by
  cases h with
  | jobAuthorized | uploadKeyReplaced | restarted => exact .insertJob _ _ _
  | @quoteKeyRotated version _ hversion =>
    refine ⟨fun _ h => h, fun _ publication h => ⟨publication, h, id⟩, ?_⟩
    show s.quoteKeyVersion ≤ version
    omega
  | finalized hfresh _ =>
    exact (Shown.Later.insertJob s.shown _ _).trans (.insertPublication _ _ _ (.inl hfresh))
  | suspended _ _ hsuspended =>
    refine .insertPublication _ _ _ (.inr ?_)
    rw [hsuspended]
    simp
  | takenDown _ _ htakenDown =>
    refine .insertPublication _ _ _ (.inr ?_)
    rw [htakenDown]
    simp
  | _ => exact ⟨fun _ h => h, fun _ publication h => ⟨publication, h, id⟩, Nat.le_refl _⟩

end Youtick.MarketV2
