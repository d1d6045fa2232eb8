import Youtick.AccessControl.Governance

/-!
# Access control: how long an emergency pause lasts

The contract and each scope have a pause switch. Pausing is immediate, and lifting a pause takes a
proposal that is a day old when it is executed. The day runs from the proposal, not from the pause:
a pause lasts a day in every continuation exactly when no proposal to lift it is older than it.
-/

set_option autoImplicit false

namespace Youtick.AccessControl

open Youtick.Lib

/-- The contract's switch and the switch of each scope. -/
inductive PauseSwitch where
  | contract
  | scope (scope : SessionScope)

namespace PauseSwitch

def isOn (g : Governance) : PauseSwitch → Bool
  | .contract => g.paused.getD false
  | .scope sessionScope => decide (sessionScope.asKey ∈ g.pausedScopes)

/-- The action that turns the switch off. -/
def lift : PauseSwitch → TimelockAction
  | .contract => .unpauseContract
  | .scope sessionScope => .unpauseScope sessionScope

variable {env : Env} {g g' : Governance} {call : Call} {switch : PauseSwitch}

/-! ## One step -/

/-- An applied action turns the switch off only if it is the action that lifts it. -/
theorem eq_lift_of_apply {action : TimelockAction} (hon : switch.isOn g = true)
    (hoff : switch.isOn (g.apply action) = false) : action = switch.lift := by
  cases switch with
  | contract => cases action <;> simp_all [isOn, Governance.apply, lift]
  | scope sessionScope =>
    cases sessionScope
    cases action with
    | unpauseScope other =>
      cases other
      rfl
    | _ => simp_all [isOn, Governance.apply]

theorem isOn_apply_lift : switch.isOn (g.apply switch.lift) = false := by
  cases switch with
  | contract => rfl
  | scope sessionScope => simp [isOn, Governance.apply, lift]

/-- Applying an action leaves the queue alone. -/
theorem apply_timelocks (action : TimelockAction) : (g.apply action).timelocks = g.timelocks := by
  cases action <;> rfl

/-- A switch is turned off by executing a due proposal to lift it. -/
theorem lifted_by_execute (h : GovernanceStep env g call g') (hon : switch.isOn g = true)
    (hoff : switch.isOn g' = false) : ∃ id proposal, call = .executeAction id ∧
      g.timelocks.get id = some proposal ∧ proposal.action = switch.lift ∧
      env.blockTimestamp - proposal.proposedAt ≥ timelockDelayNs env.toHost := by
  cases h with
  | @execute id proposal hget hdue hguardian =>
    exact ⟨id, proposal, rfl, hget, eq_lift_of_apply
      (g := { g with timelocks := g.timelocks.remove id }) (by cases switch <;> exact hon) hoff,
      hdue⟩
  | @pauseScope sessionScope =>
    cases switch with
    | contract => exact absurd (hon.symm.trans hoff) (by simp)
    | scope _ =>
      have hkept := Finset.mem_insert_of_mem (b := sessionScope.asKey) (of_decide_eq_true hon)
      exact absurd hkept (of_decide_eq_false hoff)
  | pauseContract =>
    cases switch with
    | contract => exact absurd hoff (by simp [isOn])
    | scope _ => exact absurd (hon.symm.trans hoff) (by simp)
  | same | acceptOwnership | propose | cancel =>
    exact absurd (hon.symm.trans hoff) (by simp)

/-- A queued proposal was queued before, or is proposed by this call. -/
theorem queued_before (h : GovernanceStep env g call g') {id : Nat} {proposal : TimelockProposal}
    (hget : g'.timelocks.get id = some proposal) :
    g.timelocks.get id = some proposal ∨ proposal.proposedAt = env.blockTimestamp := by
  have hremove : ∀ removed, (g.timelocks.remove removed).get id = some proposal →
      g.timelocks.get id = some proposal := by
    intro removed hget
    rw [LookupMap.get_remove] at hget
    split at hget
    · cases hget
    · exact hget
  cases h with
  | propose =>
    rw [LookupMap.get_insert] at hget
    split at hget
    · obtain rfl := Option.some.inj hget
      exact Or.inr rfl
    · exact Or.inl hget
  | execute =>
    rw [apply_timelocks] at hget
    exact Or.inl (hremove _ hget)
  | cancel => exact Or.inl (hremove _ hget)
  | same | pauseScope | pauseContract | acceptOwnership => exact Or.inl hget

/-- Turning a switch on leaves the proposals to lift it queued. -/
theorem queued_after (h : GovernanceStep env g call g') (hoff : switch.isOn g = false)
    (hon : switch.isOn g' = true) {id : Nat} {proposal : TimelockProposal}
    (hget : g.timelocks.get id = some proposal) (hlift : proposal.action = switch.lift) :
    g'.timelocks.get id = some proposal := by
  cases h with
  | @execute executed applied happlied hdue hguardian =>
    rw [apply_timelocks, LookupMap.get_remove]
    split
    · next heq =>
        -- the executed proposal would turn the switch off
        subst heq
        obtain rfl := Option.some.inj (hget.symm.trans happlied)
        rw [hlift, isOn_apply_lift] at hon
        cases hon
    · exact hget
  | propose | cancel => exact absurd (hoff.symm.trans hon) (by simp)
  | same | pauseScope | pauseContract | acceptOwnership => exact hget

end PauseSwitch

/-! ## Runs -/

def World.isOn (w : World) (switch : PauseSwitch) : Bool := switch.isOn w.contract.governance

section Runs

variable {host : Host} {switch : PauseSwitch}

/-- The switch stays on in every state of the run that is reached before the day is over. -/
def StaysOn (switch : PauseSwitch) (pausedAt : Nat)
    (tr : List (Transition World (Context × Call))) : Prop :=
  ∀ y ∈ tr, y.label.1.blockTimestamp < pausedAt + timelockDelay → y.post.isOn switch = true

/-- The switch is on or the day is over, and no queued proposal lifts it sooner. -/
structure Held (switch : PauseSwitch) (pausedAt : Nat) (w : World) : Prop where
  on : w.now < pausedAt + timelockDelay → w.isOn switch = true
  arrived : pausedAt ≤ w.now
  queued : ∀ id proposal, w.contract.timelocks.get id = some proposal →
    proposal.action = switch.lift → pausedAt ≤ proposal.proposedAt

theorem Held.step {pausedAt : Nat} {w w' : World} {label : Context × Call}
    (hmainnet : timelockDelayNs host = timelockDelay) (h : Held switch pausedAt w)
    (hst : worldStep host w label w') : Held switch pausedAt w' := by
  obtain ⟨htime, hnow, hrun⟩ := worldStep_cases hst
  refine ⟨fun hday => ?_, h.arrived.trans htime, fun id proposal hget hlift => ?_⟩
  · have hon := h.on (lt_of_le_of_lt htime hday)
    rcases hrun with hsame | hrun
    · rw [World.isOn, hsame]
      exact hon
    · by_contra hoff
      obtain ⟨id, proposal, -, hget, hlift, hdue⟩ := PauseSwitch.lifted_by_execute
        (governanceStep_of_run hrun) hon (Bool.not_eq_true _ ▸ hoff)
      have hproposed := h.queued id proposal hget hlift
      have hdelay : label.1.blockTimestamp - proposal.proposedAt ≥ timelockDelay := hmainnet ▸ hdue
      have hpositive : 0 < timelockDelay := by decide
      omega
  · rcases hrun with hsame | hrun
    · exact h.queued id proposal (hsame ▸ hget) hlift
    · rcases PauseSwitch.queued_before (governanceStep_of_run hrun) hget with hold | hnew
      · exact h.queued id proposal hold hlift
      · rw [hnew]
        exact hnow ▸ h.arrived.trans htime

/-- The owner executes a queued proposal that lifts the pause. -/
theorem execute_lifts (host : Host) (now : Nat) {s : AccessControlContract} {id : Nat}
    {proposal : TimelockProposal}
    (hget : s.timelocks.get id = some proposal) (hlift : proposal.action = switch.lift)
    (hdue : now - proposal.proposedAt ≥ timelockDelayNs host) :
    ∃ s', Call.run ⟨host, ⟨s.ownerId, now, 0⟩⟩ s (.executeAction id) = .ok s' ∧
      switch.isOn s'.governance = false := by
  have hrun : ∃ s', applyAction { s with timelocks := s.timelocks.remove id } proposal.action =
      .ok s' := by
    rw [hlift]
    cases switch <;> exact ⟨_, rfl⟩
  obtain ⟨s', happly⟩ := hrun
  refine ⟨s', ?_, ?_⟩
  · simp only [Call.run, callBody, executeAction, assertOwner, bind_eq_ok, require_eq_ok,
      expect_eq_ok]
    exact ⟨⟨⟩, trivial, ⟨⟩, trivial, proposal, hget, ⟨⟩, hdue, happly⟩
  · rw [(applyAction_governance happly).1, hlift]
    exact PauseSwitch.isOn_apply_lift

/-- On mainnet a step pauses the contract, or a scope. The pause lasts 24 hours in every continuation
of the run exactly when no queued proposal to lift it was made before the step. -/
theorem pause_lasts {w₀ w : World} {tr : List (Transition World (Context × Call))}
    {x : Transition World (Context × Call)} (hmainnet : timelockDelayNs host = timelockDelay)
    (htr : Trace (worldStep host) w₀ (tr ++ [x]) w) (hoff : x.pre.isOn switch = false)
    (hon : x.post.isOn switch = true) :
    (∀ b w', Trace (worldStep host) w b w' → StaysOn switch x.label.1.blockTimestamp b) ↔
      ∀ id proposal, x.pre.contract.timelocks.get id = some proposal →
        proposal.action = switch.lift → x.label.1.blockTimestamp ≤ proposal.proposedAt := by
  obtain ⟨hx, -, hst⟩ := htr.at_last
  have hpost : x.post = w := congrArg Transition.post hx
  rw [hpost] at hon
  obtain ⟨htime, hnow, hrun⟩ := worldStep_cases hst
  obtain hsame | hrun := hrun
  · rw [World.isOn, hsame] at hon
    exact absurd (hoff.symm.trans hon) (by simp)
  have hgovernance := governanceStep_of_run hrun
  constructor
  · intro hstays id proposal hget hlift
    by_contra hearly
    rw [not_le] at hearly
    have hpositive : 0 < timelockDelay := by decide
    -- the older proposal is executed as soon as it is due
    have hqueued := PauseSwitch.queued_after hgovernance hoff hon hget hlift
    obtain ⟨s', hexecute, hlifted⟩ := execute_lifts host
      (max w.now (proposal.proposedAt + timelockDelay)) hqueued hlift
      (by rw [hmainnet]; omega)
    have hlate : worldStep host w
        (⟨w.contract.ownerId, max w.now (proposal.proposedAt + timelockDelay), 0⟩,
          .executeAction id)
        ⟨s', max w.now (proposal.proposedAt + timelockDelay)⟩ :=
      worldStep_of_run (le_max_left _ _) hexecute
    have hkept := hstays _ _ (.snoc .nil hlate) _ (List.mem_singleton_self _)
      (by show max w.now (proposal.proposedAt + timelockDelay) < _; omega)
    exact absurd (hkept.symm.trans hlifted) (by simp)
  · intro hqueue b w' hb
    have hheld : Held switch x.label.1.blockTimestamp w := by
      refine ⟨fun _ => hon, hnow.ge, fun id proposal hget hlift => ?_⟩
      rcases PauseSwitch.queued_before hgovernance hget with hold | hnew
      · exact hqueue id proposal hold hlift
      · exact hnew.ge
    intro y hy hday
    have hy' := hb.invariant_mem (fun _ _ _ h hst => h.step hmainnet hst) hheld hy
    have hstep := worldStep_cases (hb.step_of_mem hy)
    exact hy'.2.on (hstep.2.1 ▸ hday)

/-- The owner queues an unpause; a day later the guardian pauses, and the owner lifts the pause. -/
def Vectors.queuedUnpause : List (Context × Call) :=
  [(context ownerId start, .proposeAction .unpauseContract),
   (context guardianId (start + timelockDelay), .pauseContract),
   (context ownerId (start + timelockDelay + 1), .executeAction 0)]

theorem pause_lifted_early :
    ¬ ∀ (host : Host) (switch : PauseSwitch) (w₀ w : World)
      (tr b : List (Transition World (Context × Call))) (x : Transition World (Context × Call)),
      timelockDelayNs host = timelockDelay → Initial w₀ →
      Trace (worldStep host) w₀ (tr ++ x :: b) w → x.pre.isOn switch = false →
      x.post.isOn switch = true → StaysOn switch x.label.1.blockTimestamp b := by
  intro hclaim
  have hrun : (Vectors.run Vectors.queuedUnpause).map (fun r => r.1.map fun x =>
      (x.pre.isOn .contract, x.post.isOn .contract, x.label.1.blockTimestamp)) =
      some [(false, false, Vectors.start),
        (false, true, Vectors.start + timelockDelay),
        (true, false, Vectors.start + timelockDelay + 1)] := by decide +kernel
  obtain ⟨w₀, tr, w, hinit, htr, hmap⟩ := Vectors.trace_of_run hrun
  obtain ⟨x, tr, rfl, -, hmap⟩ := List.map_eq_cons_iff.mp hmap
  obtain ⟨y, tr, rfl, hy, hmap⟩ := List.map_eq_cons_iff.mp hmap
  obtain ⟨z, tr, rfl, hz, -⟩ := List.map_eq_cons_iff.mp hmap
  simp only [Prod.mk.injEq] at hy hz
  have hstays := hclaim Vectors.host .contract w₀ w [x] _ y (by decide) hinit htr hy.1 hy.2.1 z
    (List.mem_cons_self ..) (by rw [hy.2.2, hz.2.2]; decide)
  exact absurd (hstays.symm.trans hz.2.1) (by simp)

/-- The guardian pauses with no proposal queued: the pause lasts. -/
theorem pause_lasts_unqueued : ∃ w₀ x w, Initial w₀ ∧
    Trace (worldStep Vectors.host) w₀ ([] ++ [x]) w ∧ x.post.isOn .contract = true ∧
    ∀ b w', Trace (worldStep Vectors.host) w b w' →
      StaysOn .contract x.label.1.blockTimestamp b := by
  have hrun : (Vectors.run [(Vectors.context Vectors.guardianId Vectors.start,
      .pauseContract)]).map (fun r => r.1.map fun x =>
      (x.pre.isOn .contract, x.post.isOn .contract, (x.pre.contract.timelocks.keys : Finset Nat))) =
      some [(false, true, ∅)] := by decide +kernel
  obtain ⟨w₀, tr, w, hinit, htr, hmap⟩ := Vectors.trace_of_run hrun
  obtain ⟨x, tr, rfl, hx, hnil⟩ := List.map_eq_cons_iff.mp hmap
  obtain rfl := List.map_eq_nil_iff.mp hnil
  simp only [Prod.mk.injEq] at hx
  obtain ⟨hoff, hon, hempty⟩ := hx
  have hfirst : Trace (worldStep Vectors.host) w₀ ([] ++ [x]) w := htr
  refine ⟨w₀, x, w, hinit, hfirst, hon,
    (pause_lasts (by decide) hfirst hoff hon).mpr fun id proposal hget _ => ?_⟩
  have hmem := LookupMap.mem_keys.mpr ⟨proposal, hget⟩
  rw [hempty] at hmem
  exact absurd hmem (Finset.notMem_empty id)

end Runs

end Youtick.AccessControl
