import Youtick.MarketV2.Runs

/-!
# Market V2: code upgrades

`execute_code_upgrade` compares the code with the pending record, and the batch it schedules consumes
whatever record is pending when it runs. A record cannot be edited, but it can be consumed by another
batch or cancelled, and replaced by a new proposal. So the code a batch deploys is the code of the
record it consumes exactly when that record was not replaced in between (`reviewed_iff_not_replaced`).
-/

set_option autoImplicit false

namespace Youtick.MarketV2

open Youtick.Lib

/-! ## One call -/

section Call

variable {env : Env} {s : Contract} {c : Call} {ps : List Promise} {controls : Controls}

/-- The event `migrate` emits for the record it consumes. -/
def codeUpgraded (env : Env) (s : Contract) (pending : PendingCodeUpgrade) : Event :=
  emitMarketEvent env "code_upgraded" ("governance:code_upgraded:" ++ pending.codeSha256)
    [("code_sha256", .str pending.codeSha256), ("state_version", .num s.stateVersion)]

theorem migrate_ok {o : Outcome Unit} (h : Call.run env s .migrate = .ok o) :
    ∃ pending, s.codeUpgrade = some pending ∧ o.state.codeUpgrade = none ∧
      o.events = [codeUpgraded env s pending] := by
  obtain ⟨_, -, h⟩ := bind_eq_ok.mp h
  obtain ⟨_, -, h⟩ := bind_eq_ok.mp h
  obtain ⟨_, -, h⟩ := bind_eq_ok.mp h
  obtain ⟨pending, hpending, h⟩ := bind_eq_ok.mp h
  cases pure_eq_ok.mp h
  exact ⟨pending, expect_eq_ok.mp hpending, rfl, rfl⟩

theorem migrate_runs {pending : PendingCodeUpgrade} (hpending : s.codeUpgrade = some pending)
    (hversion : s.stateVersion = marketStateVersion)
    (hown : env.predecessorAccountId = env.currentAccountId) (hdeposit : env.attachedDeposit = 0) :
    ∃ o, Call.run env s .migrate = .ok o :=
  ⟨_, bind_eq_ok.mpr ⟨⟨⟩, require_eq_ok.mpr (.inr hdeposit), bind_eq_ok.mpr
    ⟨⟨⟩, assertPrivate_ok.mpr hown, bind_eq_ok.mpr ⟨⟨⟩, require_eq_ok.mpr hversion,
      bind_eq_ok.mpr ⟨pending, expect_eq_ok.mpr hpending, rfl⟩⟩⟩⟩⟩

/-- A batch is scheduled by a call that compared its code with the record. -/
theorem ControlsStep.deploy_sent (h : ControlsStep env s c ps controls) {code : Bytes}
    {checked : PendingCodeUpgrade} (hp : .deployContract code checked ∈ ps) :
    hexSha256 env.toHost code = checked.codeSha256 ∧
      checked.executableAtMs ≤ env.blockTimestampMs := by
  cases h with
  | same hps => cases hps _ hp
  | executeUpgrade hpending hdue hhash =>
    obtain ⟨rfl, rfl⟩ := Promise.deployContract.inj (List.mem_singleton.mp hp)
    exact ⟨hhash, hdue⟩
  | freeze | requestUnfreeze | cancelUnfreeze | clearUnfreeze | unfreeze | pause | requestUnpause
  | cancelUnpause | clearUnpause | unpause | proposeUpgrade | cancelUpgrade | migrate => cases hp

/-- The delay of a proposal's timelock. -/
theorem upgradeDelay_ok {executableAtMs : Nat}
    (h : (do
      let delay ← governanceDelayMs env mainnetCodeUpgradeDelayMs
      checkedAdd 64 env.blockTimestampMs delay "Code upgrade delay overflow") =
        .ok executableAtMs) :
    (env.toHost.IsMainnet →
      executableAtMs = env.blockTimestampMs + mainnetCodeUpgradeDelayMs) ∧
    (¬ env.toHost.IsMainnet → executableAtMs = env.blockTimestampMs) := by
  obtain ⟨delay, hdelay, hadd⟩ := bind_eq_ok.mp h
  obtain ⟨-, rfl⟩ := checkedAdd_eq_ok.mp hadd
  refine ⟨fun hmainnet => ?_, fun hmainnet => ?_⟩
  · rw [governanceDelayMs_mainnet hmainnet] at hdelay
    rw [← ok_eq_ok.mp hdelay]
  · rw [governanceDelayMs_of_not_mainnet hmainnet hdelay, Nat.add_zero]

/-- What a call does to the pending record: nothing, removing it, or writing the admin's proposal
where there was none. -/
theorem ControlsStep.record_cases (h : ControlsStep env s c ps controls) :
    controls.codeUpgrade = s.codeUpgrade ∨ controls.codeUpgrade = none ∨
      ∃ pending, controls.codeUpgrade = some pending ∧
        c = .proposeCodeUpgrade pending.codeSha256 ∧ s.codeUpgrade = none ∧
        env.predecessorAccountId = s.adminAccountId ∧
        pending.proposedAtMs = env.blockTimestampMs ∧
        (env.toHost.IsMainnet →
          pending.executableAtMs = pending.proposedAtMs + mainnetCodeUpgradeDelayMs) ∧
        (¬ env.toHost.IsMainnet → pending.executableAtMs = pending.proposedAtMs) := by
  cases h with
  | proposeUpgrade pending hadmin hnone hat hdue =>
    obtain ⟨hmainnet, hother⟩ := upgradeDelay_ok hdue
    exact .inr (.inr ⟨pending, rfl, rfl, hnone, hadmin, hat, hat ▸ hmainnet, hat ▸ hother⟩)
  | cancelUpgrade => exact .inr (.inl rfl)
  | migrate => exact .inr (.inl rfl)
  | same | freeze | requestUnfreeze | cancelUnfreeze | clearUnfreeze | unfreeze | pause
  | requestUnpause | cancelUnpause | clearUnpause | unpause | executeUpgrade => exact .inl rfl

theorem ControlsStep.stateVersion (h : ControlsStep env s c ps controls) :
    controls.stateVersion = s.stateVersion := by
  cases h <;> rfl

end Call

/-! ## One step of the world -/

section World

variable {host : Host} {w w' : World} {l : Label}

/-- The record was written by the admin's proposal, in the transition `y`. -/
def ProposedBy (pending : PendingCodeUpgrade) (y : Transition World Label) : Prop :=
  ∃ ctx, y.label = .call ctx (.proposeCodeUpgrade pending.codeSha256) ∧
    ctx.predecessorAccountId = y.pre.contract.adminAccountId ∧
    ctx.blockTimestampMs = pending.proposedAtMs

/-- What holds of the record and of the batches that are out. -/
structure UpgradeSound (host : Host) (w : World) : Prop where
  version : w.contract.stateVersion = marketStateVersion
  record : ∀ pending, w.contract.codeUpgrade = some pending →
    pending.proposedAtMs ≤ w.now ∧
    (host.IsMainnet →
      pending.executableAtMs = pending.proposedAtMs + mainnetCodeUpgradeDelayMs) ∧
    (¬ host.IsMainnet → pending.executableAtMs = pending.proposedAtMs)
  batches : ∀ code checked, .deployContract code checked ∈ w.pending.items →
    hexSha256 host code = checked.codeSha256 ∧ checked.executableAtMs ≤ w.now

theorem Initial.upgradeSound (h : Initial host w) : UpgradeSound host w where
  version := h.fresh.1.stateVersion
  record := by simp [h.fresh.1.codeUpgrade]
  batches := by simp [h.fresh.2, Outbox.items]

theorem UpgradeSound.step (hs : UpgradeSound host w) (h : worldStep host w l w') :
    UpgradeSound host w' := by
  have hnow := World.step_now h
  have hbatches : ∀ code checked, .deployContract code checked ∈ w'.pending.items →
      hexSha256 host code = checked.codeSha256 ∧ checked.executableAtMs ≤ w'.now := by
    intro code checked hmem
    have hold : .deployContract code checked ∈ w.pending.items →
        hexSha256 host code = checked.codeSha256 ∧ checked.executableAtMs ≤ w'.now := fun hin =>
      ⟨(hs.batches code checked hin).1, (hs.batches code checked hin).2.trans hnow⟩
    obtain ⟨x, hx, hitem⟩ := List.mem_map.mp hmem
    rcases World.flight_cases h hx with
      hx | ⟨i, ok, -, hget, -⟩ | ⟨ctx, c, rest, o, -, -, hrun, -, htime, hsent, -⟩
    · exact hold (hitem ▸ List.mem_map_of_mem hx)
    · have hmem := Outbox.item_mem hget
      exact hold (hitem ▸ hmem)
    · obtain ⟨hhash, hdue⟩ := (Call.run_effect hrun).controls.deploy_sent (hitem ▸ hsent)
      exact ⟨hhash, hdue.trans (Nat.le_of_eq htime.symm)⟩
  cases World.step_cases h with
  | @ran _ ctx c rest o _ _ hrun =>
    have hcontrols := (Call.run_effect hrun).controls
    refine ⟨hcontrols.stateVersion.trans hs.version, fun pending hpending => ?_, hbatches⟩
    rcases hcontrols.record_cases with hsame | hnone | ⟨new, hnew, -, -, -, hat, hdue⟩
    · obtain ⟨hbefore, hdue⟩ := hs.record pending (hsame.symm.trans hpending)
      exact ⟨hbefore.trans hnow, hdue⟩
    · cases hnone.symm.trans hpending
    · obtain rfl := Option.some.inj (hnew.symm.trans hpending)
      exact ⟨Nat.le_of_eq hat, hdue⟩
  | panicked _ hlater _ =>
    refine ⟨hs.version, fun pending hpending => ?_, hbatches⟩
    obtain ⟨hbefore, hdue⟩ := hs.record pending hpending
    exact ⟨hbefore.trans hlater, hdue⟩
  | landed => exact ⟨hs.version, hs.record, hbatches⟩
  | dropped => exact ⟨hs.version, hs.record, hbatches⟩

/-- A record that appears was proposed by the step. -/
theorem World.record_proposed (h : worldStep host w l w') {pending : PendingCodeUpgrade}
    (hbefore : w.contract.codeUpgrade ≠ some pending)
    (hafter : w'.contract.codeUpgrade = some pending) :
    ProposedBy pending ⟨w, l, w'⟩ ∧ w.contract.codeUpgrade = none := by
  cases World.step_cases h with
  | @ran _ ctx c rest o hdelivery _ hrun =>
    rcases (Call.run_effect hrun).controls.record_cases with
      hsame | hnone | ⟨new, hnew, rfl, hfree, hadmin, hat, -⟩
    · exact absurd (hsame.symm.trans hafter) hbefore
    · cases hnone.symm.trans hafter
    · obtain rfl := Option.some.inj (hnew.symm.trans hafter)
      cases hdelivery
      exact ⟨⟨ctx, rfl, hadmin, hat.symm⟩, hfree⟩
  | panicked | landed | dropped => exact absurd hafter hbefore

/-! ## Runs -/

/-- A batch that ran `migrate` with success deployed the code of the record `migrate` consumed and
emitted, and on mainnet that record was proposed at least 48 hours before and has stood since. `a` is
the run before the batch. -/
def UpgradeReviewed (host : Host) (a : List (Transition World Label))
    (x : Transition World Label) : Prop :=
  ∀ ctx i code checked o, x.label = .batch ctx i →
    x.pre.pending[i]? = some ⟨.deployContract code checked, none⟩ →
    Call.run ⟨host, ctx.own host []⟩ x.pre.contract .migrate = .ok o →
    ∃ pending, x.pre.contract.codeUpgrade = some pending ∧ o.state.codeUpgrade = none ∧
      o.events = [codeUpgraded ⟨host, ctx.own host []⟩ x.pre.contract pending] ∧
      hexSha256 host code = pending.codeSha256 ∧
      (host.IsMainnet → ∃ a₁ y a₂, a = a₁ ++ y :: a₂ ∧ ProposedBy pending y ∧
        pending.proposedAtMs + mainnetCodeUpgradeDelayMs ≤ ctx.blockTimestampMs ∧
        ∀ z ∈ a₂, z.pre.contract.codeUpgrade = some pending ∧
          z.post.contract.codeUpgrade = some pending)

/-- A batch finds another record than the one its code was compared with, unless that is a proposal
of the same code which is due by itself. -/
def RecordReplaced (x : Transition World Label) : Prop :=
  ∃ ctx i code checked pending, x.label = .batch ctx i ∧
    x.pre.pending[i]? = some ⟨.deployContract code checked, none⟩ ∧
    x.pre.contract.codeUpgrade = some pending ∧ pending ≠ checked ∧
    ¬ (pending.codeSha256 = checked.codeSha256 ∧ pending.executableAtMs ≤ ctx.blockTimestampMs)

theorem batch_now {ctx : Context} {i : Nat} (h : worldStep host w (.batch ctx i) w') :
    w.now ≤ ctx.blockTimestampMs := by
  cases World.step_cases h with
  | ran hdelivery hnow _ =>
    cases hdelivery
    exact hnow
  | panicked hdelivery hnow _ =>
    cases hdelivery
    exact hnow

theorem UpgradeSound.reviewed {w₀ : World} {a : List (Transition World Label)}
    {x : Transition World Label} (h₀ : Initial host w₀) (ha : Trace (worldStep host) w₀ a x.pre)
    (hs : UpgradeSound host x.pre) (hstep : worldStep host x.pre x.label x.post)
    (hkept : ¬ RecordReplaced x) : UpgradeReviewed host a x := by
  intro ctx i code checked o hlabel hget hrun
  obtain ⟨pending, hpending, hconsumed, hevents⟩ := migrate_ok hrun
  have hnow := batch_now (hlabel ▸ hstep)
  obtain ⟨hhash, hdue⟩ := hs.batches code checked (Outbox.item_mem hget)
  have hsame : pending.codeSha256 = checked.codeSha256 ∧
      pending.executableAtMs ≤ ctx.blockTimestampMs := by
    by_contra hother
    refine hkept ⟨ctx, i, code, checked, pending, hlabel, hget, hpending, ?_, hother⟩
    rintro rfl
    exact hother ⟨rfl, hdue.trans hnow⟩
  refine ⟨pending, hpending, hconsumed, hevents, hhash.trans hsame.1.symm, fun hmainnet => ?_⟩
  -- The record was written by the last transition that made it the pending one.
  obtain ⟨a₁, y, a₂, hsplit, hbefore, hafter, hheld⟩ :=
    ha.since (P := fun w => w.contract.codeUpgrade = some pending)
      (by simp [h₀.fresh.1.codeUpgrade]) hpending
  have hproposed := (World.record_proposed (ha.step_of_mem (by simp [hsplit])) hbefore hafter).1
  refine ⟨a₁, y, a₂, hsplit, hproposed, ?_, hheld⟩
  rw [← (hs.record pending hpending).2.1 hmainnet]
  exact hsame.2

theorem UpgradeSound.not_replaced {a : List (Transition World Label)} {x : Transition World Label}
    (hs : UpgradeSound host x.pre) (hstep : worldStep host x.pre x.label x.post)
    (hreviewed : UpgradeReviewed host a x) : ¬ RecordReplaced x := by
  rintro ⟨ctx, i, code, checked, pending, hlabel, hget, hpending, -, hother⟩
  obtain ⟨o, hrun⟩ : ∃ o, Call.run ⟨host, ctx.own host []⟩ x.pre.contract .migrate = .ok o :=
    migrate_runs hpending hs.version rfl rfl
  obtain ⟨found, hfound, -, -, hhash, hmainnet⟩ := hreviewed ctx i code checked o hlabel hget hrun
  obtain rfl := Option.some.inj (hfound.symm.trans hpending)
  obtain ⟨hbefore, hdelay, hnodelay⟩ := hs.record found hpending
  refine hother ⟨hhash.symm.trans (hs.batches code checked (Outbox.item_mem hget)).1, ?_⟩
  by_cases hnet : host.IsMainnet
  · obtain ⟨-, -, -, -, -, hdue, -⟩ := hmainnet hnet
    rwa [hdelay hnet]
  · rw [hnodelay hnet]
    exact hbefore.trans (batch_now (hlabel ▸ hstep))

/-- In a run, every batch that migrates deploys the code of the record it consumes, proposed in time
and standing since, exactly when no batch finds its record replaced. -/
theorem reviewed_iff_not_replaced {w₀ : World} {tr : List (Transition World Label)}
    (h₀ : Initial host w₀) (h : Trace (worldStep host) w₀ tr w) :
    (∀ a x b, tr = a ++ x :: b → UpgradeReviewed host a x) ↔ ∀ x ∈ tr, ¬ RecordReplaced x := by
  have hsound : ∀ x ∈ tr, UpgradeSound host x.pre := fun x hx =>
    (h.invariant_mem (I := UpgradeSound host) (fun _ _ _ hs hst => hs.step hst) h₀.upgradeSound
      hx).1
  constructor
  · intro hreviewed x hx
    obtain ⟨a, b, rfl⟩ := List.append_of_mem hx
    exact (hsound x hx).not_replaced (h.step_of_mem hx) (hreviewed a x b rfl)
  · rintro hkept a x b rfl
    have hx : x ∈ a ++ x :: b := by simp
    exact (hsound x hx).reviewed h₀ h.at_mem.1 (h.step_of_mem hx) (hkept x hx)

end World

section Deployment

open Vectors

/-- Two batches of one reviewed code; the first consumes the record, and another code is proposed
before the second runs. -/
def Vectors.codeSwap : List Label :=
  let due := issuedAtMs + mainnetCodeUpgradeDelayMs
  let propose (now : Nat) (code : String) : Label :=
    .call (context config.adminAccountId now)
      (.proposeCodeUpgrade (hexSha256 mainnetHost (utf8 code)))
  let execute : Label := .call { context buyerId due with input := some (utf8 "A") } .executeCodeUpgrade
  [propose issuedAtMs "A", execute, execute, .batch (context buyerId due) 0, propose due "B"]

/-- The record of the code "A", due 48 hours after its proposal. -/
def Vectors.reviewedA : PendingCodeUpgrade :=
  ⟨hexSha256 mainnetHost (utf8 "A"), issuedAtMs, issuedAtMs + mainnetCodeUpgradeDelayMs⟩

/-- The record of the code "B", proposed when the first was due. -/
def Vectors.proposedB : PendingCodeUpgrade :=
  ⟨hexSha256 mainnetHost (utf8 "B"), issuedAtMs + mainnetCodeUpgradeDelayMs,
    issuedAtMs + mainnetCodeUpgradeDelayMs + mainnetCodeUpgradeDelayMs⟩

theorem upgrade_unreviewed :
    ¬ ∀ (host : Host) (w₀ w : World) (tr : List (Transition World Label)), Initial host w₀ →
      Trace (worldStep host) w₀ tr w → ∀ a x b, tr = a ++ x :: b → UpgradeReviewed host a x := by
  intro hclaim
  have hrun : (worldRun mainnetHost codeSwap).map (fun r =>
      (r.2.pending[0]?, r.2.contract.codeUpgrade, r.2.now)) =
      some (some ⟨.deployContract (utf8 "A") reviewedA, none⟩, some proposedB,
        reviewedA.executableAtMs) := by decide +kernel
  obtain ⟨w₀, tr, w, h₀, h, hw⟩ := trace_of_worldRun hrun
  obtain ⟨hget, hpending, hnow⟩ := Prod.mk.inj hw |>.imp_right Prod.mk.inj
  have hstep : worldStep mainnetHost w (.batch (context buyerId reviewedA.executableAtMs) 0)
      (w.receive mainnetHost ((context buyerId reviewedA.executableAtMs).own mainnetHost [])
        .migrate (w.pending.eraseIdx 0)) := by
    rw [worldStep, ExecStep, World.exec, hget]
    exact if_pos (Nat.le_of_eq hnow)
  have hsound : UpgradeSound mainnetHost w :=
    h.invariant (fun _ _ _ hs hst => hs.step hst) h₀.upgradeSound
  refine hsound.not_replaced hstep (hclaim _ _ _ _ h₀ (.snoc h hstep) tr _ [] rfl) ?_
  refine ⟨_, 0, utf8 "A", reviewedA, proposedB, rfl, hget, hpending, by decide +kernel, ?_⟩
  rintro ⟨-, hdue⟩
  exact absurd hdue (by decide)

theorem reviewed_upgrade :
    ∃ w₀ tr w, Initial mainnetHost w₀ ∧ Trace (worldStep mainnetHost) w₀ tr w ∧
      w.contract.codeUpgrade = some proposedB ∧
      ((∀ a x b, tr = a ++ x :: b → UpgradeReviewed mainnetHost a x) ↔
        ∀ x ∈ tr, ¬ RecordReplaced x) := by
  have hrun : (worldRun mainnetHost codeSwap).map (·.2.contract.codeUpgrade) =
      some (some proposedB) := by decide +kernel
  obtain ⟨w₀, tr, w, h₀, h, hw⟩ := trace_of_worldRun hrun
  exact ⟨w₀, tr, w, h₀, h, hw, reviewed_iff_not_replaced h₀ h⟩

end Deployment

end Youtick.MarketV2
