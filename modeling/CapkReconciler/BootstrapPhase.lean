import CapkReconciler.OwnedConditions

/-!
# The phases of `BootstrapExecSucceeded`

`BootstrapExecSucceeded` reports the bootstrap of the VM in four phases, in
this order: the machine has none; it is `False` with reason `Bootstrapping`,
set when the condition is missing once the VM booted (lines 247–252); it is
`False` with reason `BootstrapFailed` while the probe of lines 255–260 fails;
it is true once the machine bootstrapped (line 266). The controller moves it
only forward along this order, staying or skipping phases, never back: the
`Bootstrapping` patch is sent only while the condition is missing, the failed
probe is made only while `Spec.Bootstrapped` is false, and nothing removes a
condition. The condition is true exactly when `Spec.Bootstrapped` is, which
is what keeps a true condition from falling back to `BootstrapFailed`.

- `bootstrapPhase`: the phase a list of conditions reports, placed in the
  order by `BootstrapPhase.rank`.
- `PhaseInv m`: `BootstrapExecSucceeded` is true exactly when `Spec.Bootstrapped`
  is.
- `Advances m m'`: from a machine that keeps `PhaseInv`, `m'` keeps it and
  its phase is not behind. Each stage gets one lemma (`*_advances`), then the
  call, the step and the run.
- `run_bootstrapPhase`: over every run from a machine that keeps `PhaseInv`
  (a fresh one does), every stored state keeps it and is not behind, and so
  is every patch of the next call.
-/

namespace CapkReconciler

open Conditions

/-- The phases `BootstrapExecSucceeded` reports. -/
inductive BootstrapPhase where
  /-- The machine has no `BootstrapExecSucceeded`. -/
  | absent
  /-- `False` with reason `Bootstrapping`. -/
  | bootstrapping
  /-- `False` with another reason, as `BootstrapFailed`. -/
  | failed
  /-- True. -/
  | succeeded
  deriving DecidableEq, Repr

/-- The place of a phase in the order the controller moves through them. -/
def BootstrapPhase.rank : BootstrapPhase → Nat
  | .absent => 0
  | .bootstrapping => 1
  | .failed => 2
  | .succeeded => 3

theorem BootstrapPhase.rank_le_succeeded (p : BootstrapPhase) : p.rank ≤ BootstrapPhase.succeeded.rank := by
  cases p <;> decide

theorem BootstrapPhase.rank_le_failed {p : BootstrapPhase} (h : p ≠ .succeeded) :
    p.rank ≤ BootstrapPhase.failed.rank := by
  cases p with
  | succeeded => exact absurd rfl h
  | _ => decide

/-- The phase the conditions `cs` report. -/
def bootstrapPhase (cs : List Condition) : BootstrapPhase :=
  match get bootstrapExecSucceededCondition cs with
  | none => .absent
  | some c =>
    if c.status == .true then .succeeded
    else if c.reason = bootstrappingReason then .bootstrapping else .failed

theorem bootstrapPhase_of_get {cs cs' : List Condition}
    (h : get bootstrapExecSucceededCondition cs' = get bootstrapExecSucceededCondition cs) :
    bootstrapPhase cs' = bootstrapPhase cs := by
  rw [bootstrapPhase, h, bootstrapPhase]

theorem bootstrapPhase_of_has {cs : List Condition}
    (h : has bootstrapExecSucceededCondition cs = false) : bootstrapPhase cs = .absent := by
  cases hg : get bootstrapExecSucceededCondition cs
  · rw [bootstrapPhase, hg]
  · simp [has, hg] at h

/-- A set of `BootstrapExecSucceeded` reports the phase of the condition set. -/
theorem bootstrapPhase_set_self (now : Nat) {c : Condition}
    (hc : c.type = bootstrapExecSucceededCondition) (cs : List Condition) :
    bootstrapPhase (set now c cs) = bootstrapPhase [c] := by
  obtain ⟨τ, h⟩ := get_set_self now c cs
  rw [hc] at h
  simp only [bootstrapPhase, h, get_cons, hc, if_true]

theorem bootstrapPhase_markTrue_self (now : Nat) (cs : List Condition) :
    bootstrapPhase (markTrue now bootstrapExecSucceededCondition cs) = .succeeded :=
  (bootstrapPhase_set_self now rfl cs).trans rfl

theorem bootstrapPhase_markFalse_self (now : Nat) (r : String) (sv : ConditionSeverity) (msg : String)
    (cs : List Condition) :
    bootstrapPhase (markFalse now bootstrapExecSucceededCondition r sv msg cs) =
      if r = bootstrappingReason then .bootstrapping else .failed :=
  (bootstrapPhase_set_self now rfl cs).trans rfl

/-- `BootstrapExecSucceeded` is true exactly when `Spec.Bootstrapped` is. -/
def PhaseInv (m : KubevirtMachine) : Prop :=
  bootstrapPhase m.conditions = .succeeded ↔ m.bootstrapped = true

instance : DecidablePred PhaseInv := fun _ => inferInstanceAs (Decidable (_ ↔ _))

/-- What the reconciler may do to the phase of a machine it loaded as `m` and
now holds as `m'`: when `m` keeps `PhaseInv`, `m'` keeps it and its phase is
not behind that of `m`. -/
structure Advances (m m' : KubevirtMachine) : Prop where
  inv : PhaseInv m → PhaseInv m'
  rank : PhaseInv m → (bootstrapPhase m.conditions).rank ≤ (bootstrapPhase m'.conditions).rank

namespace Advances

variable {m m₁ m₂ m₃ m' : KubevirtMachine} {now : Nat}

theorem refl (m : KubevirtMachine) : Advances m m := ⟨id, fun _ => le_rfl⟩

theorem trans (h : Advances m₁ m₂) (h' : Advances m₂ m₃) : Advances m₁ m₃ :=
  ⟨h'.inv ∘ h.inv, fun hi => (h.rank hi).trans (h'.rank (h.inv hi))⟩

/-- A change that keeps `BootstrapExecSucceeded` and `Spec.Bootstrapped`. -/
theorem of_same
    (hc : get bootstrapExecSucceededCondition m'.conditions = get bootstrapExecSucceededCondition m.conditions)
    (hb : m'.bootstrapped = m.bootstrapped) : Advances m m' := by
  have hp := bootstrapPhase_of_get hc
  exact ⟨fun hi => by rwa [PhaseInv, hp, hb], fun _ => hp ▸ le_rfl⟩

/-- A set of `VMProvisioned`, with other fields the phase does not read. -/
theorem of_vmProvisioned {c : Condition} (hc : c.type = vmProvisionedCondition)
    (h : m'.conditions = set now c m.conditions) (hb : m'.bootstrapped = m.bootstrapped) :
    Advances m m' :=
  of_same (by rw [h]; exact get_set_of_ne now c (hc ▸ vmProvisioned_ne_bootstrapExecSucceeded) _) hb

/-- The patch of lines 247–252, made only while the condition is missing. -/
theorem bootstrapping (hb : has bootstrapExecSucceededCondition m.conditions = false) :
    Advances m (m.markFalse now bootstrapExecSucceededCondition bootstrappingReason .info "") := by
  have h₀ := bootstrapPhase_of_has hb
  have h₁ : bootstrapPhase (m.markFalse now bootstrapExecSucceededCondition bootstrappingReason .info
      "").conditions = .bootstrapping := by
    rw [KubevirtMachine.markFalse, bootstrapPhase_markFalse_self, if_pos rfl]
  refine ⟨fun hi => ?_, fun _ => by rw [h₀, h₁]; decide⟩
  rw [PhaseInv, h₀] at hi
  rw [PhaseInv, h₁, KubevirtMachine.bootstrapped_markFalse]
  simpa using hi

/-- The failed probe of lines 255–260, made only while not bootstrapped. -/
theorem bootstrapFailed (hb : m.bootstrapped = false) {msg : String} :
    Advances m (m.markFalse now bootstrapExecSucceededCondition bootstrapFailedReason .warning msg) := by
  have h₁ : bootstrapPhase (m.markFalse now bootstrapExecSucceededCondition bootstrapFailedReason .warning
      msg).conditions = .failed := by
    rw [KubevirtMachine.markFalse, bootstrapPhase_markFalse_self, if_neg (by decide)]
  refine ⟨fun _ => by rw [PhaseInv, h₁, KubevirtMachine.bootstrapped_markFalse, hb]; decide,
    fun hi => h₁ ▸ BootstrapPhase.rank_le_failed fun h => ?_⟩
  rw [hi.mp h] at hb
  cases hb

/-- Lines 262–281: bootstrapped, `BootstrapExecSucceeded` true, and the VM's
addresses. -/
theorem bootstrapped_addresses (ip : String) :
    Advances m { ({ m with bootstrapped := true }.markTrue now bootstrapExecSucceededCondition) with
      addresses := [⟨.hostName, m.name⟩, ⟨.internalIP, ip⟩, ⟨.externalIP, ip⟩] } := by
  have h₁ := bootstrapPhase_markTrue_self now m.conditions
  exact ⟨fun _ => iff_of_true h₁ rfl, fun _ => h₁ ▸ BootstrapPhase.rank_le_succeeded _⟩

end Advances

/-! ## Each stage moves the phase forward -/

section Stages

variable (a : Answers) (c : MachineContext)

theorem patchNodeProviderID_advances (km : KubevirtMachine) (s : Sys) :
    Advances km (patchNodeProviderID a c km s).machine := by
  unfold patchNodeProviderID
  split
  · exact .refl _
  · split
    · exact .refl _
    · exact .of_vmProvisioned rfl rfl rfl

theorem waitForBootstrap_advances (km : KubevirtMachine) (exec : VMCommandExecutor) (s : Sys) :
    Advances km (waitForBootstrap a c km exec s).machine := by
  unfold waitForBootstrap
  split
  · rename_i h
    simp only [Bool.and_eq_true, Bool.not_eq_eq_eq_not, Bool.not_true] at h
    exact .bootstrapFailed h.1
  · exact (Advances.bootstrapped_addresses a.address).trans (patchNodeProviderID_advances a c _ s)

theorem markProvisioned_advances (km : KubevirtMachine) (exec : VMCommandExecutor) (s : Sys) :
    Advances km (markProvisioned a c km exec s).machine := by
  have h₁ : Advances km (km.markTrue a.now vmProvisionedCondition) := .of_vmProvisioned rfl rfl rfl
  unfold markProvisioned
  split
  · exact .refl _
  dsimp only
  split
  · rename_i hb
    have h₂ : Advances km ((km.markTrue a.now vmProvisionedCondition).markFalse a.now
        bootstrapExecSucceededCondition bootstrappingReason .info "") :=
      h₁.trans (.bootstrapping (by simpa using hb))
    rw [patchKubevirtMachine_eq]
    cases a.patch .reconcileNormal with
    | some e => exact h₂
    | none => exact h₂.trans (waitForBootstrap_advances a c _ exec _)
  · exact h₁.trans (waitForBootstrap_advances a c _ exec s)

theorem provisionVM_advances (km : KubevirtMachine) (keys : SshKeys) (s : Sys) :
    Advances km (provisionVM a c km keys s).machine := by
  unfold provisionVM
  dsimp only
  split
  · exact .refl _
  split
  · exact .refl _
  split
  · exact .refl _
  · exact markProvisioned_advances a c km _ _

theorem reconcileNormal_advances (km : KubevirtMachine) (s : Sys) :
    Advances km (reconcileNormal a c km s).machine := by
  unfold reconcileNormal
  split
  · exact .of_vmProvisioned rfl rfl rfl
  split
  · split <;> exact .of_vmProvisioned rfl rfl rfl
  split
  · exact .refl _
  split
  · exact .refl _
  split
  · exact .of_vmProvisioned rfl rfl rfl
  · exact provisionVM_advances a c km _ _

theorem reconcileBranch_advances (km : KubevirtMachine) (s : Sys) :
    Advances km (reconcileBranch a c km s).machine := by
  rcases reconcileBranch_cases a c km s with ⟨-, h⟩ | ⟨-, -, h⟩ | ⟨-, -, -, h⟩ | ⟨-, -, -, h⟩ <;>
    rw [h]
  · exact .of_same rfl rfl
  · exact .of_vmProvisioned rfl rfl rfl
  · rw [reconcileDelete_eq]
    split
    · exact .refl _
    · exact .of_vmProvisioned rfl rfl rfl
    · exact .of_vmProvisioned rfl rfl rfl
  · exact reconcileNormal_advances a c km s

/-- **Call lemma**: every patch a call issues, landed or not, moves the phase
of the machine it loaded forward. -/
theorem reconcile_patch_advances (req : ObjectKey) (w : World) {site : PatchSite}
    {m : KubevirtMachine} {ok : Bool} (h : .patch site m ok ∈ (reconcile a req w).sys.effects) :
    ∃ km, w.kubevirtMachines.lookup req = some km ∧ Advances km m := by
  obtain ⟨km, c, hk, rfl | ⟨-, hb, rfl⟩ | rfl⟩ := reconcile_patch_cases h
  · exact ⟨km, hk, .of_vmProvisioned rfl rfl rfl⟩
  · have h₁ : Advances km (km.markTrue a.now vmProvisionedCondition) := .of_vmProvisioned rfl rfl rfl
    refine ⟨km, hk, h₁.trans (.bootstrapping ?_)⟩
    rwa [KubevirtMachine.markTrue, markTrue, has_set_of_ne _ _ vmProvisioned_ne_bootstrapExecSucceeded]
  · exact ⟨km, hk, reconcileBranch_advances a c km _⟩

end Stages

/-! ## Runs -/

/-- **Step lemma**: an event moves the phase of the machine stored under `k`
forward. -/
theorem step_advances (w : World) (e : Event) (k : ObjectKey) {m' : KubevirtMachine}
    (h : (w.step e).kubevirtMachines.lookup k = some m') :
    ∃ m, w.kubevirtMachines.lookup k = some m ∧ Advances m m' := by
  obtain ⟨m, hm, rfl | ⟨t, rfl⟩ | ⟨a, -, site, ok, hp⟩⟩ := step_lookup w e k h
  · exact ⟨_, hm, .refl _⟩
  · exact ⟨_, hm, .of_same rfl rfl⟩
  · obtain ⟨km, hk, hadv⟩ := reconcile_patch_advances a k w hp
    rw [hm] at hk
    cases hk
    exact ⟨_, hm, hadv⟩

/-- **Run lemma**: a run moves the phase of the machine stored under `k`
forward. -/
theorem run_advances (w : World) (evs : List Event) (k : ObjectKey) {m' : KubevirtMachine}
    (h : (w.run evs).kubevirtMachines.lookup k = some m') :
    ∃ m, w.kubevirtMachines.lookup k = some m ∧ Advances m m' := by
  induction evs generalizing w with
  | nil => exact ⟨m', h, .refl _⟩
  | cons e evs ih =>
    obtain ⟨m₁, h₁, hadv⟩ := ih (w.step e) h
    obtain ⟨m, hm, hadv₁⟩ := step_advances w e k h₁
    exact ⟨m, hm, hadv₁.trans hadv⟩

/-- In every run from a world whose machine under `k` has
`BootstrapExecSucceeded` true exactly when it is bootstrapped (a fresh machine
has neither), the machine stored under `k` at the end keeps this, and its
`BootstrapExecSucceeded` has moved only forward along missing, `Bootstrapping`,
`BootstrapFailed`, true; and so does every patch the next call for `k`
issues, the in-call `Bootstrapping` patch included. Since the run may start
anywhere, this holds between any two states of a run. -/
theorem run_bootstrapPhase (w : World) (evs : List Event) (k : ObjectKey) {m m' : KubevirtMachine}
    (h : w.kubevirtMachines.lookup k = some m) (hi : PhaseInv m)
    (h' : (w.run evs).kubevirtMachines.lookup k = some m') :
    PhaseInv m' ∧ (bootstrapPhase m.conditions).rank ≤ (bootstrapPhase m'.conditions).rank ∧
    ∀ a site p ok, .patch site p ok ∈ (reconcile a k (w.run evs)).sys.effects →
      PhaseInv p ∧ (bootstrapPhase m'.conditions).rank ≤ (bootstrapPhase p.conditions).rank := by
  obtain ⟨m₀, h₀, hadv⟩ := run_advances w evs k h'
  rw [h] at h₀
  cases h₀
  have hi' := hadv.inv hi
  refine ⟨hi', hadv.rank hi, fun a _ _ _ hp => ?_⟩
  obtain ⟨km, hk, hadv'⟩ := reconcile_patch_advances a k _ hp
  rw [h'] at hk
  cases hk
  exact ⟨hadv'.inv hi', hadv'.rank hi'⟩

/-- The worker machine, fresh, through two settled calls: it has bootstrapped,
and `BootstrapExecSucceeded` has moved from missing to true. -/
theorem run_bootstrapPhase_worker :
    ∃ m', (workerWorld.run [.reconcile (settledAnswers workerContext.cluster) ⟨"default", "worker-0"⟩,
        .reconcile (settledAnswers workerContext.cluster) ⟨"default", "worker-0"⟩]
      ).kubevirtMachines.lookup ⟨"default", "worker-0"⟩ = some m' ∧
      bootstrapPhase m'.conditions = .succeeded ∧ PhaseInv m' ∧
      (bootstrapPhase workerKubevirtMachine.conditions).rank ≤ (bootstrapPhase m'.conditions).rank := by
  obtain ⟨m', hm'⟩ := Option.isSome_iff_exists.mp (by decide :
    ((workerWorld.run [.reconcile (settledAnswers workerContext.cluster) ⟨"default", "worker-0"⟩,
        .reconcile (settledAnswers workerContext.cluster) ⟨"default", "worker-0"⟩]
      ).kubevirtMachines.lookup ⟨"default", "worker-0"⟩).isSome = true)
  have hp : ((workerWorld.run [.reconcile (settledAnswers workerContext.cluster) ⟨"default", "worker-0"⟩,
        .reconcile (settledAnswers workerContext.cluster) ⟨"default", "worker-0"⟩]
      ).kubevirtMachines.lookup ⟨"default", "worker-0"⟩).map (bootstrapPhase ·.conditions) =
      some .succeeded := by decide
  rw [hm'] at hp
  have h := run_bootstrapPhase workerWorld _ ⟨"default", "worker-0"⟩ (m := workerKubevirtMachine)
    (by decide) (by decide) hm'
  exact ⟨m', hm', Option.some.inj hp, h.1, h.2.1⟩

end CapkReconciler
