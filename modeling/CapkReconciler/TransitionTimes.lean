import CapkReconciler.OwnedConditions

/-!
# When a condition's transition time moves

`conditions.Set` keeps a condition's `LastTransitionTime` when type, status,
reason, severity and message are all unchanged, and stamps the clock reading
otherwise (`hasSameState`). A reason, severity or message change therefore
moves the time even when the status stays, as on the move from
`WaitingForClusterInfrastructure` to `WaitingForBootstrapData`, both `False`.

A call may set one condition several times: `VMProvisioned` true at line 241
and again at line 308, `BootstrapExecSucceeded` to `Bootstrapping` at line 248
and then to `BootstrapFailed` or true. A condition changed and changed back in
one call would carry a fresh time on its old state. The stage order rules this
out: the second set of `VMProvisioned` repeats the first, and
`BootstrapExecSucceeded` is set twice only when the machine had none.

- `SetOnce now cs cs'`: type by type, `cs'` reads as `cs` after at most one
  `conditions.Set` at clock `now`. It does not compose in general (the change
  and change back above); `SetOnce.set_after` composes it under the side
  condition the stages meet, and each stage gets one lemma (`*_setOnce`).
- `Retimed now cs cs'`: every condition of `cs'` is the one of its type in
  `cs`, or is in a state its type was not in and carries the time `now`
  (`SetOnce.retimed`).
- `reconcile_transitionTimes`: after every call, each condition of the machine
  stored under a key either is exactly as before the call, or has a new state
  and the call's clock reading.
-/

namespace CapkReconciler

open Conditions

/-- `cs'` reads, type by type, as `cs` after at most one `conditions.Set` at
clock `now` of a condition built by `MarkTrue` or `MarkFalse` (transition
time zero). -/
def SetOnce (now : Nat) (cs cs' : List Condition) : Prop :=
  ∀ t, get t cs' = get t cs ∨
    ∃ c, c.type = t ∧ c.lastTransitionTime = 0 ∧ get t cs' = get t (set now c cs)

/-- Every condition of `cs'` is the one of its type in `cs`, or is in a state
its type was not in and carries the time `now`. -/
def Retimed (now : Nat) (cs cs' : List Condition) : Prop :=
  ∀ t c', get t cs' = some c' → get t cs = some c' ∨
    (c'.lastTransitionTime = now ∧ ∀ c, get t cs = some c → hasSameState c c' = false)

theorem hasSameState_withTime (d c : Condition) (τ : Nat) :
    hasSameState d { c with lastTransitionTime := τ } = hasSameState d c := rfl

namespace SetOnce

variable {now : Nat} {cs cs₁ cs₂ : List Condition} {c : Condition}

theorem refl (now : Nat) (cs : List Condition) : SetOnce now cs cs := fun _ => .inl rfl

/-- One `conditions.Set`. -/
theorem set (hc : c.lastTransitionTime = 0) : SetOnce now cs (Conditions.set now c cs) := fun t => by
  by_cases ht : c.type = t
  · exact .inr ⟨c, ht, hc, rfl⟩
  · exact .inl (get_set_of_ne now c ht cs)

/-- One more `conditions.Set` of `c`, where its type is as it was in `cs₁`,
or held nothing in `cs₁`, or already holds the state of `c`. -/
theorem set_after (h : SetOnce now cs₁ cs₂) (hc : c.lastTransitionTime = 0)
    (hside : (get c.type cs₂ = get c.type cs₁ ∨ get c.type cs₁ = none) ∨
      ∃ d, get c.type cs₂ = some d ∧ hasSameState d c = true) :
    SetOnce now cs₁ (Conditions.set now c cs₂) := by
  intro t
  by_cases ht : c.type = t
  swap
  · rw [get_set_of_ne now c ht]
    exact h t
  subst ht
  by_cases hs : ∃ d, get c.type cs₂ = some d ∧ hasSameState d c = true
  · -- the set changes nothing
    obtain ⟨d, hd, hs⟩ := hs
    rw [set_of_sameState now c hd hs]
    exact h c.type
  · -- the set stamps the clock, on `cs₂` as it would on `cs₁`
    have hs₂ : ∀ d, get c.type cs₂ = some d → hasSameState d c = false := fun d hd => by
      simpa using fun h' => hs ⟨d, hd, h'⟩
    have hs₁ : ∀ d, get c.type cs₁ = some d → hasSameState d c = false := by
      rcases hside with (h₁ | h₁) | h₁
      · exact h₁ ▸ hs₂
      · simp [h₁]
      · exact absurd h₁ hs
    exact .inr ⟨c, rfl, hc, by rw [get_set_of_changed now hs₂ hc, get_set_of_changed now hs₁ hc]⟩

/-- At most one set per type moves a condition's time exactly when its state
changes. -/
theorem retimed (h : SetOnce now cs cs₁) : Retimed now cs cs₁ := by
  intro t c' hc'
  rcases h t with h | ⟨c, rfl, hc0, h⟩
  · exact .inl (h ▸ hc')
  by_cases hs : ∃ d, get c.type cs = some d ∧ hasSameState d c = true
  · obtain ⟨d, hd, hs⟩ := hs
    rw [set_of_sameState now c hd hs] at h
    exact .inl (h ▸ hc')
  · have hs' : ∀ d, get c.type cs = some d → hasSameState d c = false := fun d hd => by
      simpa using fun h' => hs ⟨d, hd, h'⟩
    rw [get_set_of_changed now hs' hc0, hc'] at h
    cases h
    exact .inr ⟨rfl, fun d hd => (hasSameState_withTime d c now).trans (hs' d hd)⟩

end SetOnce

/-- `VMProvisioned` holds a true condition. -/
def VMProvisionedTrue (cs : List Condition) : Prop :=
  ∃ d, get vmProvisionedCondition cs = some d ∧ hasSameState d (trueCondition vmProvisionedCondition) = true

theorem vmProvisionedTrue_markTrue (now : Nat) (cs : List Condition) :
    VMProvisionedTrue (markTrue now vmProvisionedCondition cs) := by
  obtain ⟨τ, h⟩ := get_set_self now (trueCondition vmProvisionedCondition) cs
  exact ⟨_, h, hasSameState_iff.mpr rfl⟩

theorem vmProvisionedTrue_set_of_ne {cs : List Condition} (h : VMProvisionedTrue cs) (now : Nat)
    {c : Condition} (hc : c.type ≠ vmProvisionedCondition) : VMProvisionedTrue (set now c cs) := by
  rwa [VMProvisionedTrue, get_set_of_ne now c hc]

/-! ## Each stage sets each condition at most once, in effect -/

section Stages

variable (a : Answers) (c : MachineContext)

/-- Line 308 sets `VMProvisioned` true again: it already is. -/
theorem patchNodeProviderID_setOnce {cs₀ : List Condition} {km : KubevirtMachine} (s : Sys)
    (h : SetOnce a.now cs₀ km.conditions) (hv : VMProvisionedTrue km.conditions) :
    SetOnce a.now cs₀ (patchNodeProviderID a c km s).machine.conditions := by
  unfold patchNodeProviderID
  split
  · exact h
  · split
    · exact h
    · exact h.set_after rfl (.inr hv)

/-- Lines 254–279 set `BootstrapExecSucceeded` once more, on a machine where
it is as it was loaded or was missing. -/
theorem waitForBootstrap_setOnce {cs₀ : List Condition} {km : KubevirtMachine}
    (exec : VMCommandExecutor) (s : Sys) (h : SetOnce a.now cs₀ km.conditions)
    (hb : get bootstrapExecSucceededCondition km.conditions = get bootstrapExecSucceededCondition cs₀ ∨
      get bootstrapExecSucceededCondition cs₀ = none)
    (hv : VMProvisionedTrue km.conditions) :
    SetOnce a.now cs₀ (waitForBootstrap a c km exec s).machine.conditions := by
  unfold waitForBootstrap
  split
  · exact h.set_after rfl (.inl hb)
  · refine patchNodeProviderID_setOnce a c s ?_ ?_
    · exact h.set_after rfl (.inl hb)
    · exact vmProvisionedTrue_set_of_ne hv _ vmProvisioned_ne_bootstrapExecSucceeded.symm

theorem markProvisioned_setOnce (km : KubevirtMachine) (exec : VMCommandExecutor) (s : Sys) :
    SetOnce a.now km.conditions (markProvisioned a c km exec s).machine.conditions := by
  have h₁ : SetOnce a.now km.conditions (km.markTrue a.now vmProvisionedCondition).conditions :=
    .set rfl
  have hv₁ := vmProvisionedTrue_markTrue a.now km.conditions
  have hb₁ : get bootstrapExecSucceededCondition (km.markTrue a.now vmProvisionedCondition).conditions =
      get bootstrapExecSucceededCondition km.conditions :=
    get_set_of_ne _ _ vmProvisioned_ne_bootstrapExecSucceeded _
  unfold markProvisioned
  split
  · exact .refl _ _
  dsimp only
  split
  · -- `BootstrapExecSucceeded` is missing: set it to `Bootstrapping` and patch
    rename_i hnb
    have hnone : get bootstrapExecSucceededCondition km.conditions = none := by
      rw [← hb₁]
      simpa [has, KubevirtMachine.markTrue, markTrue] using hnb
    have h₂ : SetOnce a.now km.conditions ((km.markTrue a.now vmProvisionedCondition).markFalse a.now
        bootstrapExecSucceededCondition bootstrappingReason .info "").conditions :=
      h₁.set_after rfl (.inl (.inl hb₁))
    rw [patchKubevirtMachine_eq]
    cases a.patch .reconcileNormal with
    | some e => exact h₂
    | none =>
      refine waitForBootstrap_setOnce a c exec _ h₂ (.inr hnone) ?_
      exact vmProvisionedTrue_set_of_ne hv₁ _ vmProvisioned_ne_bootstrapExecSucceeded.symm
  · exact waitForBootstrap_setOnce a c exec s h₁ (.inl hb₁) hv₁

theorem provisionVM_setOnce (km : KubevirtMachine) (keys : SshKeys) (s : Sys) :
    SetOnce a.now km.conditions (provisionVM a c km keys s).machine.conditions := by
  unfold provisionVM
  dsimp only
  split
  · exact .refl _ _
  split
  · exact .refl _ _
  split
  · exact .refl _ _
  · exact markProvisioned_setOnce a c km _ _

theorem reconcileNormal_setOnce (km : KubevirtMachine) (s : Sys) :
    SetOnce a.now km.conditions (reconcileNormal a c km s).machine.conditions := by
  unfold reconcileNormal
  split
  · exact .set rfl
  split
  · split <;> exact .set rfl
  split
  · exact .refl _ _
  split
  · exact .refl _ _
  split
  · exact .set rfl
  · exact provisionVM_setOnce a c km _ _

theorem reconcileBranch_setOnce (km : KubevirtMachine) (s : Sys) :
    SetOnce a.now km.conditions (reconcileBranch a c km s).machine.conditions := by
  rcases reconcileBranch_cases a c km s with ⟨-, h⟩ | ⟨-, -, h⟩ | ⟨-, -, -, h⟩ | ⟨-, -, -, h⟩ <;>
    rw [h]
  · exact .refl _ _
  · exact .set rfl
  · rw [reconcileDelete_eq]
    split
    · exact .refl _ _
    · exact .set rfl
    · exact .set rfl
  · exact reconcileNormal_setOnce a c km s

/-- **Call lemma**: every patch a call issues carries the conditions of the
machine it loaded after at most one set per type, at the call's clock. -/
theorem reconcile_patch_setOnce (req : ObjectKey) (w : World) {site : PatchSite}
    {m : KubevirtMachine} {ok : Bool} (h : .patch site m ok ∈ (reconcile a req w).sys.effects) :
    ∃ km, w.kubevirtMachines.lookup req = some km ∧ SetOnce a.now km.conditions m.conditions := by
  obtain ⟨km, c, hk, rfl | ⟨-, -, rfl⟩ | rfl⟩ := reconcile_patch_cases h
  · exact ⟨km, hk, .set rfl⟩
  · exact ⟨km, hk, (SetOnce.set rfl).set_after rfl
      (.inl (.inl (get_set_of_ne _ _ vmProvisioned_ne_bootstrapExecSucceeded _)))⟩
  · exact ⟨km, hk, reconcileBranch_setOnce a c km _⟩

end Stages

/-- After every call, from every world, each condition of the machine stored
under a key either is exactly the one before the call, or is in a state its
type was not in before and carries the call's clock reading. A change of
reason, severity or message alone counts as a change of state. -/
theorem reconcile_transitionTimes (a : Answers) (req k : ObjectKey) (w : World) {m' : KubevirtMachine}
    (h : (reconcile a req w).sys.world.kubevirtMachines.lookup k = some m') :
    ∃ m, w.kubevirtMachines.lookup k = some m ∧ Retimed a.now m.conditions m'.conditions := by
  obtain ⟨m, hm, rfl | ⟨rfl, site, ok, hp⟩⟩ := reconcile_lookup a req k w h
  · exact ⟨_, hm, (SetOnce.refl _ _).retimed⟩
  · obtain ⟨km, hk, hc⟩ := reconcile_patch_setOnce a req w hp
    rw [hm] at hk
    cases hk
    exact ⟨_, hm, hc.retimed⟩

/-- A Cluster whose infrastructure is ready and whose control plane is
initialized. -/
def initializedCluster : Cluster :=
  ⟨"c", "c", true, [trueCondition controlPlaneInitializedCondition]⟩

/-- The worker machine, reported at time 1 as waiting for the cluster's
infrastructure. -/
def waitingKubevirtMachine : KubevirtMachine :=
  { workerKubevirtMachine with
    conditions := [⟨vmProvisionedCondition, .false, .info, waitingForClusterInfrastructureReason, "", 1⟩] }

/-- At clock 5 the infrastructure is ready, and the worker Machine has no
bootstrap data yet: `VMProvisioned` stays `False`, its reason moves to
`WaitingForBootstrapData`, and its time moves from 1 to 5. -/
theorem reconcile_transitionTimes_reasonOnly :
    ∃ m', (reconcile { settledAnswers initializedCluster with
          now := 5, ownerMachine := .ok (some { workerMachine with dataSecretName := none }) }
        ⟨"default", "worker-0"⟩ ⟨Store.ofList [waitingKubevirtMachine], Store.empty, fun _ => false⟩
        ).sys.world.kubevirtMachines.lookup ⟨"default", "worker-0"⟩ = some m' ∧
      (∃ m, Store.lookup (Store.ofList [waitingKubevirtMachine]) ⟨"default", "worker-0"⟩ = some m ∧
        Retimed 5 m.conditions m'.conditions) ∧
      get vmProvisionedCondition m'.conditions =
        some ⟨vmProvisionedCondition, .false, .info, waitingForBootstrapDataReason, "", 5⟩ := by
  obtain ⟨m', hm'⟩ := Option.isSome_iff_exists.mp (by decide :
    ((reconcile { settledAnswers initializedCluster with
          now := 5, ownerMachine := .ok (some { workerMachine with dataSecretName := none }) }
        ⟨"default", "worker-0"⟩ ⟨Store.ofList [waitingKubevirtMachine], Store.empty, fun _ => false⟩
        ).sys.world.kubevirtMachines.lookup ⟨"default", "worker-0"⟩).isSome = true)
  have hv : ((reconcile { settledAnswers initializedCluster with
          now := 5, ownerMachine := .ok (some { workerMachine with dataSecretName := none }) }
        ⟨"default", "worker-0"⟩ ⟨Store.ofList [waitingKubevirtMachine], Store.empty, fun _ => false⟩
        ).sys.world.kubevirtMachines.lookup ⟨"default", "worker-0"⟩).bind
      (fun m => get vmProvisionedCondition m.conditions) =
      some ⟨vmProvisionedCondition, .false, .info, waitingForBootstrapDataReason, "", 5⟩ := by decide
  rw [hm'] at hv
  exact ⟨m', hm', reconcile_transitionTimes _ _ _ _ hm', hv⟩

end CapkReconciler
