import CapkReconciler.Finalizer

/-!
# The status a KubevirtMachine carries, over whole runs

`Spec.ProviderID`, `Spec.Bootstrapped`, `Status.Ready`, `Status.Addresses`
and `BootstrapExecSucceeded` are only ever written together, in the order of
lines 254–308: the VM bootstraps, its addresses are recorded, the node gets
its provider ID and the machine turns ready. Each call moves the loaded
machine along `Evolves`, which keeps `StatusInv`, never clears
`Bootstrapped` and never changes a provider ID once set.

- `status_invariant`: in every run of reconciliations and of the API layer's
  two-phase deletion that starts from a fresh machine, every persisted state
  of the machine satisfies `StatusInv` (the in-call patch of lines 241–246
  included), and no step clears `Bootstrapped` or changes a set provider ID.
- `reconcileNormal_providerID_set`: the short-circuit of lines 164–170 for a
  machine with a provider ID marks it ready and `VMProvisioned` and keeps
  every other part of its status as it came, so a machine whose status was
  lost in a move stays without addresses and `BootstrapExecSucceeded`
  (`reconcileNormal_moved`); on a state a run reached, `StatusInv` supplies
  them.
-/

namespace CapkReconciler

/-- The status invariant of a KubevirtMachine: `Ready` only with a provider
ID, a provider ID only once bootstrapped, and bootstrapped only with
`BootstrapExecSucceeded` true and the VM's addresses recorded. -/
structure StatusInv (m : KubevirtMachine) : Prop where
  ready : m.ready = true → m.providerID.isSome = true
  providerID : m.providerID.isSome = true → m.bootstrapped = true
  bootstrapped : m.bootstrapped = true →
    Conditions.isTrue bootstrapExecSucceededCondition m.conditions = true ∧
      ∃ ip, m.addresses = [⟨.hostName, m.name⟩, ⟨.internalIP, ip⟩, ⟨.externalIP, ip⟩]

/-- A KubevirtMachine as it is created: no provider ID, not bootstrapped, not
ready, no conditions. -/
def KubevirtMachine.isFresh (m : KubevirtMachine) : Prop :=
  m.providerID = none ∧ m.bootstrapped = false ∧ m.ready = false ∧ m.conditions = []

instance : DecidablePred KubevirtMachine.isFresh := fun _ =>
  inferInstanceAs (Decidable (_ ∧ _ ∧ _ ∧ _))

theorem StatusInv.of_isFresh {m : KubevirtMachine} (h : m.isFresh) : StatusInv m := by
  obtain ⟨hp, hb, hr, -⟩ := h
  exact ⟨by simp [hr], by simp [hp], by simp [hb]⟩

/-- What the reconciler may do to a machine it loaded as `m` and now holds as
`m'`: the key and the owner reference it yields stay, the status invariant
is kept, `Bootstrapped` is never cleared and a set provider ID never changes. -/
structure Evolves (m m' : KubevirtMachine) : Prop where
  key : m'.key = m.key
  ownerRef : m'.ownerRef = m.ownerRef
  inv : StatusInv m → StatusInv m'
  bootstrapped : m.bootstrapped = true → m'.bootstrapped = true
  providerID : m.providerID.isSome = true → m'.providerID = m.providerID

namespace Evolves

variable {m m₁ m₂ m₃ : KubevirtMachine} {now : Nat}

theorem refl (m : KubevirtMachine) : Evolves m m := ⟨rfl, rfl, id, id, fun _ => rfl⟩

theorem trans (h : Evolves m₁ m₂) (h' : Evolves m₂ m₃) : Evolves m₁ m₃ where
  key := h'.key.trans h.key
  ownerRef := h'.ownerRef.trans h.ownerRef
  inv := h'.inv ∘ h.inv
  bootstrapped := h'.bootstrapped ∘ h.bootstrapped
  providerID hp := (h'.providerID (by rw [h.providerID hp]; exact hp)).trans (h.providerID hp)

/-- A change that keeps every field the invariant reads. -/
theorem of_same (hns : m'.ns = m.ns) (hn : m'.name = m.name) (ho : m'.ownerRef = m.ownerRef)
    (hr : m'.ready = m.ready) (hp : m'.providerID = m.providerID)
    (hb : m'.bootstrapped = m.bootstrapped) (ha : m'.addresses = m.addresses)
    (hc : Conditions.isTrue bootstrapExecSucceededCondition m'.conditions =
      Conditions.isTrue bootstrapExecSucceededCondition m.conditions) : Evolves m m' where
  key := by simp [KubevirtMachine.key, hns, hn]
  ownerRef := ho
  inv hi := ⟨by rw [hr, hp]; exact hi.ready, by rw [hp, hb]; exact hi.providerID,
    by rw [hb, hc, ha, hn]; exact hi.bootstrapped⟩
  bootstrapped := by rw [hb]; exact id
  providerID _ := hp

theorem markTrue_of_ne {t : String} (h : t ≠ bootstrapExecSucceededCondition) :
    Evolves m (m.markTrue now t) :=
  of_same rfl rfl rfl rfl rfl rfl rfl (Conditions.isTrue_set_of_ne now _ h _)

theorem markFalse_of_ne {t r : String} {sv : ConditionSeverity} {msg : String}
    (h : t ≠ bootstrapExecSucceededCondition) : Evolves m (m.markFalse now t r sv msg) :=
  of_same rfl rfl rfl rfl rfl rfl rfl (Conditions.isTrue_set_of_ne now _ h _)

theorem markTrue_vmProvisioned : Evolves m (m.markTrue now vmProvisionedCondition) :=
  markTrue_of_ne vmProvisioned_ne_bootstrapExecSucceeded

theorem markFalse_vmProvisioned {r : String} {sv : ConditionSeverity} {msg : String} :
    Evolves m (m.markFalse now vmProvisionedCondition r sv msg) :=
  markFalse_of_ne vmProvisioned_ne_bootstrapExecSucceeded

theorem withFinalizers (fs : List String) : Evolves m { m with finalizers := fs } :=
  of_same rfl rfl rfl rfl rfl rfl rfl rfl

theorem withDeletionTimestamp (t : Option Nat) : Evolves m { m with deletionTimestamp := t } :=
  of_same rfl rfl rfl rfl rfl rfl rfl rfl

/-- The short-circuit of lines 164–170. -/
theorem providerIDSet_ready (hp : m.providerID.isSome = true) :
    Evolves m ({ m with ready := true }.markTrue now vmProvisionedCondition) where
  key := rfl
  ownerRef := rfl
  inv hi := ⟨fun _ => hp, hi.providerID, fun hb => by
    rw [KubevirtMachine.markTrue, Conditions.markTrue,
      Conditions.isTrue_set_of_ne _ _ vmProvisioned_ne_bootstrapExecSucceeded]
    exact hi.bootstrapped hb⟩
  bootstrapped := id
  providerID _ := rfl

/-- The patch of lines 241–246, made only while `BootstrapExecSucceeded` is
missing, hence before the machine bootstrapped. -/
theorem bootstrapping (hp : m.providerID = none)
    (hb : Conditions.has bootstrapExecSucceededCondition m.conditions = false) :
    Evolves m ((m.markTrue now vmProvisionedCondition).markFalse now
      bootstrapExecSucceededCondition bootstrappingReason .info "") where
  key := rfl
  ownerRef := rfl
  inv hi := by
    have hnb : m.bootstrapped = false := by
      cases h : m.bootstrapped
      · rfl
      · obtain ⟨c, hc, -⟩ := (Conditions.isTrue_iff _ _).mp (hi.bootstrapped h).1
        simp [Conditions.has, hc] at hb
    have hnr : m.ready = false := by
      cases h : m.ready
      · rfl
      · simpa [hp] using hi.ready h
    exact ⟨fun h => absurd h (by simp [KubevirtMachine.markFalse, KubevirtMachine.markTrue, hnr]),
      fun h => absurd h (by simp [KubevirtMachine.markFalse, KubevirtMachine.markTrue, hp]),
      fun h => absurd h (by simp [KubevirtMachine.markFalse, KubevirtMachine.markTrue, hnb])⟩
  bootstrapped := id
  providerID h := absurd h (by simp [hp])

/-- The failed probe of lines 259–263, made only while not bootstrapped. -/
theorem bootstrapFailed (hb : m.bootstrapped = false) {msg : String} :
    Evolves m (m.markFalse now bootstrapExecSucceededCondition bootstrapFailedReason .warning msg) where
  key := rfl
  ownerRef := rfl
  inv hi := ⟨hi.ready, fun hp => absurd (hi.providerID hp) (by simp [hb]),
    fun h => absurd h (by simp [KubevirtMachine.markFalse, hb])⟩
  bootstrapped := id
  providerID _ := rfl

/-- Lines 266–279: bootstrapped, `BootstrapExecSucceeded`, and the VM's
addresses. -/
theorem bootstrapped_addresses (ip : String) :
    Evolves m { ({ m with bootstrapped := true }.markTrue now bootstrapExecSucceededCondition) with
      addresses := [⟨.hostName, m.name⟩, ⟨.internalIP, ip⟩, ⟨.externalIP, ip⟩] } where
  key := rfl
  ownerRef := rfl
  inv hi := ⟨hi.ready, fun _ => rfl, fun _ =>
    ⟨Conditions.isTrue_markTrue_self now _ _, ip, rfl⟩⟩
  bootstrapped _ := rfl
  providerID _ := rfl

/-- Lines 298–308: the provider ID of a bootstrapped machine that had none. -/
theorem providerID_registered (hb : m.bootstrapped = true) (hp : m.providerID = none)
    (pid : String) :
    Evolves m ({ m with providerID := some pid, ready := true }.markTrue now
      vmProvisionedCondition) where
  key := rfl
  ownerRef := rfl
  inv hi := ⟨fun _ => rfl, fun _ => hb, fun _ => by
    rw [KubevirtMachine.markTrue, Conditions.markTrue,
      Conditions.isTrue_set_of_ne _ _ vmProvisioned_ne_bootstrapExecSucceeded]
    exact hi.bootstrapped hb⟩
  bootstrapped _ := hb
  providerID h := absurd h (by simp [hp])

end Evolves

/-! ## Each stage moves the machine along `Evolves` -/

theorem patchNodeProviderID_evolves (a : Answers) (c : MachineContext) {km : KubevirtMachine}
    (s : Sys) (hb : km.bootstrapped = true) (hp : km.providerID = none) :
    Evolves km (patchNodeProviderID a c km s).machine := by
  unfold patchNodeProviderID
  split
  · exact .refl _
  · split
    · exact .refl _
    · exact .providerID_registered hb hp _

theorem waitForBootstrap_evolves (a : Answers) (c : MachineContext) {km : KubevirtMachine}
    (exec : VMCommandExecutor) (s : Sys) (hp : km.providerID = none) :
    Evolves km (waitForBootstrap a c km exec s).machine := by
  unfold waitForBootstrap
  split
  · rename_i h
    simp only [Bool.and_eq_true, Bool.not_eq_eq_eq_not, Bool.not_true] at h
    exact .bootstrapFailed h.1
  · exact (Evolves.bootstrapped_addresses a.address).trans
      (patchNodeProviderID_evolves a c s rfl hp)

theorem markProvisioned_evolves (a : Answers) (c : MachineContext) {km : KubevirtMachine}
    (exec : VMCommandExecutor) (s : Sys) (hp : km.providerID = none) :
    Evolves km (markProvisioned a c km exec s).machine := by
  unfold markProvisioned
  split
  · exact .refl _
  dsimp only
  split
  · rename_i hb
    have hb : Conditions.has bootstrapExecSucceededCondition km.conditions = false := by
      rw [← Conditions.has_set_of_ne a.now (Conditions.trueCondition vmProvisionedCondition)
        vmProvisioned_ne_bootstrapExecSucceeded]
      simpa [KubevirtMachine.markTrue, Conditions.markTrue] using hb
    rw [patchKubevirtMachine_eq]
    cases a.patch .reconcileNormal with
    | some e => exact .bootstrapping hp hb
    | none => exact (Evolves.bootstrapping hp hb).trans (waitForBootstrap_evolves a c exec _ hp)
  · exact Evolves.markTrue_vmProvisioned.trans (waitForBootstrap_evolves a c exec _ hp)

theorem provisionVM_evolves (a : Answers) (c : MachineContext) {km : KubevirtMachine}
    (keys : SshKeys) (s : Sys) (hp : km.providerID = none) :
    Evolves km (provisionVM a c km keys s).machine := by
  unfold provisionVM
  dsimp only
  split
  · exact .refl _
  split
  · exact .refl _
  split
  · exact .refl _
  · exact markProvisioned_evolves a c _ _ hp

theorem reconcileNormal_evolves (a : Answers) (c : MachineContext) (km : KubevirtMachine)
    (s : Sys) : Evolves km (reconcileNormal a c km s).machine := by
  unfold reconcileNormal
  split
  · rename_i hp
    exact .providerIDSet_ready (by simp [hp])
  rename_i hp
  split
  · split <;> exact .markFalse_vmProvisioned
  split
  · exact .refl _
  split
  · exact .refl _
  split
  · exact .markFalse_vmProvisioned
  · exact provisionVM_evolves a c _ _ hp

theorem reconcileBranch_evolves (a : Answers) (c : MachineContext) (km : KubevirtMachine)
    (s : Sys) : Evolves km (reconcileBranch a c km s).machine := by
  rcases reconcileBranch_cases a c km s with ⟨-, h⟩ | ⟨-, -, h⟩ | ⟨-, -, -, h⟩ | ⟨-, -, -, h⟩ <;>
    rw [h]
  · exact .withFinalizers _
  · exact .markFalse_vmProvisioned
  · rw [reconcileDelete_eq]
    split
    · exact .refl _
    · exact .markFalse_vmProvisioned
    · exact Evolves.markFalse_vmProvisioned.trans (.withFinalizers _)
  · exact reconcileNormal_evolves a c km s

/-- Every patch `reconcileBranch` issues: the `Deleting` patch of the delete
path, or the `Bootstrapping` patch of the normal path. -/
theorem reconcileBranch_patch {a : Answers} {c : MachineContext} {km : KubevirtMachine} {w : World}
    {site : PatchSite} {m : KubevirtMachine} {ok : Bool}
    (h : .patch site m ok ∈ (reconcileBranch a c km ⟨w, []⟩).sys.effects) :
    m = km.markFalse a.now vmProvisionedCondition deletingReason .info "" ∨
    (km.providerID = none ∧ Conditions.has bootstrapExecSucceededCondition km.conditions = false ∧
      m = (km.markTrue a.now vmProvisionedCondition).markFalse a.now
        bootstrapExecSucceededCondition bootstrappingReason .info "") := by
  rcases reconcileBranch_cases a c km ⟨w, []⟩ with
    ⟨-, hb⟩ | ⟨-, -, hb⟩ | ⟨-, -, -, hb⟩ | ⟨-, -, -, hb⟩ <;> rw [hb] at h
  · simp at h
  · simp at h
  · rw [reconcileDelete_eq] at h
    split at h <;> simp at h
    all_goals exact .inl h.2.1
  · obtain ⟨es, hes, hQ⟩ := normal_effects a c km w
    rw [hes] at h
    obtain ⟨-, hp, hb, rfl⟩ := hQ _ h
    exact .inr ⟨hp, hb, rfl⟩

/-- **Call lemma**: every patch a call issues, landed or not, is the machine
it loaded, moved along `Evolves`. -/
theorem reconcile_patch_evolves (a : Answers) (req : ObjectKey) (w : World) {site : PatchSite}
    {m : KubevirtMachine} {ok : Bool} (h : .patch site m ok ∈ (reconcile a req w).sys.effects) :
    ∃ km, w.kubevirtMachines.lookup req = some km ∧ Evolves km m := by
  rcases reconcile_cases a req w with ⟨-, h0⟩ | ⟨km, c, -, hk, -, -, -, -, heq⟩
  · rw [h0] at h
    simp at h
  refine ⟨km, hk, ?_⟩
  rw [reconcile_effects_of_loaded heq, List.mem_append, List.mem_singleton] at h
  rcases h with h | h
  · rcases reconcileBranch_patch h with rfl | ⟨hp, hb, rfl⟩
    · exact .markFalse_vmProvisioned
    · exact .bootstrapping hp hb
  · cases h
    exact reconcileBranch_evolves a c km _

/-! ## Runs -/

/-- Modelled from the spec: what changes the stored KubevirtMachines in a
run. Besides the reconciler's calls, the API layer's two-phase deletion
stamps a deletion timestamp, and purges an object once its finalizers are
gone. -/
inductive Event where
  | reconcile (a : Answers) (req : ObjectKey)
  | delete (k : ObjectKey) (t : Nat)
  | purge (k : ObjectKey)

/-- One event on the stored objects. -/
def World.step (w : World) : Event → World
  | .reconcile a req => (reconcile a req w).sys.world
  | .delete k t =>
    match w.kubevirtMachines.lookup k with
    | some m =>
      if m.deletionTimestamp.isNone then
        { w with kubevirtMachines := w.kubevirtMachines.put { m with deletionTimestamp := some t } }
      else w
    | none => w
  | .purge k =>
    match w.kubevirtMachines.lookup k with
    | some m =>
      if m.finalizers.isEmpty && m.deletionTimestamp.isSome then
        { w with kubevirtMachines := w.kubevirtMachines.erase k }
      else w
    | none => w

/-- A run of events, in order. -/
def World.run (w : World) (evs : List Event) : World := evs.foldl World.step w

/-- **Step lemma**: the machine stored under `k` after an event is the one
stored before, moved along `Evolves`. -/
theorem step_evolves (w : World) (e : Event) (k : ObjectKey) {m' : KubevirtMachine}
    (h : (w.step e).kubevirtMachines.lookup k = some m') :
    ∃ m, w.kubevirtMachines.lookup k = some m ∧ Evolves m m' := by
  cases e with
  | reconcile a req =>
    have h : (Sys.emitAll ⟨w, []⟩ (reconcile a req w).sys.effects).world.kubevirtMachines.lookup k =
        some m' := by rw [← reconcile_sys]; exact h
    refine lookup_emitAll_of (P := fun m' => ∃ m, w.kubevirtMachines.lookup k = some m ∧ Evolves m m')
      _ _ (fun site m hm hkey => ?_) (fun m hm => ⟨m, hm, .refl m⟩) m' h
    obtain ⟨km, hk, hev⟩ := reconcile_patch_evolves a req w hm
    have hreq : req = k := by rw [← hkey, hev.key]; exact (w.kubevirtMachines.lookup_key hk).symm
    exact ⟨km, hreq ▸ hk, hev⟩
  | delete k' t =>
    simp only [World.step] at h
    split at h
    · rename_i m hm
      split at h
      · simp only [Store.lookup_put, Keyed.key_kubevirtMachine] at h
        split at h
        · cases h
          rename_i hkey
          have hk : k' = k := (w.kubevirtMachines.lookup_key hm).symm.trans hkey
          exact ⟨m, hk ▸ hm, .withDeletionTimestamp _⟩
        · exact ⟨m', h, .refl _⟩
      · exact ⟨m', h, .refl _⟩
    · exact ⟨m', h, .refl _⟩
  | purge k' =>
    simp only [World.step] at h
    split at h
    · split at h
      · simp only [Store.lookup_erase] at h
        split at h
        · cases h
        · exact ⟨m', h, .refl _⟩
      · exact ⟨m', h, .refl _⟩
    · exact ⟨m', h, .refl _⟩

/-- **Run lemma**: the machine stored under `k` after a run is the one stored
before it, moved along `Evolves`. -/
theorem run_evolves (w : World) (evs : List Event) (k : ObjectKey) {m' : KubevirtMachine}
    (h : (w.run evs).kubevirtMachines.lookup k = some m') :
    ∃ m, w.kubevirtMachines.lookup k = some m ∧ Evolves m m' := by
  induction evs generalizing w with
  | nil => exact ⟨m', h, .refl _⟩
  | cons e evs ih =>
    obtain ⟨m₁, h₁, hev⟩ := ih (w.step e) h
    obtain ⟨m, hm, hev₁⟩ := step_evolves w e k h₁
    exact ⟨m, hm, hev₁.trans hev⟩

/-- In every run that starts from a fresh machine under `k`, every persisted
state of the machine satisfies `StatusInv`: the state after the run and each
patch the next call lands, its in-call patch included; and no step clears
`Bootstrapped` or changes a set provider ID, in the state it leaves or in any
patch it lands. -/
theorem status_invariant (w : World) (k : ObjectKey)
    (hfresh : ∀ m, w.kubevirtMachines.lookup k = some m → m.isFresh) (evs : List Event) :
    (∀ m, (w.run evs).kubevirtMachines.lookup k = some m → StatusInv m) ∧
    (∀ a site m, .patch site m true ∈ (reconcile a k (w.run evs)).sys.effects →
      StatusInv m ∧ ∀ m₀, (w.run evs).kubevirtMachines.lookup k = some m₀ →
        (m₀.bootstrapped = true → m.bootstrapped = true) ∧
        (m₀.providerID.isSome = true → m.providerID = m₀.providerID)) ∧
    (∀ e m m', (w.run evs).kubevirtMachines.lookup k = some m →
      ((w.run evs).step e).kubevirtMachines.lookup k = some m' →
      (m.bootstrapped = true → m'.bootstrapped = true) ∧
      (m.providerID.isSome = true → m'.providerID = m.providerID)) := by
  have hinv : ∀ m, (w.run evs).kubevirtMachines.lookup k = some m → StatusInv m := fun m hm => by
    obtain ⟨m₀, h₀, hev⟩ := run_evolves w evs k hm
    exact hev.inv (.of_isFresh (hfresh m₀ h₀))
  refine ⟨hinv, fun a site m hm => ?_, fun e m m' hm hm' => ?_⟩
  · obtain ⟨km, hk, hev⟩ := reconcile_patch_evolves a k _ hm
    refine ⟨hev.inv (hinv km hk), fun m₀ h₀ => ?_⟩
    rw [hk] at h₀
    cases h₀
    exact ⟨hev.bootstrapped, hev.providerID⟩
  · obtain ⟨m₀, h₀, hev⟩ := step_evolves _ e k hm'
    rw [hm] at h₀
    cases h₀
    exact ⟨hev.bootstrapped, hev.providerID⟩

/-- A store holding the fresh worker machine and its generic bootstrap
Secret. -/
def workerWorld : World :=
  ⟨Store.ofList [workerKubevirtMachine], Store.ofList [genericBootstrapSecret], fun _ => false⟩

/-- The worker machine through one settled call. -/
theorem status_invariant_worker :
    ∃ m, (workerWorld.run [.reconcile (settledAnswers workerContext.cluster) ⟨"default", "worker-0"⟩]
      ).kubevirtMachines.lookup ⟨"default", "worker-0"⟩ = some m ∧ StatusInv m := by
  obtain ⟨m, hm⟩ := Option.isSome_iff_exists.mp (by decide :
    ((workerWorld.run [.reconcile (settledAnswers workerContext.cluster) ⟨"default", "worker-0"⟩]
      ).kubevirtMachines.lookup ⟨"default", "worker-0"⟩).isSome = true)
  refine ⟨m, hm, (status_invariant workerWorld ⟨"default", "worker-0"⟩ (fun m h => ?_) _).1 m hm⟩
  rw [show workerWorld.kubevirtMachines.lookup _ = some workerKubevirtMachine by decide] at h
  cases h
  decide

/-! ## The short-circuit for a machine with a provider ID -/

/-- A machine with a provider ID takes the short-circuit of lines 164–170: the
call returns at once and issues nothing, marks the machine ready and
`VMProvisioned`, and keeps its addresses and `BootstrapExecSucceeded` as they
came. On a machine satisfying `StatusInv`, as every state a run reaches does,
these are `True` and the addresses recorded at bootstrap. -/
theorem reconcileNormal_providerID_set (a : Answers) (c : MachineContext) (km : KubevirtMachine)
    (s : Sys) (hp : km.providerID.isSome = true) :
    (reconcileNormal a c km s).result = {} ∧ (reconcileNormal a c km s).err = none ∧
    (reconcileNormal a c km s).sys = s ∧ (reconcileNormal a c km s).machine.ready = true ∧
    (reconcileNormal a c km s).machine.conditionState vmProvisionedCondition = some (.true, "") ∧
    (reconcileNormal a c km s).machine.addresses = km.addresses ∧
    (reconcileNormal a c km s).machine.condition bootstrapExecSucceededCondition =
      km.condition bootstrapExecSucceededCondition ∧
    (StatusInv km →
      Conditions.isTrue bootstrapExecSucceededCondition (reconcileNormal a c km s).machine.conditions ∧
      ∃ ip, (reconcileNormal a c km s).machine.addresses =
        [⟨.hostName, km.name⟩, ⟨.internalIP, ip⟩, ⟨.externalIP, ip⟩]) := by
  obtain ⟨pid, hpid⟩ := Option.isSome_iff_exists.mp hp
  have h : reconcileNormal a c km s =
      ⟨{}, none, { km with ready := true }.markTrue a.now vmProvisionedCondition, s⟩ := by
    simp only [reconcileNormal, hpid]
  rw [h]
  exact ⟨rfl, rfl, rfl, rfl, by simp, rfl,
    Conditions.get_markTrue_of_ne _ vmProvisioned_ne_bootstrapExecSucceeded _,
    fun hi => ((Evolves.providerIDSet_ready hp).inv hi).bootstrapped (hi.providerID hp)⟩

/-- A worker machine moved to another management cluster: its spec came
along, its status did not. -/
def movedKubevirtMachine : KubevirtMachine :=
  { workerKubevirtMachine with providerID := some "kubevirt://worker-0", bootstrapped := true }

theorem reconcileNormal_providerID_set_moved :
    (reconcileNormal (settledAnswers workerContext.cluster) workerContext movedKubevirtMachine
      ⟨workerWorld, []⟩).machine.ready = true :=
  (reconcileNormal_providerID_set _ _ movedKubevirtMachine _ rfl).2.2.2.1

/-- After the move the call reports the machine ready with no addresses and
no `BootstrapExecSucceeded`, where the full pass would have recorded both. -/
theorem reconcileNormal_moved :
    (reconcileNormal (settledAnswers workerContext.cluster) workerContext movedKubevirtMachine
      ⟨workerWorld, []⟩).machine.addresses = [] ∧
    (reconcileNormal (settledAnswers workerContext.cluster) workerContext movedKubevirtMachine
      ⟨workerWorld, []⟩).machine.condition bootstrapExecSucceededCondition = none := by
  decide

end CapkReconciler
