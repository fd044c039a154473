import CapkReconciler.Ownership

/-!
# Convergence when every collaborator answers

What the controller is for: a KubevirtMachine that is not being deleted ends
up with a provider ID. The safety results of the other modules say nothing
of this; here it is shown for runs in which every collaborator answers and
every write succeeds (`Answering`), on a store that holds the Machine's
bootstrap data and the workload cluster's kubeconfig (`Provisionable`).

One call moves the machine one stage on: it adds the finalizer, or creates
the derived Secret, or provisions the VM and sets the provider ID. Creating
the Secret costs a call of its own, because the stage reports failure after
its create lands (`reconcileKubevirtBootstrapSecret_fresh`).

- `provisionVM_registers`: under answering collaborators, provisioning sets
  the provider ID the workload cluster returns.
- `reconcile_step_progress`: one call on a machine without a provider ID adds
  the finalizer, creates the derived Secret, or sets the provider ID.
- `run_converges`, `reconcile_converges`: so three calls always suffice, and
  a machine with neither the finalizer nor the derived Secret needs all three.
-/

namespace CapkReconciler

/-- Answers under which every collaborator answers and every write succeeds,
for the objects `c` in a Cluster whose infrastructure is ready; the workload
cluster gives the provider ID `pid`. -/
structure Answering (a : Answers) (c : MachineContext) (keys : SshKeys) (pid : String) : Prop where
  kubevirtMachine : a.kubevirtMachineFault = none
  ownerMachine : a.ownerMachine = .ok (some c.machine)
  cluster : a.cluster = .ok (some c.cluster)
  kubevirtCluster : ∀ k, a.kubevirtCluster k = .ok c.kubevirtCluster
  newHelper : ∀ site, a.newHelper site = none
  patch : ∀ site, a.patch site = none
  secrets : a.secrets = SecretFaults.none
  sshKeysPersisted : a.sshKeysPersisted = true
  sshKeys : a.sshKeys = .ok keys
  newMachine : a.newMachine = none
  createVM : a.createVM = none
  isBooted : ∀ exec, a.isBooted exec = true
  isBootstrapped : ∀ exec, a.isBootstrapped exec = true
  restConfig : ∀ b, a.restConfig b = none
  newClient : a.newClient = none
  setProviderID : a.setProviderID = .ok pid
  infrastructureReady : c.cluster.infrastructureReady = true

/-- A store holding what provisioning reads: the Machine's bootstrap data
Secret with its `value`, and the workload cluster's kubeconfig. -/
structure Provisionable (c : MachineContext) (w : World) : Prop where
  dataSecretName : ∃ dsn, c.machine.dataSecretName = some dsn ∧
    ∃ sec v, w.secrets.lookup ⟨c.machine.ns, dsn⟩ = some sec ∧ sec.data.lookup "value" = some v
  kubeconfig : ∃ sec v, w.secrets.lookup ⟨c.kubevirtCluster.ns, c.kubevirtCluster.name ++ "-kubeconfig"⟩ =
    some sec ∧ sec.data.lookup "value" = some v

/-- The store only gains Secrets, so it stays provisionable. -/
theorem Provisionable.of_kept {c : MachineContext} {w w' : World} (h : Provisionable c w)
    (hk : ∀ k sec, w.secrets.lookup k = some sec → w'.secrets.lookup k = some sec) :
    Provisionable c w' := by
  obtain ⟨⟨dsn, hd, sec, v, hs, hv⟩, ⟨sec', v', hs', hv'⟩⟩ := h
  exact ⟨⟨dsn, hd, sec, v, hk _ _ hs, hv⟩, ⟨sec', v', hk _ _ hs', hv'⟩⟩

/-! ## Provisioning sets the provider ID -/

section Registers

variable {a : Answers} {c : MachineContext} {keys : SshKeys} {pid : String}

@[simp] theorem Effect.secrets_apply_newMachine (vm : ObjectKey) (w : World) :
    (Effect.apply (.newMachine vm) w).secrets = w.secrets := rfl

@[simp] theorem Effect.secrets_apply_createVM (vm : ObjectKey) (ok : Bool) (w : World) :
    (Effect.apply (.createVM vm ok) w).secrets = w.secrets := by
  cases ok <;> rfl

theorem reconcileWorkloadClusterClient_congr (a : Answers) (kc : KubevirtCluster) {w w' : World}
    (h : w'.secrets = w.secrets) :
    reconcileWorkloadClusterClient a kc w' = reconcileWorkloadClusterClient a kc w := by
  simp only [reconcileWorkloadClusterClient, getKubeconfigForWorkloadCluster, getSecret, h]

/-- The workload cluster's client is built from the kubeconfig in the store. -/
theorem reconcileWorkloadClusterClient_ok (ha : Answering a c keys pid) {w : World}
    (hw : Provisionable c w) : reconcileWorkloadClusterClient a c.kubevirtCluster w = .ok () := by
  obtain ⟨sec, v, hs, hv⟩ := hw.kubeconfig
  simp [reconcileWorkloadClusterClient, getKubeconfigForWorkloadCluster, getSecret, ha.secrets,
    SecretFaults.none, hs, hv, ha.restConfig, ha.newClient]

theorem patchNodeProviderID_registers (ha : Answering a c keys pid) (km : KubevirtMachine) {s : Sys}
    (hw : Provisionable c s.world) : (patchNodeProviderID a c km s).machine.providerID = some pid := by
  simp [patchNodeProviderID, reconcileWorkloadClusterClient_ok ha hw, ha.setProviderID]

theorem waitForBootstrap_registers (ha : Answering a c keys pid) (km : KubevirtMachine)
    (exec : VMCommandExecutor) {s : Sys} (hw : Provisionable c s.world) :
    (waitForBootstrap a c km exec s).machine.providerID = some pid := by
  rw [waitForBootstrap_ready s (by simp [ha.isBootstrapped])]
  exact patchNodeProviderID_registers ha _ hw

theorem markProvisioned_registers (ha : Answering a c keys pid) (km : KubevirtMachine)
    (exec : VMCommandExecutor) {s : Sys} (hw : Provisionable c s.world) :
    (markProvisioned a c km exec s).machine.providerID = some pid := by
  cases hb : Conditions.has bootstrapExecSucceededCondition
      (km.markTrue a.now vmProvisionedCondition).conditions
  · rw [markProvisioned_absent c km exec s (ha.newHelper _) hb, ha.patch]
    exact waitForBootstrap_registers ha _ exec (hw.of_kept fun _ _ h => by simpa [Effect.secrets_apply_patch])
  · rw [markProvisioned_present c km exec s (ha.newHelper _) hb]
    exact waitForBootstrap_registers ha _ exec hw

/-- Under answering collaborators, provisioning creates the VM if need be,
waits for nothing, and sets the provider ID the workload cluster returns. -/
theorem provisionVM_registers (ha : Answering a c keys pid) (km : KubevirtMachine) {s : Sys}
    (hw : Provisionable c s.world) : (provisionVM a c km keys s).machine.providerID = some pid := by
  cases hv : s.world.virtualMachines km.key
  · rw [provisionVM_of_novm c keys ha.newMachine hv, ha.createVM]
    simp only [ha.isBooted, Bool.not_true]
    exact markProvisioned_registers ha _ _ (hw.of_kept fun _ _ h => by simpa)
  · rw [provisionVM_of_vm c keys ha.newMachine hv]
    simp only [ha.isBooted, Bool.not_true]
    exact markProvisioned_registers ha _ _ (hw.of_kept fun _ _ h => by simpa)

end Registers

/-! ## One call -/

/-- Whether the derived Secret of the Machine, if it names bootstrap data, is
in the store. -/
def userdataPresent (c : MachineContext) (w : World) : Bool :=
  match c.machine.dataSecretName with
  | some dsn => (w.secrets.lookup (userdataKey c.machine dsn)).isSome
  | none => true

theorem userdataPresent_congr (c : MachineContext) {w w' : World} (h : w'.secrets = w.secrets) :
    userdataPresent c w' = userdataPresent c w := by
  simp only [userdataPresent, h]

theorem userdataPresent_kept (c : MachineContext) {w w' : World}
    (hk : ∀ k sec, w.secrets.lookup k = some sec → w'.secrets.lookup k = some sec)
    (h : userdataPresent c w = true) : userdataPresent c w' = true := by
  unfold userdataPresent at h ⊢
  split
  · rename_i hd
    rw [hd, Option.isSome_iff_exists] at h
    exact Option.isSome_iff_exists.mpr (h.imp fun sec => hk _ sec)
  · rfl

/-- The stages a machine has left before provisioning: the finalizer, and
the derived Secret. -/
def pending (c : MachineContext) (w : World) (m : KubevirtMachine) : Nat :=
  (if machineFinalizer ∈ m.finalizers then 0 else 1) + (if userdataPresent c w then 0 else 1)

theorem pending_le_two (c : MachineContext) (w : World) (m : KubevirtMachine) : pending c w m ≤ 2 := by
  unfold pending
  split <;> split <;> omega

section Call

variable {a : Answers} {c : MachineContext} {keys : SshKeys} {pid : String} {req : ObjectKey}
  {w : World} {km : KubevirtMachine}

/-- Under answering collaborators a call persists the machine that
`reconcileBranch` leaves. -/
theorem reconcile_answering (ha : Answering a c keys pid) (hk : w.kubevirtMachines.lookup req = some km) :
    reconcile a req w = deferredPatch a (reconcileBranch a c km ⟨w, []⟩) ∧
      (reconcile a req w).sys.world.kubevirtMachines.lookup req =
        some (reconcileBranch a c km ⟨w, []⟩).machine := by
  have heq := reconcile_of_loaded ha.kubevirtMachine hk ha.ownerMachine ha.cluster
    (ha.kubevirtCluster _) (ha.newHelper _)
  refine ⟨heq, ?_⟩
  rw [heq]
  exact (deferredPatch_landed (ha.patch _) ((reconcileBranch_evolves a c km _).key.trans
    (by simpa using w.kubevirtMachines.lookup_key hk))).2

/-- A set provider ID survives a call. -/
theorem reconcile_keeps_providerID (ha : Answering a c keys pid) (hk : w.kubevirtMachines.lookup req = some km)
    (hp : km.providerID.isSome = true) :
    ∃ m, (reconcile a req w).sys.world.kubevirtMachines.lookup req = some m ∧ m.providerID = km.providerID :=
  ⟨_, (reconcile_answering ha hk).2, (reconcileBranch_evolves a c km _).providerID hp⟩

/-- **Step lemma**: one call on a machine without a provider ID sets the
provider ID, or leaves one stage fewer: it adds the finalizer, or creates the
derived Secret. -/
theorem reconcile_step_progress (ha : Answering a c keys pid) (hw : Provisionable c w)
    (hk : w.kubevirtMachines.lookup req = some km) (hp : km.providerID = none)
    (hdel : km.deletionTimestamp = none) :
    ∃ m, (reconcile a req w).sys.world.kubevirtMachines.lookup req = some m ∧
      (m.providerID = some pid ∨
        m.deletionTimestamp = none ∧ pending c (reconcile a req w).sys.world m < pending c w km) := by
  obtain ⟨heq, hm⟩ := reconcile_answering ha hk
  refine ⟨_, hm, ?_⟩
  simp only [pending]
  obtain ⟨dsn, hd, gsec, v, hg, hv⟩ := hw.dataSecretName
  rcases reconcileBranch_cases a c km ⟨w, []⟩ with
    ⟨hf, hb⟩ | ⟨-, hr, -⟩ | ⟨-, -, hdel', -⟩ | ⟨hf, -, -, hb⟩
  · -- the finalizer gate adds the finalizer, and the derived Secret stays
    have hkept : userdataPresent c w = true → userdataPresent c (reconcile a req w).sys.world = true :=
      userdataPresent_kept c fun _ _ h => reconcile_secrets_kept a req w h
    have hle : (if userdataPresent c (reconcile a req w).sys.world = true then 0 else 1) ≤
        (if userdataPresent c w = true then 0 else 1) := by
      cases h₁ : userdataPresent c w
      · split <;> simp
      · simp [hkept h₁]
    rw [hb]
    refine .inr ⟨hdel, ?_⟩
    simp only [mem_addFinalizer, or_true, if_true, hf, if_false]
    omega
  · rw [ha.infrastructureReady] at hr
    cases hr
  · rw [hdel] at hdel'
    cases hdel'
  · have hsec : (reconcile a req w).sys.world.secrets = (reconcileNormal a c km ⟨w, []⟩).sys.world.secrets := by
      rw [heq, deferredPatch_eq, Sys.emit_world, Effect.secrets_apply_patch, hb]
    rw [hb, userdataPresent_congr c hsec]
    have hfaults : ∀ k, a.secrets.get k = none ∧ a.secrets.create k = none := fun k => by
      simp [ha.secrets, SecretFaults.none]
    rw [reconcileNormal_of_keys ⟨w, []⟩ hp hd ha.sshKeysPersisted ha.sshKeys]
    rcases hK : w.secrets.lookup (userdataKey c.machine dsn) with _ | x
    · -- the derived Secret is created, and the stage fails
      obtain ⟨e, hs⟩ := reconcileKubevirtBootstrapSecret_fresh a.secrets c km ⟨w, []⟩ hd
        (hfaults _).1 hK (hfaults _).1 hg hv (hfaults _).2
      rw [hs]
      refine .inr ⟨hdel, ?_⟩
      simp [hf, userdataPresent, hd, hK, Effect.apply]
    · -- the derived Secret is there: provisioning sets the provider ID
      rw [reconcileKubevirtBootstrapSecret_of_found km hd
        (show getSecret a.secrets (Sys.mk w []).world _ = .ok x by simp [getSecret, hfaults, hK])]
      exact .inl (provisionVM_registers ha km hw)

end Call

/-! ## Runs -/

section Run

variable {a : Answers} {c : MachineContext} {keys : SshKeys} {pid : String} {req : ObjectKey}

/-- Repeated calls keep a set provider ID. -/
theorem run_keeps_providerID (ha : Answering a c keys pid) (n : Nat) :
    ∀ (w : World) (km : KubevirtMachine), w.kubevirtMachines.lookup req = some km → km.providerID.isSome = true →
      ∃ m, (w.run (List.replicate n (.reconcile a req))).kubevirtMachines.lookup req = some m ∧
        m.providerID.isSome = true := by
  induction n with
  | zero => exact fun w km hk hp => ⟨km, hk, hp⟩
  | succ n ih =>
    intro w km hk hp
    obtain ⟨m, hm, hmp⟩ := reconcile_keeps_providerID ha hk hp
    exact ih _ m hm (by rw [hmp]; exact hp)

/-- **Run lemma**: more calls than stages left end with a provider ID. -/
theorem run_converges (ha : Answering a c keys pid) (n : Nat) :
    ∀ (w : World) (km : KubevirtMachine), Provisionable c w → w.kubevirtMachines.lookup req = some km →
      km.deletionTimestamp = none → pending c w km < n →
      ∃ m, (w.run (List.replicate n (.reconcile a req))).kubevirtMachines.lookup req = some m ∧
        m.providerID.isSome = true := by
  induction n with
  | zero => exact fun _ _ _ _ _ h => absurd h (Nat.not_lt_zero _)
  | succ n ih =>
    intro w km hw hk hdel hn
    cases hp : km.providerID with
    | some p => exact run_keeps_providerID ha (n + 1) w km hk (by simp [hp])
    | none =>
      obtain ⟨m, hm, hpid | ⟨hdel', hlt⟩⟩ := reconcile_step_progress ha hw hk hp hdel
      · exact run_keeps_providerID ha n _ m hm (by simp [hpid])
      · exact ih _ m (hw.of_kept fun _ _ h => reconcile_secrets_kept a req w h) hm hdel'
          (by change pending c (reconcile a req w).sys.world m < n; omega)

/-- Under answering collaborators, on a store with the Machine's bootstrap
data and the workload kubeconfig, three calls give a KubevirtMachine that is
not being deleted a provider ID: one adds the finalizer, one creates the
derived Secret, and one provisions. -/
theorem reconcile_converges (ha : Answering a c keys pid) {w : World} {km : KubevirtMachine}
    (hw : Provisionable c w) (hk : w.kubevirtMachines.lookup req = some km)
    (hdel : km.deletionTimestamp = none) :
    ∃ m, (w.run (List.replicate 3 (.reconcile a req))).kubevirtMachines.lookup req = some m ∧
      m.providerID.isSome = true :=
  run_converges ha 3 w km hw hk hdel (by have := pending_le_two c w km; omega)

end Run

/-- The workload cluster's kubeconfig for `workerContext`. -/
def kubeconfigSecret : Secret := ⟨"c-kubeconfig", "default", "", [("value", [1])], []⟩

/-- The worker before its first call: no finalizer, no derived Secret. -/
def readyWorld : World :=
  ⟨Store.ofList [{ workerKubevirtMachine with finalizers := [] }],
    Store.ofList [genericBootstrapSecret, kubeconfigSecret], fun _ => false⟩

theorem reconcile_converges_worker :
    ∃ m, (readyWorld.run (List.replicate 3
        (.reconcile (settledAnswers workerContext.cluster) ⟨"default", "worker-0"⟩))).kubevirtMachines.lookup
        ⟨"default", "worker-0"⟩ = some m ∧ m.providerID.isSome = true :=
  reconcile_converges
    (show Answering (settledAnswers workerContext.cluster) workerContext ⟨[], []⟩ "kubevirt://worker-0" from
      ⟨rfl, rfl, rfl, fun _ => rfl, fun _ => rfl, fun _ => rfl, rfl, rfl, rfl, rfl, rfl, fun _ => rfl,
        fun _ => rfl, fun _ => rfl, rfl, rfl, rfl⟩)
    ⟨⟨"worker-0-bootstrap", rfl, genericBootstrapSecret, [35], by decide, rfl⟩,
      ⟨kubeconfigSecret, [1], by decide, rfl⟩⟩
    (show _ = some { workerKubevirtMachine with finalizers := [] } by decide) rfl

/-- Two calls are not enough for the worker: the second one only creates the
derived Secret. -/
example : ((readyWorld.run (List.replicate 2 (.reconcile (settledAnswers workerContext.cluster)
    ⟨"default", "worker-0"⟩))).kubevirtMachines.lookup ⟨"default", "worker-0"⟩).bind
      KubevirtMachine.providerID = none := by
  decide

end CapkReconciler
