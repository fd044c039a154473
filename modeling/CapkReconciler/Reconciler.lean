import CapkReconciler.BootstrapSecret

/-!
# `Reconcile`, `reconcileNormal` and `reconcileDelete`

Lines 63–329 of the controller, one reconciliation as a function of what its
collaborators answer (`Answers`) and of the API objects it starts from.

- `reconcile` (lines 64–160): load the KubevirtMachine, its Machine, Cluster
  and KubevirtCluster; install the deferred patch; then `reconcileBranch`.
- `reconcileBranch` (lines 140–159): the finalizer gate, the wait for cluster
  infrastructure, and the choice between deletion and convergence.
- `reconcileNormal` (lines 162–206), continued by `provisionVM` (208–232),
  `markProvisioned` (234–252), `waitForBootstrap` (254–281) and
  `patchNodeProviderID` (283–310); the split follows the comments of the
  source and changes nothing of its order.
- `reconcileDelete` (lines 313–329).

The VM handle (`pkg/kubevirt`) and the SSH key helpers (`pkg/ssh`) are not in
the sources; they answer through the interfaces of the spec's §6. The in-memory
KubevirtMachine the code mutates through `ctx.KubevirtMachine` is returned in
every `Outcome`, and the deferred patch persists the one `reconcileBranch`
leaves.
-/

namespace CapkReconciler

/-- Modelled from the spec: the cluster's SSH key pair, as
`ssh.ClusterNodeSshKeys` holds it once fetched. -/
structure SshKeys where
  publicKey : Bytes
  privateKey : Bytes
deriving DecidableEq, Repr

/-- Modelled from the spec: `ssh.VMCommandExecutor`, built from the VM's
address and the cluster's key pair. -/
structure VMCommandExecutor where
  ipAddress : String
  publicKey : Bytes
  privateKey : Bytes
deriving DecidableEq, Repr

/-- What the collaborators of one reconciliation answer. The Machine, Cluster
and KubevirtCluster belong to other controllers and are read as they stand;
the SSH key secret, the VM handle and the workload cluster answer through the
interfaces of the spec's §6. -/
structure Answers where
  /-- The clock `conditions.Set` reads. -/
  now : Nat
  /-- A failure of the KubevirtMachine `Get` other than its absence. -/
  kubevirtMachineFault : Option GoError
  /-- `util.GetOwnerMachine`. -/
  ownerMachine : Except GoError (Option Machine)
  /-- `util.GetClusterFromMetadata`. -/
  cluster : Except GoError (Option Cluster)
  /-- `r.Client.Get` of the KubevirtCluster, by key. -/
  kubevirtCluster : ObjectKey → Except GoError KubevirtCluster
  /-- `patch.NewHelper` at each site. -/
  newHelper : PatchSite → Option GoError
  /-- `patchHelper.Patch` at each site. -/
  patch : PatchSite → Option GoError
  /-- Failures of Secret requests. -/
  secrets : SecretFaults
  /-- `IsPersistedToSecret`. -/
  sshKeysPersisted : Bool
  /-- `FetchPersistedKeysFromSecret`. -/
  sshKeys : Except GoError SshKeys
  /-- `kubevirthandler.NewMachine`. -/
  newMachine : Option GoError
  /-- `externalMachine.Create`. -/
  createVM : Option GoError
  /-- `externalMachine.Address`. -/
  address : String
  /-- `externalMachine.IsBooted`. -/
  isBooted : VMCommandExecutor → Bool
  /-- `externalMachine.IsBootstrapped`. -/
  isBootstrapped : VMCommandExecutor → Bool
  /-- `clientcmd.RESTConfigFromKubeConfig`. -/
  restConfig : Bytes → Option GoError
  /-- `client.New` for the workload cluster. -/
  newClient : Option GoError
  /-- `externalMachine.SetProviderID`. -/
  setProviderID : Except GoError String

/-- Where a stage leaves a reconciliation: the `ctrl.Result` and error it
returns, the in-memory KubevirtMachine, and the API objects and effects. -/
structure Outcome where
  result : Result
  err : Option GoError
  machine : KubevirtMachine
  sys : Sys

/-! ## The workload cluster client (lines 462–501) -/

/-- `getKubeconfigForWorkloadCluster`: the `value` of the Secret
`<kubevirtCluster>-kubeconfig`. -/
def getKubeconfigForWorkloadCluster (fl : SecretFaults) (kc : KubevirtCluster) (w : World) :
    Except GoError Bytes :=
  match getSecret fl w ⟨kc.ns, kc.name ++ "-kubeconfig"⟩ with
  | .error e => .error (.wrap "failed to fetch kubeconfig for workload cluster" e)
  | .ok sec =>
    match sec.data.lookup "value" with
    | none => .error (.new "error retrieving kubeconfig data: secret value key is missing")
    | some value => .ok value

/-- `reconcileWorkloadClusterClient`; the client itself is opaque. -/
def reconcileWorkloadClusterClient (a : Answers) (kc : KubevirtCluster) (w : World) :
    Except GoError Unit :=
  match getKubeconfigForWorkloadCluster a.secrets kc w with
  | .error e => .error (.wrap "failed to get kubeconfig for workload cluster" e)
  | .ok kubeConfig =>
    match a.restConfig kubeConfig with
    | some e => .error (.wrap "failed to create REST config" e)
    | none =>
      match a.newClient with
      | some e => .error (.wrap "failed to create workload cluster client" e)
      | none => .ok ()

/-! ## `reconcileNormal` -/

/-- `util.IsControlPlaneMachine`: the control-plane label is present. -/
def isControlPlaneMachine (m : Machine) : Bool :=
  (m.labels.lookup "cluster.x-k8s.io/control-plane").isSome

/-- Modelled from the spec: `externalMachine.Create`, which creates the
VirtualMachine of the KubevirtMachine, keyed by its name. -/
def createVM (fault : Option GoError) (vm : ObjectKey) (s : Sys) : Option GoError × Sys :=
  match fault with
  | some e => (some e, s.emit (.createVM vm false))
  | none => (none, s.emit (.createVM vm true))

theorem createVM_eq (fault : Option GoError) (vm : ObjectKey) (s : Sys) :
    createVM fault vm s = (fault, s.emit (.createVM vm fault.isNone)) := by
  cases fault <;> rfl

/-- Lines 283–310: build the workload cluster client, register the provider
ID, and mark the machine ready. -/
def patchNodeProviderID (a : Answers) (c : MachineContext) (km : KubevirtMachine) (s : Sys) :
    Outcome :=
  match reconcileWorkloadClusterClient a c.kubevirtCluster s.world with
  | .error _ => ⟨{ requeueAfter := 10 }, none, km, s⟩
  | .ok () =>
    match a.setProviderID with
    | .error _ => ⟨{ requeueAfter := 5 }, none, km, s.emit (.setProviderID false)⟩
    | .ok providerID =>
      ⟨{}, none, { km with providerID := some providerID, ready := true }.markTrue a.now
        vmProvisionedCondition, s.emit (.setProviderID true)⟩

/-- Lines 254–281: wait for the VM to bootstrap (probing only while
`Spec.Bootstrapped` is false), then report it and the VM's addresses. -/
def waitForBootstrap (a : Answers) (c : MachineContext) (km : KubevirtMachine)
    (exec : VMCommandExecutor) (s : Sys) : Outcome :=
  if !km.bootstrapped && !a.isBootstrapped exec then
    ⟨{ requeueAfter := 10 }, none, km.markFalse a.now bootstrapExecSucceededCondition
      bootstrapFailedReason .warning "VM not bootstrapped yet", s⟩
  else
    let km := { km with bootstrapped := true }.markTrue a.now bootstrapExecSucceededCondition
    patchNodeProviderID a c
      { km with addresses := [⟨.hostName, km.name⟩, ⟨.internalIP, a.address⟩, ⟨.externalIP, a.address⟩] } s

/-- Lines 214–220: create the VM unless the handle found one. -/
def ensureVM (a : Answers) (km : KubevirtMachine) (s : Sys) : Option GoError × Sys :=
  if s.world.virtualMachines km.key then (none, s) else createVM a.createVM km.key s

/-- Lines 234–252: mark `VMProvisioned`; when `BootstrapExecSucceeded` is
missing, set it to `Bootstrapping` and patch at once. -/
def markProvisioned (a : Answers) (c : MachineContext) (km : KubevirtMachine)
    (exec : VMCommandExecutor) (s : Sys) : Outcome :=
  match a.newHelper .reconcileNormal with
  | some e => ⟨{}, some e, km, s⟩
  | none =>
    let km := km.markTrue a.now vmProvisionedCondition
    if !Conditions.has bootstrapExecSucceededCondition km.conditions then
      let km := km.markFalse a.now bootstrapExecSucceededCondition bootstrappingReason .info ""
      match patchKubevirtMachine (a.patch .reconcileNormal) .reconcileNormal km s with
      | (some e, s) => ⟨{}, some (.wrap "failed to patch KubevirtMachine" e), km, s⟩
      | (none, s) => waitForBootstrap a c km exec s
    else waitForBootstrap a c km exec s

/-- Lines 208–232: fetch the VM handle, create the VM unless it exists, and
wait for it to boot. -/
def provisionVM (a : Answers) (c : MachineContext) (km : KubevirtMachine) (keys : SshKeys)
    (s : Sys) : Outcome :=
  let s := s.emit (.newMachine km.key)
  match a.newMachine with
  | some e => ⟨{}, some (.wrap "failed to create helper for managing the externalMachine" e), km, s⟩
  | none =>
    match ensureVM a km s with
    | (some e, s) => ⟨{}, some (.wrap "failed to create VM instance" e), km, s⟩
    | (none, s) =>
      let exec : VMCommandExecutor := ⟨a.address, keys.publicKey, keys.privateKey⟩
      if !a.isBooted exec then ⟨{ requeueAfter := 20 }, none, km, s⟩
      else markProvisioned a c km exec s

/-- `reconcileNormal`: the short-circuit for a provisioned machine, the wait
for bootstrap data, the SSH keys, and the bootstrap-secret stage. -/
def reconcileNormal (a : Answers) (c : MachineContext) (km : KubevirtMachine) (s : Sys) : Outcome :=
  match km.providerID with
  | some _ => ⟨{}, none, { km with ready := true }.markTrue a.now vmProvisionedCondition, s⟩
  | none =>
    match c.machine.dataSecretName with
    | none =>
      if !isControlPlaneMachine c.machine &&
          !Conditions.isTrue controlPlaneInitializedCondition c.cluster.conditions then
        ⟨{}, none, km.markFalse a.now vmProvisionedCondition waitingForControlPlaneAvailableReason
          .info "", s⟩
      else
        ⟨{}, none, km.markFalse a.now vmProvisionedCondition waitingForBootstrapDataReason .info "", s⟩
    | some _ =>
      if !a.sshKeysPersisted then ⟨{ requeueAfter := 10 }, none, km, s⟩ else
      match a.sshKeys with
      | .error e => ⟨{}, some (.wrap "failed to fetch ssh keys for cluster nodes" e), km, s⟩
      | .ok keys =>
        match reconcileKubevirtBootstrapSecret a.secrets c km s with
        | (some _, s) =>
          ⟨{}, none, km.markFalse a.now vmProvisionedCondition waitingForBootstrapDataReason .info "", s⟩
        | (none, s) => provisionVM a c km keys s

/-! ## `reconcileDelete` and `Reconcile` -/

/-- `reconcileDelete`: report `Deleting`, patch, and only then drop the
finalizer. -/
def reconcileDelete (a : Answers) (km : KubevirtMachine) (s : Sys) : Outcome :=
  match a.newHelper .reconcileDelete with
  | some e => ⟨{}, some e, km, s⟩
  | none =>
    let km := km.markFalse a.now vmProvisionedCondition deletingReason .info ""
    match patchKubevirtMachine (a.patch .reconcileDelete) .reconcileDelete km s with
    | (some e, s) => ⟨{}, some (.wrap "failed to patch KubevirtMachine" e), km, s⟩
    | (none, s) => ⟨{}, none, { km with finalizers := removeFinalizer km.finalizers machineFinalizer }, s⟩

/-- Lines 140–159 of `Reconcile`, after the deferred patch is installed. -/
def reconcileBranch (a : Answers) (c : MachineContext) (km : KubevirtMachine) (s : Sys) : Outcome :=
  if !containsFinalizer km.finalizers machineFinalizer then
    ⟨{}, none, { km with finalizers := addFinalizer km.finalizers machineFinalizer }, s⟩
  else if !c.cluster.infrastructureReady then
    ⟨{}, none, km.markFalse a.now vmProvisionedCondition waitingForClusterInfrastructureReason
      .info "", s⟩
  else if km.deletionTimestamp.isSome then reconcileDelete a km s
  else reconcileNormal a c km s

/-- What one call of `Reconcile` returns and leaves behind. -/
structure CallOutcome where
  result : Result
  err : Option GoError
  sys : Sys

/-- The deferred patch of `Reconcile` (lines 131–138): persist the in-memory
KubevirtMachine; the patch error is returned only when there is no earlier
one. -/
def deferredPatch (a : Answers) (o : Outcome) : CallOutcome :=
  match patchKubevirtMachine (a.patch .reconcile) .reconcile o.machine o.sys with
  | (perr, s) => ⟨o.result, match o.err with | some e => some e | none => perr, s⟩

/-- `Reconcile` for the KubevirtMachine under `req`, from the API objects `w`.
The deferred patch runs on every exit past its installation. -/
def reconcile (a : Answers) (req : ObjectKey) (w : World) : CallOutcome :=
  match getKubevirtMachine a.kubevirtMachineFault w req with
  | .error e => ⟨{}, if e.isNotFound then none else some e, ⟨w, []⟩⟩
  | .ok km =>
    match a.ownerMachine with
    | .error e => ⟨{}, some e, ⟨w, []⟩⟩
    | .ok none => ⟨{}, none, ⟨w, []⟩⟩
    | .ok (some machine) =>
      match a.cluster with
      | .error e => ⟨{}, some e, ⟨w, []⟩⟩
      | .ok none => ⟨{}, none, ⟨w, []⟩⟩
      | .ok (some cluster) =>
        match a.kubevirtCluster ⟨km.ns, cluster.infrastructureRefName⟩ with
        | .error _ => ⟨{}, none, ⟨w, []⟩⟩
        | .ok kc =>
          match a.newHelper .reconcile with
          | some e => ⟨{}, some e, ⟨w, []⟩⟩
          | none => deferredPatch a (reconcileBranch a ⟨cluster, kc, machine⟩ km ⟨w, []⟩)

end CapkReconciler
