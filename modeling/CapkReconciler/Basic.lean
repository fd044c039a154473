import Mathlib.Data.List.Basic

/-!
# The objects the KubevirtMachine controller reads and writes

A shallow embedding of the data model of
`controllers/kubevirtmachine_controller.go`. Go structs become flat Lean
structures that keep only the fields some modelled function reads or writes;
the Go path of every field is in its docstring.

- `ObjectKey`, `OwnerReference`, `Secret`: the Kubernetes core types the
  bootstrap-secret stage touches.
- `KubevirtMachine`: the reconciled object, `Spec` and `Status` flattened.
- `Machine`, `Cluster`, `KubevirtCluster`: the objects the controller only reads.
- `GoError`: Go errors as built by `errors.New`, `errors.Wrap` and the API
  server, with `apierrors.IsNotFound` seeing through wraps as `errors.As` does.

Byte payloads are `Bytes` (a list of octets). Durations are whole seconds.
-/

namespace CapkReconciler

/-- `[]byte`. -/
abbrev Bytes := List UInt8

/-- `client.ObjectKey`: a namespace and a name (`ns` stands for the Go
field `Namespace`, a keyword in Lean). -/
structure ObjectKey where
  ns : String
  name : String
deriving DecidableEq, Repr

/-- `metav1.OwnerReference`, with the four fields the controller sets. -/
structure OwnerReference where
  apiVersion : String
  kind : String
  name : String
  uid : String
deriving DecidableEq, Repr

/-- `corev1.Secret`: metadata, `Type` and `Data`. -/
structure Secret where
  name : String
  ns : String
  type : String
  data : List (String × Bytes)
  ownerReferences : List OwnerReference
deriving DecidableEq, Repr

/-- The key of a Secret. -/
def Secret.key (s : Secret) : ObjectKey := ⟨s.ns, s.name⟩

/-! ## Conditions and addresses (`cluster-api/api/v1alpha4`) -/

/-- `corev1.ConditionStatus`. -/
inductive ConditionStatus
  | true
  | false
  | unknown
deriving DecidableEq, Repr

/-- `clusterv1.ConditionSeverity`; `none` is the empty severity of a `True`
condition. -/
inductive ConditionSeverity
  | none
  | info
  | warning
  | error
deriving DecidableEq, Repr

/-- `clusterv1.Condition`. The transition time is a clock reading in seconds. -/
structure Condition where
  type : String
  status : ConditionStatus
  severity : ConditionSeverity
  reason : String
  message : String
  lastTransitionTime : Nat
deriving DecidableEq, Repr

/-- `clusterv1.MachineAddressType`, the three kinds the controller reports. -/
inductive MachineAddressType
  | hostName
  | internalIP
  | externalIP
deriving DecidableEq, Repr

/-- `clusterv1.MachineAddress`. -/
structure MachineAddress where
  type : MachineAddressType
  address : String
deriving DecidableEq, Repr

/-! ## The reconciled object and the objects it is read with -/

/-- `infrav1.KubevirtMachine`, flattened: object metadata, then
`Spec.ProviderID` and `Spec.Bootstrapped`, then `Status.Ready`,
`Status.Addresses` and `Status.Conditions`. A nil `DeletionTimestamp` is
`none`. -/
structure KubevirtMachine where
  name : String
  ns : String
  uid : String
  apiVersion : String
  kind : String
  finalizers : List String
  deletionTimestamp : Option Nat
  providerID : Option String
  bootstrapped : Bool
  ready : Bool
  addresses : List MachineAddress
  conditions : List Condition
deriving DecidableEq, Repr

/-- The key of a KubevirtMachine. -/
def KubevirtMachine.key (m : KubevirtMachine) : ObjectKey := ⟨m.ns, m.name⟩

/-- `clusterv1.Machine`: metadata with its labels, `Spec.Bootstrap.DataSecretName`
and `Spec.InfrastructureRef.Name`. -/
structure Machine where
  name : String
  ns : String
  labels : List (String × String)
  dataSecretName : Option String
  infrastructureRefName : String
deriving DecidableEq, Repr

/-- `clusterv1.Cluster`: `Spec.InfrastructureRef.Name`,
`Status.InfrastructureReady` and `Status.Conditions`. -/
structure Cluster where
  name : String
  infrastructureRefName : String
  infrastructureReady : Bool
  conditions : List Condition
deriving DecidableEq, Repr

/-- `infrav1.KubevirtCluster`: its metadata. -/
structure KubevirtCluster where
  name : String
  ns : String
deriving DecidableEq, Repr

/-- `context.MachineContext`: the objects one reconciliation works on. The
KubevirtMachine is kept apart, since the code mutates it in place. -/
structure MachineContext where
  cluster : Cluster
  kubevirtCluster : KubevirtCluster
  machine : Machine
deriving DecidableEq, Repr

/-- `ctrl.Result`; the controller only ever sets `RequeueAfter`. -/
structure Result where
  requeueAfter : Nat := 0
deriving DecidableEq, Repr

/-! ## Errors -/

/-- `metav1.StatusReason` of an API error, as far as the controller tells
them apart. -/
inductive StatusReason
  | notFound
  | alreadyExists
  | other
deriving DecidableEq, Repr

/-- A Go `error`: an API status error, `errors.New`, or `errors.Wrap` of a
cause. -/
inductive GoError
  | status (reason : StatusReason) (message : String)
  | new (message : String)
  | wrap (message : String) (cause : GoError)
deriving DecidableEq, Repr

/-- `apierrors.IsNotFound`, which unwraps like `errors.As`. -/
def GoError.isNotFound : GoError → Bool
  | .status r _ => r == .notFound
  | .new _ => false
  | .wrap _ e => e.isNotFound

/-- The `NotFound` error the API server returns for an absent object. -/
def notFound (resource : String) (k : ObjectKey) : GoError :=
  .status .notFound (resource ++ " \"" ++ k.name ++ "\" not found")

/-- The `AlreadyExists` error the API server returns on a create over an
existing object. -/
def alreadyExists (resource : String) (k : ObjectKey) : GoError :=
  .status .alreadyExists (resource ++ " \"" ++ k.name ++ "\" already exists")

@[simp] theorem notFound_isNotFound (r : String) (k : ObjectKey) :
    (notFound r k).isNotFound = true := rfl

end CapkReconciler
