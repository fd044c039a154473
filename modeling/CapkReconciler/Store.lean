import CapkReconciler.Conditions

/-!
# The API store, its faults, and the side effects of a reconciliation

The management cluster's API as the controller sees it through `r.Client`.

- `Store α`: one kind of object, a lookup by key that only ever answers with
  an object filed under its own key (`Store.lookup_key`), so a stored Secret's
  name is the name it was fetched by.
- `World`: the KubevirtMachines, the Secrets and the VirtualMachines that exist.
- `Effect`: every write the controller issues (and the fetch of the VM handle),
  with whether it succeeded. A reconciliation threads a `Sys`, the world and
  the effects so far, and every change to the world goes through `Sys.emit`,
  so the world after a call is its world before with the call's successful
  writes applied in order.
- `SecretFaults`: the failures the API server may answer a Secret request with
  besides `NotFound` and `AlreadyExists`. They are a function of the request:
  the same request in the same call gets the same answer.
- `getSecret`, `createSecret`, `updateSecret` and `createOrUpdate`
  (`controllerutil.CreateOrUpdate`, whose mutate function may itself call the
  API, as the bootstrap-secret stage's does).
-/

namespace CapkReconciler

/-- Objects the API server files under a key of their own. -/
class Keyed (α : Type) where
  key : α → ObjectKey

instance : Keyed Secret := ⟨Secret.key⟩

instance : Keyed KubevirtMachine := ⟨KubevirtMachine.key⟩

@[simp] theorem Keyed.key_secret (s : Secret) : Keyed.key s = s.key := rfl

@[simp] theorem Keyed.key_kubevirtMachine (m : KubevirtMachine) : Keyed.key m = m.key := rfl

/-- One kind of object in the API store. The lookup only ever returns an
object filed under its own key. -/
structure Store (α : Type) [Keyed α] where
  lookup : ObjectKey → Option α
  lookup_key : ∀ {k a}, lookup k = some a → Keyed.key a = k

namespace Store

variable {α : Type} [Keyed α]

/-- The store with nothing in it. -/
def empty : Store α := ⟨fun _ => none, fun h => nomatch h⟩

/-- A create, update or patch: `a` filed under its own key. -/
def put (s : Store α) (a : α) : Store α where
  lookup k := if Keyed.key a = k then some a else s.lookup k
  lookup_key {k b} h := by
    by_cases hk : Keyed.key a = k
    · simp only [hk, if_true, Option.some.injEq] at h
      exact h ▸ hk
    · simp only [hk, if_false] at h
      exact s.lookup_key h

/-- The object under `k` removed. -/
def erase (s : Store α) (k : ObjectKey) : Store α where
  lookup k' := if k = k' then none else s.lookup k'
  lookup_key {k' b} h := by
    by_cases hk : k = k'
    · simp [hk] at h
    · simp only [hk, if_false] at h
      exact s.lookup_key h

/-- A store holding a list of objects, the first of a key winning. -/
def ofList (as : List α) : Store α where
  lookup k := as.find? (fun a => Keyed.key a = k)
  lookup_key h := by simpa using List.find?_some h

@[simp] theorem lookup_put (s : Store α) (a : α) (k : ObjectKey) :
    (s.put a).lookup k = if Keyed.key a = k then some a else s.lookup k := rfl

@[simp] theorem lookup_erase (s : Store α) (k k' : ObjectKey) :
    (s.erase k).lookup k' = if k = k' then none else s.lookup k' := rfl

end Store

/-- The API objects the controller reads and writes. A VirtualMachine is known
only by whether one exists under a key. -/
structure World where
  kubevirtMachines : Store KubevirtMachine
  secrets : Store Secret
  virtualMachines : ObjectKey → Bool

/-- Where a KubevirtMachine patch is issued: the deferred patch of `Reconcile`,
the patch before bootstrapping in `reconcileNormal`, and the patch before the
finalizer is removed in `reconcileDelete`. -/
inductive PatchSite
  | reconcile
  | reconcileNormal
  | reconcileDelete
deriving DecidableEq, Repr

/-- A side effect a reconciliation issues, with whether the API accepted it. -/
inductive Effect
  | patch (site : PatchSite) (m : KubevirtMachine) (ok : Bool)
  | createSecret (s : Secret) (ok : Bool)
  | updateSecret (s : Secret) (ok : Bool)
  | newMachine (vm : ObjectKey)
  | createVM (vm : ObjectKey) (ok : Bool)
  | setProviderID (ok : Bool)
deriving DecidableEq, Repr

/-- What an effect does to the world: successful writes land, the rest
change nothing. -/
def Effect.apply : Effect → World → World
  | .patch _ m true, w => { w with kubevirtMachines := w.kubevirtMachines.put m }
  | .createSecret s true, w => { w with secrets := w.secrets.put s }
  | .updateSecret s true, w => { w with secrets := w.secrets.put s }
  | .createVM vm true, w =>
    { w with virtualMachines := fun k => if k = vm then true else w.virtualMachines k }
  | _, w => w

/-- A reconciliation in progress: the world as it stands and the effects
issued so far, oldest first. -/
structure Sys where
  world : World
  effects : List Effect

/-- Issue an effect. -/
def Sys.emit (s : Sys) (e : Effect) : Sys := ⟨e.apply s.world, s.effects ++ [e]⟩

@[simp] theorem Sys.emit_world (s : Sys) (e : Effect) : (s.emit e).world = e.apply s.world := rfl

@[simp] theorem Sys.emit_effects (s : Sys) (e : Effect) :
    (s.emit e).effects = s.effects ++ [e] := rfl

/-! ## Secrets through `r.Client` -/

/-- Failures the API server may answer a Secret request with, besides
`NotFound` and `AlreadyExists`. -/
structure SecretFaults where
  get : ObjectKey → Option GoError
  create : ObjectKey → Option GoError
  update : ObjectKey → Option GoError

/-- No injected failure. -/
def SecretFaults.none : SecretFaults := ⟨fun _ => .none, fun _ => .none, fun _ => .none⟩

/-- `client.Get` of a Secret. -/
def getSecret (f : SecretFaults) (w : World) (k : ObjectKey) : Except GoError Secret :=
  match f.get k with
  | some e => .error e
  | none =>
    match w.secrets.lookup k with
    | some s => .ok s
    | none => .error (notFound "secrets" k)

/-- `client.Create` of a Secret: refused over an existing one. -/
def createSecret (f : SecretFaults) (obj : Secret) (s : Sys) : Option GoError × Sys :=
  match f.create obj.key with
  | some e => (some e, s.emit (.createSecret obj false))
  | none =>
    match s.world.secrets.lookup obj.key with
    | some _ => (some (alreadyExists "secrets" obj.key), s.emit (.createSecret obj false))
    | none => (none, s.emit (.createSecret obj true))

/-- `client.Update` of a Secret: refused when there is none to update. -/
def updateSecret (f : SecretFaults) (obj : Secret) (s : Sys) : Option GoError × Sys :=
  match f.update obj.key with
  | some e => (some e, s.emit (.updateSecret obj false))
  | none =>
    match s.world.secrets.lookup obj.key with
    | some _ => (none, s.emit (.updateSecret obj true))
    | none => (some (notFound "secrets" obj.key), s.emit (.updateSecret obj false))

/-- `controllerutil.OperationResult`. -/
inductive OperationResult
  | none
  | created
  | updated
deriving DecidableEq, Repr

/-- A mutate function of `CreateOrUpdate`: it rewrites the object `obj`
points to and may call the API on the way. -/
abbrev MutateFn := Secret → Sys → Except GoError Secret × Sys

/-- `controllerutil.mutate`: run the function, then refuse a changed key. -/
def mutate (f : MutateFn) (key : ObjectKey) (obj : Secret) (s : Sys) : Except GoError Secret × Sys :=
  match f obj s with
  | (.error e, s) => (.error e, s)
  | (.ok obj, s) =>
    if obj.key = key then (.ok obj, s)
    else (.error (.new "MutateFn cannot mutate object name and/or object namespace"), s)

/-- `controllerutil.CreateOrUpdate` on a Secret. The returned object is what
`obj` points to afterwards: the fetched object when one exists, mutated. -/
def createOrUpdate (fl : SecretFaults) (obj : Secret) (f : MutateFn) (s : Sys) :
    Except GoError (OperationResult × Secret) × Sys :=
  match getSecret fl s.world obj.key with
  | .error e =>
    if !e.isNotFound then (.error e, s) else
    match mutate f obj.key obj s with
    | (.error e, s) => (.error e, s)
    | (.ok obj, s) =>
      match createSecret fl obj s with
      | (some e, s) => (.error e, s)
      | (none, s) => (.ok (.created, obj), s)
  | .ok existing =>
    match mutate f obj.key existing s with
    | (.error e, s) => (.error e, s)
    | (.ok obj, s) =>
      if existing = obj then (.ok (.none, obj), s) else
      match updateSecret fl obj s with
      | (some e, s) => (.error e, s)
      | (none, s) => (.ok (.updated, obj), s)

/-! ## The KubevirtMachine -/

/-- `client.Get` of a KubevirtMachine, or the injected failure. -/
def getKubevirtMachine (fault : Option GoError) (w : World) (k : ObjectKey) :
    Except GoError KubevirtMachine :=
  match fault with
  | some e => .error e
  | none =>
    match w.kubevirtMachines.lookup k with
    | some m => .ok m
    | none => .error (notFound "kubevirtmachines.infrastructure.cluster.x-k8s.io" k)

/-- Modelled from the spec: `MachineContext.PatchKubevirtMachine`, whose
package the sources do not include. The spec: the Machine's spec and status
are persisted back to the API layer; a patch either persists the whole
in-memory object or fails and persists nothing. -/
def patchKubevirtMachine (fault : Option GoError) (site : PatchSite) (m : KubevirtMachine)
    (s : Sys) : Option GoError × Sys :=
  match fault with
  | some e => (some e, s.emit (.patch site m false))
  | none => (none, s.emit (.patch site m true))

theorem patchKubevirtMachine_eq (fault : Option GoError) (site : PatchSite) (m : KubevirtMachine)
    (s : Sys) : patchKubevirtMachine fault site m s = (fault, s.emit (.patch site m fault.isNone)) := by
  cases fault <;> rfl

end CapkReconciler
