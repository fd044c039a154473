import CapkReconciler.Store

/-!
# The bootstrap-secret stage (`reconcileKubevirtBootstrapSecret`)

Lines 395–460 of the controller: copy the Machine's generic bootstrap data
into a Secret named `<dataSecretName>-userdata`, owned by the KubevirtMachine,
unless that Secret already exists.

The Secret is written through two nested `controllerutil.CreateOrUpdate`
calls on the same object: the outer one's mutate function sets `Type` and
`Data` and then runs the inner one, whose mutate function sets the owner
reference. When the Secret does not exist yet, the inner call creates it,
and the outer call, which looked the Secret up before its mutate function
ran, then creates it a second time and is refused.

- `reconcileKubevirtBootstrapSecret_cases`: the inversion lemma. The stage
  succeeds exactly when its existence check finds the derived Secret, and then
  writes nothing; otherwise it fails, after writing nothing, after one refused
  create, or after a create that lands, on a key that held nothing, followed
  by the refused one.
- `reconcileKubevirtBootstrapSecret_fresh`: on a store where the derived
  Secret is absent, the generic one holds `value` and no request fails, the
  stage creates the derived Secret and still returns an error.
-/

namespace CapkReconciler

/-- `clusterv1.ClusterSecretType`. -/
def clusterSecretType : String := "cluster.x-k8s.io/secret"

/-! ## Owner references (`cluster-api/util`) -/

/-- `schema.ParseGroupVersion`: `""` and `"/"` are the empty group version, a
string with no slash is a bare version, one slash splits the group from the
version, and more slashes are an error (`none`). -/
def parseGroupVersion (gv : String) : Option (String × String) :=
  if gv = "" ∨ gv = "/" then some ("", "") else
  match gv.splitOn "/" with
  | [v] => some ("", v)
  | [g, v] => some (g, v)
  | _ => none

/-- `referSameObject`: the same API group, kind and name; an unparsable
`APIVersion` refers to nothing. -/
def referSameObject (a b : OwnerReference) : Bool :=
  match parseGroupVersion a.apiVersion, parseGroupVersion b.apiVersion with
  | some (ga, _), some (gb, _) => ga == gb && a.kind == b.kind && a.name == b.name
  | _, _ => false

/-- `util.EnsureOwnerRef`: the first reference to the same object is replaced
by `ref`, or `ref` is appended. -/
def ensureOwnerRef : List OwnerReference → OwnerReference → List OwnerReference
  | [], ref => [ref]
  | r :: rs, ref => if referSameObject r ref then ref :: rs else r :: ensureOwnerRef rs ref

/-- Whatever it replaces, `EnsureOwnerRef` leaves the reference it was given. -/
theorem mem_ensureOwnerRef (refs : List OwnerReference) (ref : OwnerReference) :
    ref ∈ ensureOwnerRef refs ref := by
  induction refs with
  | nil => simp [ensureOwnerRef]
  | cons r rs ih =>
    unfold ensureOwnerRef
    split_ifs <;> simp [ih]

/-- The owner reference the stage sets (lines 440–445). -/
def KubevirtMachine.ownerRef (km : KubevirtMachine) : OwnerReference :=
  ⟨km.apiVersion, km.kind, km.name, km.uid⟩

/-! ## The stage -/

/-- The key of the derived Secret: `<dataSecretName>-userdata` in the
Machine's namespace. -/
def userdataKey (m : Machine) (dsn : String) : ObjectKey := ⟨m.ns, dsn ++ "-userdata"⟩

/-- The mutate function of the inner `CreateOrUpdate` (lines 437–447). -/
def setOwnerRef (km : KubevirtMachine) : MutateFn := fun obj s =>
  (.ok { obj with ownerReferences := ensureOwnerRef obj.ownerReferences km.ownerRef }, s)

/-- The mutate function of the outer `CreateOrUpdate` (lines 430–453). -/
def setUserdata (fl : SecretFaults) (km : KubevirtMachine) (value : Bytes) : MutateFn :=
  fun obj s =>
    match createOrUpdate fl { obj with type := clusterSecretType, data := [("userdata", value)] }
        (setOwnerRef km) s with
    | (.error e, s) => (.error (.wrap "failed to set owner reference for secret" e), s)
    | (.ok (_, obj), s) => (.ok obj, s)

/-- `reconcileKubevirtBootstrapSecret`. The SSH keys it is passed are unused:
the call that would add them to the bootstrap data is commented out. -/
def reconcileKubevirtBootstrapSecret (fl : SecretFaults) (c : MachineContext)
    (km : KubevirtMachine) (s : Sys) : Option GoError × Sys :=
  match c.machine.dataSecretName with
  | none =>
    (some (.new "error retrieving bootstrap data: linked Machine\x27s bootstrap.dataSecretName is nil"), s)
  | some dsn =>
    match getSecret fl s.world (userdataKey c.machine dsn) with
    | .ok _ => (none, s)
    | .error _ =>
      match getSecret fl s.world ⟨c.machine.ns, dsn⟩ with
      | .error e =>
        (some (.wrap ("failed to retrieve bootstrap data secret for KubevirtMachine " ++
          c.machine.ns ++ "/" ++ c.machine.name) e), s)
      | .ok sec =>
        match sec.data.lookup "value" with
        | none => (some (.new "error retrieving bootstrap data: secret value key is missing"), s)
        | some value =>
          match createOrUpdate fl ⟨sec.name ++ "-userdata", c.machine.ns, "", [], []⟩
              (setUserdata fl km value) s with
          | (.error e, s) => (some (.wrap "failed to create kubevirt bootstrap secret for cluster" e), s)
          | (.ok _, s) => (none, s)

/-- The derived Secret as the stage writes it: `userdata` holds the generic
Secret's `value`, and the KubevirtMachine owns it. -/
def userdataSecret (m : Machine) (km : KubevirtMachine) (dsn : String) (value : Bytes) : Secret :=
  ⟨dsn ++ "-userdata", m.ns, clusterSecretType, [("userdata", value)], [km.ownerRef]⟩

@[simp] theorem userdataSecret_key (m : Machine) (km : KubevirtMachine) (dsn : String)
    (value : Bytes) : (userdataSecret m km dsn value).key = userdataKey m dsn := rfl

theorem getSecret_key {fl : SecretFaults} {w : World} {k : ObjectKey} {sec : Secret}
    (h : getSecret fl w k = .ok sec) : sec.key = k := by
  unfold getSecret at h
  split at h
  · cases h
  · split at h
    · cases h; exact w.secrets.lookup_key ‹_›
    · cases h

/-- The outer `CreateOrUpdate` after the existence check failed with `e`: its
own lookup fails the same way, so it can only take the create branch, where
the inner call creates the Secret first. -/
theorem createOrUpdate_userdata (fl : SecretFaults) (km : KubevirtMachine) (v : Bytes) (m : Machine)
    (dsn : String) (s : Sys) (e : GoError)
    (hK : getSecret fl s.world (userdataKey m dsn) = .error e) :
    (∃ e', createOrUpdate fl ⟨dsn ++ "-userdata", m.ns, "", [], []⟩ (setUserdata fl km v) s = (.error e', s)) ∨
    (∃ e', createOrUpdate fl ⟨dsn ++ "-userdata", m.ns, "", [], []⟩ (setUserdata fl km v) s =
      (.error e', s.emit (.createSecret (userdataSecret m km dsn v) false))) ∨
    (s.world.secrets.lookup (userdataKey m dsn) = none ∧
      ∃ e', createOrUpdate fl ⟨dsn ++ "-userdata", m.ns, "", [], []⟩ (setUserdata fl km v) s =
        (.error e', (s.emit (.createSecret (userdataSecret m km dsn v) true)).emit
          (.createSecret (userdataSecret m km dsn v) false))) := by
  simp only [userdataKey] at hK
  cases hnf : e.isNotFound
  · exact .inl ⟨e, by simp [createOrUpdate, Secret.key, hK, hnf]⟩
  · have hsec : userdataSecret m km dsn v =
        ⟨dsn ++ "-userdata", m.ns, clusterSecretType, [("userdata", v)], ensureOwnerRef [] km.ownerRef⟩ := rfl
    simp only [createOrUpdate, Secret.key, hK, hnf, mutate, setUserdata, setOwnerRef, hsec,
      createSecret, Bool.not_true, if_true]
    rcases hc : fl.create ⟨m.ns, dsn ++ "-userdata"⟩ with _ | e'
    · rcases hl : s.world.secrets.lookup ⟨m.ns, dsn ++ "-userdata"⟩ with _ | x
      · simp [hl, hc, Effect.apply, Secret.key, userdataKey]
      · simp [hl, hc]
    · simp [hc]

/-- **Inversion lemma** for the stage: it succeeds exactly when the existence
check finds the derived Secret, and then writes nothing; otherwise it fails
after writing nothing, after one refused create of the derived Secret, or
after a create of it that lands followed by the outer create, refused. -/
theorem reconcileKubevirtBootstrapSecret_cases (fl : SecretFaults) (c : MachineContext)
    (km : KubevirtMachine) (s : Sys) :
    (∃ dsn x, c.machine.dataSecretName = some dsn ∧
        getSecret fl s.world (userdataKey c.machine dsn) = .ok x ∧
        reconcileKubevirtBootstrapSecret fl c km s = (none, s)) ∨
    (∃ e, reconcileKubevirtBootstrapSecret fl c km s = (some e, s)) ∨
    (∃ dsn v e, c.machine.dataSecretName = some dsn ∧
      (reconcileKubevirtBootstrapSecret fl c km s =
          (some e, s.emit (.createSecret (userdataSecret c.machine km dsn v) false)) ∨
        s.world.secrets.lookup (userdataKey c.machine dsn) = none ∧
        reconcileKubevirtBootstrapSecret fl c km s =
          (some e, (s.emit (.createSecret (userdataSecret c.machine km dsn v) true)).emit
            (.createSecret (userdataSecret c.machine km dsn v) false)))) := by
  unfold reconcileKubevirtBootstrapSecret
  rcases hdsn : c.machine.dataSecretName with _ | dsn
  · exact .inr (.inl ⟨_, rfl⟩)
  dsimp only
  rcases hK : getSecret fl s.world (userdataKey c.machine dsn) with e₁ | x
  · rcases hG : getSecret fl s.world ⟨c.machine.ns, dsn⟩ with e₂ | sec
    · exact .inr (.inl ⟨_, rfl⟩)
    dsimp only
    have hname : sec.name = dsn := congrArg ObjectKey.name (getSecret_key hG)
    rcases hv : sec.data.lookup "value" with _ | v
    · exact .inr (.inl ⟨_, rfl⟩)
    dsimp only
    simp only [hname]
    rcases createOrUpdate_userdata fl km v c.machine dsn s e₁ hK with ⟨e', h⟩ | ⟨e', h⟩ | ⟨hl, e', h⟩ <;>
      simp only [h]
    · exact .inr (.inl ⟨_, rfl⟩)
    · exact .inr (.inr ⟨dsn, v, _, rfl, .inl rfl⟩)
    · exact .inr (.inr ⟨dsn, v, _, rfl, .inr ⟨hl, rfl⟩⟩)
  · exact .inl ⟨dsn, x, rfl, hK, rfl⟩

/-- On a store with the generic Secret and no derived one, where no request
fails, the inner `CreateOrUpdate` creates the derived Secret and the outer one
is then refused: the stage reports failure although the Secret is there. -/
theorem reconcileKubevirtBootstrapSecret_fresh (fl : SecretFaults) (c : MachineContext)
    (km : KubevirtMachine) (s : Sys) {dsn : String} {sec : Secret} {v : Bytes}
    (hdsn : c.machine.dataSecretName = some dsn)
    (hgK : fl.get (userdataKey c.machine dsn) = none)
    (hK : s.world.secrets.lookup (userdataKey c.machine dsn) = none)
    (hgG : fl.get ⟨c.machine.ns, dsn⟩ = none) (hG : s.world.secrets.lookup ⟨c.machine.ns, dsn⟩ = some sec)
    (hv : sec.data.lookup "value" = some v)
    (hc : fl.create (userdataKey c.machine dsn) = none) :
    ∃ e, reconcileKubevirtBootstrapSecret fl c km s =
      (some e, (s.emit (.createSecret (userdataSecret c.machine km dsn v) true)).emit
        (.createSecret (userdataSecret c.machine km dsn v) false)) := by
  have hname : sec.name = dsn := congrArg ObjectKey.name (s.world.secrets.lookup_key hG)
  simp only [userdataKey] at hgK hK hc
  simp [reconcileKubevirtBootstrapSecret, hdsn, getSecret, hgK, hK, hgG, hG, hv, hname, userdataKey,
    createOrUpdate, mutate, setUserdata, setOwnerRef, createSecret, Secret.key, hc, userdataSecret,
    ensureOwnerRef, Effect.apply]

/-- A worker Machine whose bootstrap provider has written `worker-0-bootstrap`. -/
def workerMachine : Machine := ⟨"worker-0", "default", [], some "worker-0-bootstrap", "worker-0"⟩

/-- The KubevirtMachine of `workerMachine`, past the finalizer gate. -/
def workerKubevirtMachine : KubevirtMachine :=
  ⟨"worker-0", "default", "uid-0", "infrastructure.cluster.x-k8s.io/v1alpha4", "KubevirtMachine",
    [machineFinalizer], none, none, false, false, [], []⟩

/-- The generic bootstrap Secret of `workerMachine`. -/
def genericBootstrapSecret : Secret :=
  ⟨"worker-0-bootstrap", "default", clusterSecretType, [("value", [35])], []⟩

/-- A store holding the generic bootstrap Secret and nothing else. -/
def freshWorld : World := ⟨Store.empty, Store.ofList [genericBootstrapSecret], fun _ => false⟩

/-- `workerMachine` in a ready cluster. -/
def workerContext : MachineContext := ⟨⟨"c", "c", true, []⟩, ⟨"c", "default"⟩, workerMachine⟩

/-- On `freshWorld` with no failing request the stage returns an error, and
the derived Secret, with the claimed type, data and owner, is in the store. -/
theorem reconcileKubevirtBootstrapSecret_fresh_worker :
    (reconcileKubevirtBootstrapSecret SecretFaults.none workerContext workerKubevirtMachine
        ⟨freshWorld, []⟩).1.isSome = true ∧
    (reconcileKubevirtBootstrapSecret SecretFaults.none workerContext workerKubevirtMachine
        ⟨freshWorld, []⟩).2.world.secrets.lookup ⟨"default", "worker-0-bootstrap-userdata"⟩ =
      some ⟨"worker-0-bootstrap-userdata", "default", clusterSecretType, [("userdata", [35])],
        [⟨"infrastructure.cluster.x-k8s.io/v1alpha4", "KubevirtMachine", "worker-0", "uid-0"⟩]⟩ := by
  obtain ⟨e, h⟩ := reconcileKubevirtBootstrapSecret_fresh SecretFaults.none workerContext
    workerKubevirtMachine ⟨freshWorld, []⟩ rfl rfl (by decide) rfl
    (show _ = some genericBootstrapSecret by decide) rfl rfl
  rw [h]
  exact ⟨rfl, by dsimp only; decide⟩

end CapkReconciler
