import CapkReconciler.Ownership

/-!
# Reconciles of independent machines commute

`SetupWithManager` (lines 331–359) hands `controller.Options` to the
controller, and controller-runtime runs up to `MaxConcurrentReconciles` calls
of `Reconcile` at once, never two for one key. Each call reads and writes a
few API objects only: its KubevirtMachine, the VM under the same key, the
derived and the generic bootstrap-data Secret of its Machine (lines 396–460),
and the workload cluster's kubeconfig (lines 463–478). Two calls whose writes
avoid each other's reads therefore give the same outcome in either order;
with the calls taken as atomic, as in `World.run`, so does every reordering of
a run that swaps such calls.

- `reconcile_sim`: a call on two worlds that agree on `reconcileReads`
  returns the same `Result` and error and issues the same effects. Each stage
  gets one such lemma (`*_sim`): it rewrites the one read of the world and
  closes each branch with `Sys.Sim.emit`.
- `reconcile_writes`: every effect a call lands writes an object of
  `reconcileWrites`: its own KubevirtMachine and VM, and the derived Secret of
  its Machine.
- `Local.comm`: two world transformers, each reading only `R` and writing only
  `W`, commute when neither writes what the other reads or writes (Bernstein's
  conditions).
- `reconcile_commute`: a call and an event independent of it commute, and the
  call returns the same `Result` and error in either order.
- `run_reorder`: runs that differ by swapping adjacent independent events end
  in the same world.

Two Machines sharing a `DataSecretName` give calls that are not independent:
each writes the Secret the other reads, and the first call's Secret is the
one that stays.
-/

namespace CapkReconciler

/-! ## Places in the store -/

/-- A place in the API store: the KubevirtMachine, the Secret or the VM under
a key. -/
inductive Loc
  | machine (k : ObjectKey)
  | secret (k : ObjectKey)
  | vm (k : ObjectKey)
deriving DecidableEq, Repr

/-- What a place holds. -/
inductive Slot
  | machine (m : Option KubevirtMachine)
  | secret (s : Option Secret)
  | vm (b : Bool)
deriving DecidableEq

/-- The content of a place. -/
def World.at (w : World) : Loc → Slot
  | .machine k => .machine (w.kubevirtMachines.lookup k)
  | .secret k => .secret (w.secrets.lookup k)
  | .vm k => .vm (w.virtualMachines k)

theorem Store.ext {α : Type} [Keyed α] {s s' : Store α} (h : ∀ k, s'.lookup k = s.lookup k) :
    s' = s := by
  cases s; cases s'
  congr
  funext k
  exact h k

/-- A world is what its places hold. -/
theorem World.ext_at {w w' : World} (h : ∀ l, w'.at l = w.at l) : w' = w := by
  obtain ⟨m, s, v⟩ := w
  obtain ⟨m', s', v'⟩ := w'
  have hm : m' = m := Store.ext fun k => by simpa [World.at] using h (.machine k)
  have hs : s' = s := Store.ext fun k => by simpa [World.at] using h (.secret k)
  have hv : v' = v := funext fun k => by simpa [World.at] using h (.vm k)
  rw [hm, hs, hv]

/-- The place a landed effect writes. -/
def Effect.writes : Effect → Option Loc
  | .patch _ m true => some (.machine m.key)
  | .createSecret s true | .updateSecret s true => some (.secret s.key)
  | .createVM vm true => some (.vm vm)
  | _ => none

/-- An effect leaves every place but the one it writes as it was. -/
theorem Effect.apply_at_of_ne (e : Effect) (w : World) {l : Loc} (h : e.writes ≠ some l) :
    (e.apply w).at l = w.at l := by
  cases e with
  | patch _ m ok => cases ok <;> cases l <;> simp_all [Effect.apply, World.at, Effect.writes]
  | createSecret sec ok => cases ok <;> cases l <;> simp_all [Effect.apply, World.at, Effect.writes]
  | updateSecret sec ok => cases ok <;> cases l <;> simp_all [Effect.apply, World.at, Effect.writes]
  | newMachine _ => rfl
  | createVM vm ok =>
    cases ok <;> cases l <;> simp_all [Effect.apply, World.at, Effect.writes]
    exact fun h' => absurd h'.symm h
  | setProviderID _ => rfl

/-- What an effect leaves in a place depends on the place only. -/
theorem Effect.apply_at_congr (e : Effect) {w w' : World} {l : Loc} (h : w'.at l = w.at l) :
    (e.apply w').at l = (e.apply w).at l := by
  cases e with
  | patch _ m ok => cases ok <;> cases l <;> simp_all [Effect.apply, World.at]
  | createSecret sec ok => cases ok <;> cases l <;> simp_all [Effect.apply, World.at]
  | updateSecret sec ok => cases ok <;> cases l <;> simp_all [Effect.apply, World.at]
  | newMachine _ => exact h
  | createVM vm ok => cases ok <;> cases l <;> simp_all [Effect.apply, World.at]
  | setProviderID _ => exact h

theorem emitAll_at_of_ne (s : Sys) (es : List Effect) {l : Loc} (h : ∀ e ∈ es, e.writes ≠ some l) :
    (s.emitAll es).world.at l = s.world.at l := by
  induction es generalizing s with
  | nil => rfl
  | cons e es ih =>
    show ((s.emit e).emitAll es).world.at l = _
    rw [ih _ fun e' he' => h e' (List.mem_cons_of_mem _ he')]
    exact e.apply_at_of_ne _ (h e (List.mem_cons_self _ _))

/-! ## Two reconciliations that agree where they look -/

/-- `s'` has issued what `s` has, and its world agrees with that of `s` on
the places `R`. -/
structure Sys.Sim (R : List Loc) (s s' : Sys) : Prop where
  effects : s'.effects = s.effects
  agree : ∀ l ∈ R, s'.world.at l = s.world.at l

/-- A stage that answers with a value: `p'` answers as `p` does, and its
reconciliation tracks that of `p`. -/
def Sys.SimPair {α : Type} (R : List Loc) (p p' : α × Sys) : Prop :=
  p'.1 = p.1 ∧ Sys.Sim R p.2 p'.2

/-- A stage that returns an `Outcome`: the same `Result`, error and machine,
and a tracking reconciliation. -/
structure Outcome.Sim (R : List Loc) (o o' : Outcome) : Prop where
  result : o'.result = o.result
  err : o'.err = o.err
  machine : o'.machine = o.machine
  sys : Sys.Sim R o.sys o'.sys

/-- A mutate function of `CreateOrUpdate` that reads the world only on the
places `R`, for objects whose key `R` holds. -/
def MutateFn.Local (R : List Loc) (f : MutateFn) : Prop :=
  ∀ obj s s', .secret obj.key ∈ R → Sys.Sim R s s' → Sys.SimPair R (f obj s) (f obj s')

section Sim

variable {R : List Loc} {s s' : Sys}

theorem Sys.Sim.emit (h : Sys.Sim R s s') (e : Effect) : Sys.Sim R (s.emit e) (s'.emit e) :=
  ⟨by simp [h.effects], fun l hl => e.apply_at_congr (h.agree l hl)⟩

theorem Sys.Sim.emitAll (h : Sys.Sim R s s') (es : List Effect) :
    Sys.Sim R (s.emitAll es) (s'.emitAll es) := by
  induction es generalizing s s' with
  | nil => exact h
  | cons e es ih => exact ih (h.emit e)

theorem Sys.Sim.secret (h : Sys.Sim R s s') {k : ObjectKey} (hk : .secret k ∈ R) :
    s'.world.secrets.lookup k = s.world.secrets.lookup k := by
  simpa [World.at] using h.agree _ hk

theorem Sys.Sim.vm (h : Sys.Sim R s s') {k : ObjectKey} (hk : .vm k ∈ R) :
    s'.world.virtualMachines k = s.world.virtualMachines k := by
  simpa [World.at] using h.agree _ hk

theorem Sys.SimPair.elim {α : Type} {p p' : α × Sys} (h : Sys.SimPair R p p') :
    ∃ x t t', p = (x, t) ∧ p' = (x, t') ∧ Sys.Sim R t t' :=
  ⟨p.1, p.2, p'.2, rfl, by rw [← h.1], h.2⟩

theorem Outcome.Sim.of_sys (h : Sys.Sim R s s') {r : Result} {e : Option GoError}
    {m : KubevirtMachine} : Outcome.Sim R ⟨r, e, m, s⟩ ⟨r, e, m, s'⟩ := ⟨rfl, rfl, rfl, h⟩

/-! ### Secrets -/

theorem getSecret_sim (h : Sys.Sim R s s') (fl : SecretFaults) {k : ObjectKey} (hk : .secret k ∈ R) :
    getSecret fl s'.world k = getSecret fl s.world k := by
  simp only [getSecret, h.secret hk]

theorem createSecret_sim (h : Sys.Sim R s s') (fl : SecretFaults) {obj : Secret}
    (hk : .secret obj.key ∈ R) : Sys.SimPair R (createSecret fl obj s) (createSecret fl obj s') := by
  unfold createSecret
  rw [h.secret hk]
  split
  · exact ⟨rfl, h.emit _⟩
  · split <;> exact ⟨rfl, h.emit _⟩

theorem updateSecret_sim (h : Sys.Sim R s s') (fl : SecretFaults) {obj : Secret}
    (hk : .secret obj.key ∈ R) : Sys.SimPair R (updateSecret fl obj s) (updateSecret fl obj s') := by
  unfold updateSecret
  rw [h.secret hk]
  split
  · exact ⟨rfl, h.emit _⟩
  · split <;> exact ⟨rfl, h.emit _⟩

theorem mutate_key {f : MutateFn} {key : ObjectKey} {obj o : Secret} {t : Sys}
    (h : mutate f key obj s = (.ok o, t)) : o.key = key := by
  unfold mutate at h
  split at h
  · cases h
  · split at h
    · cases h; assumption
    · cases h

theorem mutate_sim {f : MutateFn} (hf : f.Local R) (key : ObjectKey) {obj : Secret}
    (hk : .secret obj.key ∈ R) (h : Sys.Sim R s s') :
    Sys.SimPair R (mutate f key obj s) (mutate f key obj s') := by
  obtain ⟨x, t, t', hp, hp', ht⟩ := (hf obj s s' hk h).elim
  rcases x with e | o <;> simp only [mutate, hp, hp']
  · exact ⟨rfl, ht⟩
  · split <;> exact ⟨rfl, ht⟩

/-- `CreateOrUpdate` reads only the key of its object, and its mutate
function's places. -/
theorem createOrUpdate_sim {f : MutateFn} (hf : f.Local R) (fl : SecretFaults) {obj : Secret}
    (hk : .secret obj.key ∈ R) (h : Sys.Sim R s s') :
    Sys.SimPair R (createOrUpdate fl obj f s) (createOrUpdate fl obj f s') := by
  unfold createOrUpdate
  rw [getSecret_sim h fl hk]
  rcases hg : getSecret fl s.world obj.key with e | existing
  · -- absent: mutate, then create
    dsimp only
    split
    · exact ⟨rfl, h⟩
    obtain ⟨x, t, t', hp, hp', ht⟩ := (mutate_sim hf obj.key hk h).elim
    rw [hp, hp']
    rcases x with e' | o
    · exact ⟨rfl, ht⟩
    obtain ⟨y, u, u', hq, hq', hu⟩ := (createSecret_sim ht fl ((mutate_key hp).symm ▸ hk)).elim
    dsimp only
    rw [hq, hq']
    cases y <;> exact ⟨rfl, hu⟩
  · -- present: mutate the fetched object, then update it if it changed
    dsimp only
    obtain ⟨x, t, t', hp, hp', ht⟩ :=
      (mutate_sim hf obj.key ((getSecret_key hg).symm ▸ hk : .secret existing.key ∈ R) h).elim
    rw [hp, hp']
    rcases x with e' | o
    · exact ⟨rfl, ht⟩
    dsimp only
    split
    · exact ⟨rfl, ht⟩
    obtain ⟨y, u, u', hq, hq', hu⟩ := (updateSecret_sim ht fl ((mutate_key hp).symm ▸ hk)).elim
    rw [hq, hq']
    cases y <;> exact ⟨rfl, hu⟩

theorem setOwnerRef_local (km : KubevirtMachine) : (setOwnerRef km).Local R :=
  fun _ _ _ _ h => ⟨rfl, h⟩

theorem setUserdata_local (fl : SecretFaults) (km : KubevirtMachine) (value : Bytes) :
    (setUserdata fl km value).Local R := fun obj s s' hk h => by
  have hk' : .secret ({ obj with type := clusterSecretType, data := [("userdata", value)] } : Secret).key ∈ R :=
    hk
  obtain ⟨x, t, t', hp, hp', ht⟩ := (createOrUpdate_sim (setOwnerRef_local km) fl hk' h).elim
  simp only [setUserdata, hp, hp']
  rcases x with e | ⟨_, o⟩ <;> exact ⟨rfl, ht⟩

/-- The bootstrap-secret stage reads the derived and the generic
bootstrap-data Secret of its Machine. -/
theorem reconcileKubevirtBootstrapSecret_sim (fl : SecretFaults) (c : MachineContext)
    (km : KubevirtMachine) (hR : ∀ dsn, c.machine.dataSecretName = some dsn →
      .secret (userdataKey c.machine dsn) ∈ R ∧ .secret ⟨c.machine.ns, dsn⟩ ∈ R)
    (h : Sys.Sim R s s') :
    Sys.SimPair R (reconcileKubevirtBootstrapSecret fl c km s) (reconcileKubevirtBootstrapSecret fl c km s') := by
  unfold reconcileKubevirtBootstrapSecret
  split
  · exact ⟨rfl, h⟩
  rename_i dsn hd
  obtain ⟨hu, hb⟩ := hR dsn hd
  rw [getSecret_sim h fl hu, getSecret_sim h fl hb]
  split
  · exact ⟨rfl, h⟩
  split
  · exact ⟨rfl, h⟩
  rename_i sec hsec
  split
  · exact ⟨rfl, h⟩
  have hk : .secret (⟨sec.name ++ "-userdata", c.machine.ns, "", [], []⟩ : Secret).key ∈ R := by
    have hkey := getSecret_key hsec
    simp only [Secret.key, ObjectKey.mk.injEq] at hkey
    simpa [Secret.key, hkey.2, userdataKey] using hu
  obtain ⟨x, t, t', hp, hp', ht⟩ := (createOrUpdate_sim (setUserdata_local fl km _) fl hk h).elim
  rw [hp, hp']
  rcases x with e | o <;> exact ⟨rfl, ht⟩

/-! ### The stages of `reconcileNormal` -/

theorem patchNodeProviderID_sim (a : Answers) (c : MachineContext) (km : KubevirtMachine)
    (hk : .secret ⟨c.kubevirtCluster.ns, c.kubevirtCluster.name ++ "-kubeconfig"⟩ ∈ R)
    (h : Sys.Sim R s s') : Outcome.Sim R (patchNodeProviderID a c km s) (patchNodeProviderID a c km s') := by
  simp only [patchNodeProviderID, reconcileWorkloadClusterClient, getKubeconfigForWorkloadCluster,
    getSecret_sim h _ hk]
  split
  · exact .of_sys h
  · split <;> exact .of_sys (h.emit _)

theorem waitForBootstrap_sim (a : Answers) (c : MachineContext) (km : KubevirtMachine)
    (exec : VMCommandExecutor)
    (hk : .secret ⟨c.kubevirtCluster.ns, c.kubevirtCluster.name ++ "-kubeconfig"⟩ ∈ R)
    (h : Sys.Sim R s s') :
    Outcome.Sim R (waitForBootstrap a c km exec s) (waitForBootstrap a c km exec s') := by
  unfold waitForBootstrap
  split
  · exact .of_sys h
  · exact patchNodeProviderID_sim a c _ hk h

theorem markProvisioned_sim (a : Answers) (c : MachineContext) (km : KubevirtMachine)
    (exec : VMCommandExecutor)
    (hk : .secret ⟨c.kubevirtCluster.ns, c.kubevirtCluster.name ++ "-kubeconfig"⟩ ∈ R)
    (h : Sys.Sim R s s') :
    Outcome.Sim R (markProvisioned a c km exec s) (markProvisioned a c km exec s') := by
  unfold markProvisioned
  split
  · exact .of_sys h
  dsimp only
  split
  · simp only [patchKubevirtMachine_eq]
    cases a.patch .reconcileNormal with
    | some e => exact .of_sys (h.emit _)
    | none => exact waitForBootstrap_sim a c _ exec hk (h.emit _)
  · exact waitForBootstrap_sim a c _ exec hk h

theorem ensureVM_sim (a : Answers) (km : KubevirtMachine) (hv : .vm km.key ∈ R) (h : Sys.Sim R s s') :
    Sys.SimPair R (ensureVM a km s) (ensureVM a km s') := by
  unfold ensureVM
  rw [h.vm hv]
  split
  · exact ⟨rfl, h⟩
  · rw [createVM_eq, createVM_eq]
    exact ⟨rfl, h.emit _⟩

theorem provisionVM_sim (a : Answers) (c : MachineContext) (km : KubevirtMachine) (keys : SshKeys)
    (hk : .secret ⟨c.kubevirtCluster.ns, c.kubevirtCluster.name ++ "-kubeconfig"⟩ ∈ R)
    (hv : .vm km.key ∈ R) (h : Sys.Sim R s s') :
    Outcome.Sim R (provisionVM a c km keys s) (provisionVM a c km keys s') := by
  have h₁ := h.emit (.newMachine km.key)
  unfold provisionVM
  dsimp only
  split
  · exact .of_sys h₁
  obtain ⟨x, t, t', hp, hp', ht⟩ := (ensureVM_sim a km hv h₁).elim
  rw [hp, hp']
  rcases x with _ | e
  · dsimp only
    split
    · exact .of_sys ht
    · exact markProvisioned_sim a c km _ hk ht
  · exact .of_sys ht

/-- The places a reconciliation with context `c` of the machine under `k`
reads once it is loaded: the VM, the derived and the generic bootstrap-data
Secret, and the kubeconfig. -/
def contextReads (c : MachineContext) (k : ObjectKey) : List Loc :=
  .vm k :: .secret ⟨c.kubevirtCluster.ns, c.kubevirtCluster.name ++ "-kubeconfig"⟩ ::
    match c.machine.dataSecretName with
    | some dsn => [.secret (userdataKey c.machine dsn), .secret ⟨c.machine.ns, dsn⟩]
    | none => []

theorem reconcileNormal_sim (a : Answers) (c : MachineContext) (km : KubevirtMachine)
    (h : Sys.Sim (contextReads c km.key) s s') :
    Outcome.Sim (contextReads c km.key) (reconcileNormal a c km s) (reconcileNormal a c km s') := by
  have hR : ∀ dsn, c.machine.dataSecretName = some dsn →
      .secret (userdataKey c.machine dsn) ∈ contextReads c km.key ∧
        .secret ⟨c.machine.ns, dsn⟩ ∈ contextReads c km.key := fun dsn hd => by
    simp [contextReads, hd]
  unfold reconcileNormal
  split
  · exact .of_sys h
  split
  · split <;> exact .of_sys h
  split
  · exact .of_sys h
  split
  · exact .of_sys h
  obtain ⟨x, t, t', hp, hp', ht⟩ := (reconcileKubevirtBootstrapSecret_sim a.secrets c km hR h).elim
  rw [hp, hp']
  rcases x with _ | e
  · exact provisionVM_sim a c km _ (by simp [contextReads]) (by simp [contextReads]) ht
  · exact .of_sys ht

theorem reconcileBranch_sim (a : Answers) (c : MachineContext) (km : KubevirtMachine)
    (h : Sys.Sim (contextReads c km.key) s s') :
    Outcome.Sim (contextReads c km.key) (reconcileBranch a c km s) (reconcileBranch a c km s') := by
  unfold reconcileBranch
  split
  · exact .of_sys h
  split
  · exact .of_sys h
  split
  · rw [reconcileDelete_eq, reconcileDelete_eq]
    split
    · exact .of_sys h
    · exact .of_sys (h.emit _)
    · exact .of_sys (h.emit _)
  · exact reconcileNormal_sim a c km h

end Sim

/-! ## What one call reads and writes -/

/-- The places a call of `Reconcile` for the machine under `req` may write:
the KubevirtMachine, its VM, and the derived Secret of the Machine it
resolves. -/
def reconcileWrites (a : Answers) (req : ObjectKey) : List Loc :=
  .machine req :: .vm req ::
    match a.ownerMachine with
    | .ok (some m) =>
      match m.dataSecretName with
      | some dsn => [.secret (userdataKey m dsn)]
      | none => []
    | _ => []

/-- The places a call of `Reconcile` for the machine under `req` may read:
those it may write, the Machine's generic bootstrap-data Secret, and the
kubeconfig of the KubevirtCluster it resolves. -/
def reconcileReads (a : Answers) (req : ObjectKey) : List Loc :=
  reconcileWrites a req ++
    (match a.ownerMachine with
     | .ok (some m) =>
       match m.dataSecretName with
       | some dsn => [.secret ⟨m.ns, dsn⟩]
       | none => []
     | _ => []) ++
    (match a.cluster with
     | .ok (some cl) =>
       match a.kubevirtCluster ⟨req.ns, cl.infrastructureRefName⟩ with
       | .ok kc => [.secret ⟨kc.ns, kc.name ++ "-kubeconfig"⟩]
       | .error _ => []
     | _ => [])

theorem reconcileWrites_subset (a : Answers) (req : ObjectKey) {l : Loc} (h : l ∈ reconcileWrites a req) :
    l ∈ reconcileReads a req := by
  simp [reconcileReads, h]

/-- Once the call has loaded its machine and context, it reads within
`reconcileReads`. -/
theorem contextReads_subset {a : Answers} {req : ObjectKey} {km : KubevirtMachine} {c : MachineContext}
    (hkey : km.key = req) (hm : a.ownerMachine = .ok (some c.machine))
    (hc : a.cluster = .ok (some c.cluster))
    (hkc : a.kubevirtCluster ⟨km.ns, c.cluster.infrastructureRefName⟩ = .ok c.kubevirtCluster)
    {l : Loc} (hl : l ∈ contextReads c km.key) : l ∈ reconcileReads a req := by
  have hns : km.ns = req.ns := by rw [← hkey]; rfl
  rw [hns] at hkc
  subst hkey
  simp only [contextReads, List.mem_cons] at hl
  rcases hl with rfl | rfl | hl
  · simp [reconcileReads, reconcileWrites]
  · simp [reconcileReads, hc, hkc]
  · cases hd : c.machine.dataSecretName with
    | none => simp [hd] at hl
    | some dsn =>
      simp only [hd, List.mem_cons, List.mem_singleton, List.not_mem_nil, or_false] at hl
      rcases hl with rfl | rfl <;> simp [reconcileReads, reconcileWrites, hm, hd]

/-- **Footprint lemma**: a call on two worlds that agree on `reconcileReads`
returns the same `Result` and error and issues the same effects. -/
theorem reconcile_sim (a : Answers) (req : ObjectKey) {w w' : World}
    (h : ∀ l ∈ reconcileReads a req, w'.at l = w.at l) :
    (reconcile a req w').result = (reconcile a req w).result ∧
      (reconcile a req w').err = (reconcile a req w).err ∧
      (reconcile a req w').sys.effects = (reconcile a req w).sys.effects := by
  have hg : getKubevirtMachine a.kubevirtMachineFault w' req =
      getKubevirtMachine a.kubevirtMachineFault w req := by
    have hm : w'.kubevirtMachines.lookup req = w.kubevirtMachines.lookup req := by
      simpa [World.at] using h (.machine req) (by simp [reconcileReads, reconcileWrites])
    simp only [getKubevirtMachine, hm]
  unfold reconcile
  rw [hg]
  split
  · exact ⟨rfl, rfl, rfl⟩
  rename_i km hkm
  have hkey : km.key = req := by simpa using w.kubevirtMachines.lookup_key (getKubevirtMachine_ok hkm).2
  split
  · exact ⟨rfl, rfl, rfl⟩
  · exact ⟨rfl, rfl, rfl⟩
  rename_i machine hmachine
  split
  · exact ⟨rfl, rfl, rfl⟩
  · exact ⟨rfl, rfl, rfl⟩
  rename_i cluster hcluster
  split
  · exact ⟨rfl, rfl, rfl⟩
  rename_i kc hkc
  split
  · exact ⟨rfl, rfl, rfl⟩
  have hs : Sys.Sim (contextReads ⟨cluster, kc, machine⟩ km.key) ⟨w, []⟩ ⟨w', []⟩ :=
    ⟨rfl, fun l hl => h l (contextReads_subset hkey hmachine hcluster hkc hl)⟩
  have ho := reconcileBranch_sim a ⟨cluster, kc, machine⟩ km hs
  simp only [deferredPatch_eq, ho.result, ho.err, ho.machine, ho.sys.effects, Sys.emit_effects, and_self]

/-- **Frame lemma**: every effect a call lands writes a place of
`reconcileWrites`. -/
theorem reconcile_writes (a : Answers) (req : ObjectKey) (w : World) {e : Effect} {l : Loc}
    (he : e ∈ (reconcile a req w).sys.effects) (hl : e.writes = some l) : l ∈ reconcileWrites a req := by
  cases e with
  | patch site m ok =>
    cases ok <;> simp only [Effect.writes, Option.some.injEq, reduceCtorEq] at hl
    obtain ⟨km, hk, hev⟩ := reconcile_patch_evolves a req w he
    have hkey : km.key = req := by simpa using w.kubevirtMachines.lookup_key hk
    rw [← hl, hev.key, hkey]
    simp [reconcileWrites]
  | createSecret sec ok =>
    cases ok <;> simp only [Effect.writes, Option.some.injEq, reduceCtorEq] at hl
    obtain ⟨km, c, dsn, v, -, hm, hd, rfl⟩ := reconcile_createSecret he
    rw [← hl, userdataSecret_key]
    simp [reconcileWrites, hm, hd]
  | updateSecret sec ok => exact absurd he (reconcile_not_updateSecret a req w sec ok)
  | newMachine _ => simp [Effect.writes] at hl
  | createVM vm ok =>
    cases ok <;> simp only [Effect.writes, Option.some.injEq, reduceCtorEq] at hl
    obtain ⟨km, c, hk, -, he⟩ := reconcile_effect_normal he (fun _ _ _ h => nomatch h)
    obtain ⟨es, hes, hQ⟩ := normal_effects a c km w
    have hvm : NormalEffect a c km (.createVM vm true) := hQ _ (hes ▸ he)
    have hkey : km.key = req := by simpa using w.kubevirtMachines.lookup_key hk
    rw [← hl, hvm, hkey]
    simp [reconcileWrites]
  | setProviderID _ => simp [Effect.writes] at hl

/-! ## Bernstein's conditions -/

/-- `T` reads only the places `R` and writes only the places `W`: it leaves
every other place as it was, and what it leaves on `W` depends only on what
the world holds on `R`. -/
structure Local (T : World → World) (R W : List Loc) : Prop where
  frame : ∀ w l, l ∉ W → (T w).at l = w.at l
  reads : ∀ w w', (∀ l ∈ R, w'.at l = w.at l) → ∀ l ∈ W, (T w').at l = (T w).at l

/-- Two transformers commute when neither writes a place the other reads or
writes. -/
theorem Local.comm {T₁ T₂ : World → World} {R₁ W₁ R₂ W₂ : List Loc} (h₁ : Local T₁ R₁ W₁)
    (h₂ : Local T₂ R₂ W₂) (h₁₂ : ∀ l ∈ W₁, l ∉ R₂ ∧ l ∉ W₂) (h₂₁ : ∀ l ∈ W₂, l ∉ R₁) (w : World) :
    T₂ (T₁ w) = T₁ (T₂ w) := by
  have hR₁ : ∀ l ∈ R₁, (T₂ w).at l = w.at l := fun l hl => h₂.frame w l fun hw => h₂₁ l hw hl
  have hR₂ : ∀ l ∈ R₂, (T₁ w).at l = w.at l := fun l hl => h₁.frame w l fun hw => (h₁₂ l hw).1 hl
  refine World.ext_at fun l => ?_
  by_cases hl₁ : l ∈ W₁
  · -- `T₁` writes `l` in both orders, from the same reads
    rw [h₂.frame _ l (h₁₂ l hl₁).2]
    exact (h₁.reads w (T₂ w) hR₁ l hl₁).symm
  by_cases hl₂ : l ∈ W₂
  · rw [h₁.frame _ l hl₁]
    exact h₂.reads w (T₁ w) hR₂ l hl₂
  · rw [h₁.frame _ l hl₁, h₂.frame _ l hl₂, h₁.frame _ l hl₁, h₂.frame _ l hl₂]

/-- A call of `Reconcile` reads `reconcileReads` and writes `reconcileWrites`. -/
theorem reconcile_local (a : Answers) (req : ObjectKey) :
    Local (fun w => w.step (.reconcile a req)) (reconcileReads a req) (reconcileWrites a req) where
  frame w l hl := by
    show (reconcile a req w).sys.world.at l = w.at l
    rw [reconcile_sys]
    exact emitAll_at_of_ne _ _ fun e he hw => hl (reconcile_writes a req w he hw)
  reads w w' h l hl := by
    show (reconcile a req w').sys.world.at l = (reconcile a req w).sys.world.at l
    rw [reconcile_sys a req w', reconcile_sys a req w, (reconcile_sim a req h).2.2]
    have hs : Sys.Sim [l] ⟨w, []⟩ ⟨w', []⟩ :=
      ⟨rfl, by simpa using h l (reconcileWrites_subset a req hl)⟩
    exact (hs.emitAll _).agree l (List.mem_singleton_self l)

/-- The API layer's deletion events read and write the one KubevirtMachine. -/
theorem delete_local (k : ObjectKey) (t : Nat) :
    Local (fun w => w.step (.delete k t)) [.machine k] [.machine k] where
  frame w l hl := by
    simp only [World.step]
    split
    · rename_i m hm
      have hkey : m.key = k := by simpa using w.kubevirtMachines.lookup_key hm
      split
      · cases l with
        | machine k' =>
          have hk' : m.key ≠ k' := fun h => hl (by simp [← hkey, h])
          simp only [World.at, Store.lookup_put, Keyed.key_kubevirtMachine]
          exact congrArg Slot.machine (if_neg hk')
        | secret _ | vm _ => rfl
      · rfl
    · rfl
  reads w w' h l hl := by
    have hk : w'.kubevirtMachines.lookup k = w.kubevirtMachines.lookup k := by
      simpa [World.at] using h (.machine k) (List.mem_singleton_self _)
    rw [List.mem_singleton] at hl
    subst hl
    simp only [World.step, hk]
    split
    · split <;> simp [World.at, hk]
    · simp [World.at, hk]

theorem purge_local (k : ObjectKey) :
    Local (fun w => w.step (.purge k)) [.machine k] [.machine k] where
  frame w l hl := by
    simp only [World.step]
    split
    · split
      · cases l with
        | machine k' =>
          have hk' : k ≠ k' := fun h => hl (by simp [h])
          simp only [World.at, Store.lookup_erase]
          exact congrArg Slot.machine (if_neg hk')
        | secret _ | vm _ => rfl
      · rfl
    · rfl
  reads w w' h l hl := by
    have hk : w'.kubevirtMachines.lookup k = w.kubevirtMachines.lookup k := by
      simpa [World.at] using h (.machine k) (List.mem_singleton_self _)
    rw [List.mem_singleton] at hl
    subst hl
    simp only [World.step, hk]
    split
    · split <;> simp [World.at, hk]
    · simp [World.at, hk]

/-! ## Independent events -/

/-- The places an event may read. -/
def Event.reads : Event → List Loc
  | .reconcile a req => reconcileReads a req
  | .delete k _ | .purge k => [.machine k]

/-- The places an event may write. -/
def Event.writes : Event → List Loc
  | .reconcile a req => reconcileWrites a req
  | .delete k _ | .purge k => [.machine k]

theorem Event.step_local (e : Event) : Local (fun w => w.step e) e.reads e.writes := by
  cases e with
  | reconcile a req => exact reconcile_local a req
  | delete k t => exact delete_local k t
  | purge k => exact purge_local k

theorem Event.writes_subset (e : Event) {l : Loc} (h : l ∈ e.writes) : l ∈ e.reads := by
  cases e with
  | reconcile a req => exact reconcileWrites_subset a req h
  | delete _ _ | purge _ => exact h

/-- Neither event writes a place the other reads. -/
def Event.Independent (e₁ e₂ : Event) : Prop :=
  (∀ l ∈ e₁.writes, l ∉ e₂.reads) ∧ (∀ l ∈ e₂.writes, l ∉ e₁.reads)

instance (e₁ e₂ : Event) : Decidable (e₁.Independent e₂) :=
  inferInstanceAs (Decidable (_ ∧ _))

theorem Event.Independent.symm {e₁ e₂ : Event} (h : e₁.Independent e₂) : e₂.Independent e₁ :=
  ⟨h.2, h.1⟩

/-- **Step lemma**: independent events commute. -/
theorem Event.Independent.step_comm {e₁ e₂ : Event} (h : e₁.Independent e₂) (w : World) :
    (w.step e₁).step e₂ = (w.step e₂).step e₁ :=
  Local.comm e₁.step_local e₂.step_local
    (fun l hl => ⟨h.1 l hl, fun hw => h.1 l hl (e₂.writes_subset hw)⟩) h.2 w

/-- A call and an event independent of it commute, and the call returns the
same `Result` and error whether the event comes before it or not. -/
theorem reconcile_commute (a : Answers) (req : ObjectKey) (e : Event) (w : World)
    (h : Event.Independent (.reconcile a req) e) :
    (reconcile a req (w.step e)).result = (reconcile a req w).result ∧
      (reconcile a req (w.step e)).err = (reconcile a req w).err ∧
      (w.step (.reconcile a req)).step e = (w.step e).step (.reconcile a req) := by
  have hr : ∀ l ∈ reconcileReads a req, (w.step e).at l = w.at l :=
    fun l hl => e.step_local.frame w l fun hw => h.2 l hw hl
  obtain ⟨hres, herr, -⟩ := reconcile_sim a req hr
  exact ⟨hres, herr, h.step_comm w⟩

/-- A second worker, whose Machine has bootstrap data of its own. -/
def otherMachine : Machine := ⟨"worker-1", "default", [], some "worker-1-bootstrap", "worker-1"⟩

/-- The call for the second worker, with every collaborator answering. -/
def otherCall : Event :=
  .reconcile { settledAnswers workerContext.cluster with ownerMachine := .ok (some otherMachine) }
    ⟨"default", "worker-1"⟩

/-- Both workers, each with its generic bootstrap Secret. -/
def workersWorld : World :=
  ⟨Store.ofList [workerKubevirtMachine, { workerKubevirtMachine with name := "worker-1", uid := "uid-1" }],
    Store.ofList [genericBootstrapSecret, { genericBootstrapSecret with name := "worker-1-bootstrap" }],
    fun _ => false⟩

theorem reconcile_commute_workers :
    Event.Independent (.reconcile (settledAnswers workerContext.cluster) ⟨"default", "worker-0"⟩) otherCall ∧
    (reconcile (settledAnswers workerContext.cluster) ⟨"default", "worker-0"⟩ (workersWorld.step otherCall)).result =
        (reconcile (settledAnswers workerContext.cluster) ⟨"default", "worker-0"⟩ workersWorld).result ∧
      (reconcile (settledAnswers workerContext.cluster) ⟨"default", "worker-0"⟩ (workersWorld.step otherCall)).err =
        (reconcile (settledAnswers workerContext.cluster) ⟨"default", "worker-0"⟩ workersWorld).err ∧
      (workersWorld.step (.reconcile (settledAnswers workerContext.cluster) ⟨"default", "worker-0"⟩)).step otherCall =
        (workersWorld.step otherCall).step (.reconcile (settledAnswers workerContext.cluster) ⟨"default", "worker-0"⟩) :=
  ⟨by decide, reconcile_commute _ _ otherCall workersWorld (by decide)⟩

/-- A Machine that names the worker's bootstrap data makes the two calls
dependent: each writes the derived Secret the other reads. -/
example : ¬ Event.Independent (.reconcile (settledAnswers workerContext.cluster) ⟨"default", "worker-0"⟩)
    (.reconcile { settledAnswers workerContext.cluster with ownerMachine := .ok (some secondMachine) }
      ⟨"default", "worker-1"⟩) := by
  decide

/-! ## Runs up to independent reorderings -/

/-- Runs that differ by swapping adjacent independent events. -/
inductive Reorders : List Event → List Event → Prop
  | refl (evs : List Event) : Reorders evs evs
  | swap (pre post : List Event) {e₁ e₂ : Event} (h : e₁.Independent e₂) :
      Reorders (pre ++ e₁ :: e₂ :: post) (pre ++ e₂ :: e₁ :: post)
  | trans {evs evs' evs'' : List Event} : Reorders evs evs' → Reorders evs' evs'' → Reorders evs evs''

/-- **Run lemma**: runs that differ by swapping adjacent independent events
end in the same world. -/
theorem run_reorder (w : World) {evs evs' : List Event} (h : Reorders evs evs') :
    w.run evs = w.run evs' := by
  induction h with
  | refl => rfl
  | swap pre post h =>
    simp only [World.run, List.foldl_append, List.foldl_cons]
    rw [h.step_comm]
  | trans _ _ ih ih' => exact ih.trans ih'

theorem run_reorder_workers :
    workersWorld.run [.reconcile (settledAnswers workerContext.cluster) ⟨"default", "worker-0"⟩, otherCall] =
      workersWorld.run [otherCall, .reconcile (settledAnswers workerContext.cluster) ⟨"default", "worker-0"⟩] :=
  run_reorder workersWorld (.swap [] [] (by decide))

end CapkReconciler
