import CapkReconciler.Effects

/-!
# The finalizer discipline

`Reconcile` adds `MachineFinalizer` before it provisions anything, and drops
it only on the delete path, after the patch reporting `Deleting` has landed
(lines 140–156 and 313–329). With every patch persisting the whole in-memory
object or nothing:

- `finalizer_discipline`: in every call, every provisioning side effect comes
  from a loaded object that carries the finalizer and is not being deleted;
  the finalizer leaves the persisted object only in a call that loaded a
  deleting object, after its `Deleting` patch landed; and a call whose
  `Deleting` patch fails leaves the persisted finalizers as they were.
- `reconcile_deleting`: a deleting machine in a call whose patches succeed
  loses its finalizer exactly when the Cluster reports its infrastructure
  ready. The readiness gate (lines 147–151) comes before the deletion branch
  (lines 154–156), so while the infrastructure is not ready a deleting
  machine is only marked `WaitingForClusterInfrastructure` and keeps its
  finalizer (`reconcile_deleting_infraNotReady`).
-/

namespace CapkReconciler

/-- A provisioning side effect: a VM create, a write of a Secret, or a
provider-ID registration against the workload cluster. -/
def Effect.isProvisioning : Effect → Bool
  | .createVM _ _ | .createSecret _ _ | .updateSecret _ _ | .setProviderID _ => true
  | _ => false

/-- The status and reason of a KubevirtMachine's condition of type `t`. -/
def KubevirtMachine.conditionState (t : String) (m : KubevirtMachine) :
    Option (ConditionStatus × String) :=
  (m.condition t).map fun c => (c.status, c.reason)

@[simp] theorem KubevirtMachine.conditionState_markFalse (m : KubevirtMachine) (now : Nat)
    (t r : String) (sv : ConditionSeverity) (msg : String) :
    (m.markFalse now t r sv msg).conditionState t = some (.false, r) := by
  obtain ⟨τ, h⟩ := Conditions.get_set_self now (Conditions.falseCondition t r sv msg) m.conditions
  show Option.map _ (Conditions.get (Conditions.falseCondition t r sv msg).type
    (Conditions.set now (Conditions.falseCondition t r sv msg) m.conditions)) = _
  rw [h]
  rfl

@[simp] theorem KubevirtMachine.conditionState_markTrue (m : KubevirtMachine) (now : Nat)
    (t : String) : (m.markTrue now t).conditionState t = some (.true, "") := by
  obtain ⟨τ, h⟩ := Conditions.get_set_self now (Conditions.trueCondition t) m.conditions
  show Option.map _ (Conditions.get (Conditions.trueCondition t).type
    (Conditions.set now (Conditions.trueCondition t) m.conditions)) = _
  rw [h]
  rfl

/-- The deferred patch, computed. -/
theorem deferredPatch_eq (a : Answers) (o : Outcome) :
    deferredPatch a o = ⟨o.result, o.err.or (a.patch .reconcile),
      o.sys.emit (.patch .reconcile o.machine (a.patch .reconcile).isNone)⟩ := by
  simp only [deferredPatch, patchKubevirtMachine_eq]
  cases o.err <;> rfl

/-- The delete path, computed. -/
theorem reconcileDelete_eq (a : Answers) (km : KubevirtMachine) (s : Sys) :
    reconcileDelete a km s =
      match a.newHelper .reconcileDelete, a.patch .reconcileDelete with
      | some e, _ => ⟨{}, some e, km, s⟩
      | none, some e =>
        ⟨{}, some (.wrap "failed to patch KubevirtMachine" e),
          km.markFalse a.now vmProvisionedCondition deletingReason .info "",
          s.emit (.patch .reconcileDelete (km.markFalse a.now vmProvisionedCondition deletingReason .info "") false)⟩
      | none, none =>
        ⟨{}, none, { km.markFalse a.now vmProvisionedCondition deletingReason .info "" with
            finalizers := removeFinalizer km.finalizers machineFinalizer },
          s.emit (.patch .reconcileDelete (km.markFalse a.now vmProvisionedCondition deletingReason .info "") true)⟩ := by
  unfold reconcileDelete
  cases a.newHelper .reconcileDelete <;> cases a.patch .reconcileDelete <;> rfl

/-- **Inversion lemma** for `reconcileBranch`: the finalizer gate, the wait
for cluster infrastructure, the delete path, or the normal path. -/
theorem reconcileBranch_cases (a : Answers) (c : MachineContext) (km : KubevirtMachine) (s : Sys) :
    (machineFinalizer ∉ km.finalizers ∧ reconcileBranch a c km s =
      ⟨{}, none, { km with finalizers := addFinalizer km.finalizers machineFinalizer }, s⟩) ∨
    (machineFinalizer ∈ km.finalizers ∧ c.cluster.infrastructureReady = false ∧
      reconcileBranch a c km s = ⟨{}, none, km.markFalse a.now vmProvisionedCondition
        waitingForClusterInfrastructureReason .info "", s⟩) ∨
    (machineFinalizer ∈ km.finalizers ∧ c.cluster.infrastructureReady = true ∧
      km.deletionTimestamp.isSome ∧ reconcileBranch a c km s = reconcileDelete a km s) ∨
    (machineFinalizer ∈ km.finalizers ∧ c.cluster.infrastructureReady = true ∧
      km.deletionTimestamp = none ∧ reconcileBranch a c km s = reconcileNormal a c km s) := by
  unfold reconcileBranch
  by_cases hf : machineFinalizer ∈ km.finalizers
  · have hc : containsFinalizer km.finalizers machineFinalizer = true := by simpa using hf
    cases hr : c.cluster.infrastructureReady
    · exact .inr (.inl ⟨hf, rfl, by simp [hc, hr]⟩)
    cases hd : km.deletionTimestamp
    · exact .inr (.inr (.inr ⟨hf, rfl, rfl, by simp [hc, hr, hd]⟩))
    · exact .inr (.inr (.inl ⟨hf, rfl, rfl, by simp [hc, hr, hd]⟩))
  · have hc : containsFinalizer km.finalizers machineFinalizer = false := by
      simpa [← containsFinalizer_iff] using hf
    exact .inl ⟨hf, by simp [hc]⟩

theorem Extends.eq_emitAll {Q : Effect → Prop} {s s' : Sys} (h : Extends Q s s')
    (hs : s.effects = []) : s' = s.emitAll s'.effects := by
  obtain ⟨es, rfl, -⟩ := h
  simp [hs]

/-- A call only ever issues effects onto the world it started from. -/
theorem reconcile_sys (a : Answers) (req : ObjectKey) (w : World) :
    (reconcile a req w).sys = Sys.emitAll ⟨w, []⟩ (reconcile a req w).sys.effects := by
  rcases reconcile_cases a req w with ⟨-, h⟩ | ⟨km, c, -, -, -, -, -, -, h⟩
  · rw [h]; rfl
  rw [h, deferredPatch_eq]
  refine Extends.eq_emitAll (Q := fun _ => True) (.trans ?_ (.emit trivial)) rfl
  rcases reconcileBranch_cases a c km ⟨w, []⟩ with ⟨-, h⟩ | ⟨-, -, h⟩ | ⟨-, -, -, h⟩ | ⟨-, -, -, h⟩ <;>
    rw [h]
  · exact .refl _ _
  · exact .refl _ _
  · rw [reconcileDelete_eq]
    split
    · exact .refl _ _
    · exact .emit trivial
    · exact .emit trivial
  · exact (reconcileNormal_extends a c km _).mono (fun _ _ => trivial)

/-- What every patch a call lands under `req` has, and the object it loaded
has, the persisted object has after the call. -/
theorem persisted_of_landed {P : KubevirtMachine → Prop} (a : Answers) (req : ObjectKey) (w : World)
    (hes : ∀ site m, .patch site m true ∈ (reconcile a req w).sys.effects → m.key = req → P m)
    (h0 : ∀ m, w.kubevirtMachines.lookup req = some m → P m) :
    ∀ m, (reconcile a req w).sys.world.kubevirtMachines.lookup req = some m → P m := by
  rw [reconcile_sys a req w]
  exact lookup_emitAll_of _ _ hes h0

/-- No effect removes a KubevirtMachine. -/
theorem lookup_isSome_emitAll (s : Sys) (es : List Effect) (k : ObjectKey)
    (h : (s.world.kubevirtMachines.lookup k).isSome) :
    ((s.emitAll es).world.kubevirtMachines.lookup k).isSome := by
  induction es generalizing s with
  | nil => exact h
  | cons e es ih =>
    refine ih (s.emit e) ?_
    cases e with
    | patch site m ok =>
      cases ok
      · exact h
      · simp only [Sys.emit_world, Effect.apply, Store.lookup_put]
        split <;> simp_all
    | createSecret _ ok => cases ok <;> exact h
    | updateSecret _ ok => cases ok <;> exact h
    | newMachine _ => exact h
    | createVM _ ok => cases ok <;> exact h
    | setProviderID _ => exact h

/-- The effects of a call that loaded `km` with context `c`: those of
`reconcileBranch`, then the deferred patch. -/
theorem reconcile_effects_of_loaded {a : Answers} {req : ObjectKey} {w : World} {km : KubevirtMachine}
    {c : MachineContext} (heq : reconcile a req w = deferredPatch a (reconcileBranch a c km ⟨w, []⟩)) :
    (reconcile a req w).sys.effects = (reconcileBranch a c km ⟨w, []⟩).sys.effects ++
      [.patch .reconcile (reconcileBranch a c km ⟨w, []⟩).machine (a.patch .reconcile).isNone] := by
  rw [heq, deferredPatch_eq]
  rfl

/-- The effects of the normal path, with the deferred patch. -/
theorem normal_effects (a : Answers) (c : MachineContext) (km : KubevirtMachine) (w : World) :
    ∃ es, (reconcileNormal a c km ⟨w, []⟩).sys.effects = es ∧ ∀ e ∈ es, NormalEffect a c km e := by
  obtain ⟨es, h, hes⟩ := (reconcileNormal_extends a c km ⟨w, []⟩).effects_eq
  exact ⟨es, by simpa using h, hes⟩

/-- (i) Every provisioning side effect of a call comes from a loaded object
that carries the finalizer and is not being deleted. -/
theorem provisioning_of_loaded (a : Answers) (req : ObjectKey) (w : World) {e : Effect}
    (he : e ∈ (reconcile a req w).sys.effects) (hp : e.isProvisioning = true) :
    ∃ km, w.kubevirtMachines.lookup req = some km ∧ machineFinalizer ∈ km.finalizers ∧
      km.deletionTimestamp = none := by
  rcases reconcile_cases a req w with ⟨-, h⟩ | ⟨km, c, -, hk, -, -, -, -, heq⟩
  · rw [h] at he
    simp at he
  rw [reconcile_effects_of_loaded heq, List.mem_append, List.mem_singleton] at he
  rcases he with he | rfl
  · rcases reconcileBranch_cases a c km ⟨w, []⟩ with
      ⟨-, h⟩ | ⟨-, -, h⟩ | ⟨-, -, -, h⟩ | ⟨hfin, -, hdel, h⟩ <;> rw [h] at he
    · simp at he
    · simp at he
    · rw [reconcileDelete_eq] at he
      split at he <;> simp at he <;> (subst he; simp [Effect.isProvisioning] at hp)
    · exact ⟨km, hk, hfin, hdel⟩
  · simp [Effect.isProvisioning] at hp

theorem KubevirtMachine.finalizers_eq_of_meta {m m' : KubevirtMachine} (h : m'.meta = m.meta) :
    m'.finalizers = m.finalizers := by
  simp only [KubevirtMachine.meta, Prod.mk.injEq] at h
  exact h.2.2.2.2.2.1

/-- **Inversion lemma** for a loaded call, on the finalizers it writes: the
successful delete path, which drops the finalizer after its `Deleting` patch;
the finalizer gate, which adds it; or a call all of whose patches carry the
loaded finalizers. -/
theorem reconcile_finalizer_cases {a : Answers} {req : ObjectKey} {w : World}
    {km : KubevirtMachine} {c : MachineContext}
    (heq : reconcile a req w = deferredPatch a (reconcileBranch a c km ⟨w, []⟩)) :
    (km.deletionTimestamp.isSome ∧ machineFinalizer ∈ km.finalizers ∧
      (reconcile a req w).sys.effects =
        [.patch .reconcileDelete (km.markFalse a.now vmProvisionedCondition deletingReason .info "") true,
         .patch .reconcile { km.markFalse a.now vmProvisionedCondition deletingReason .info "" with
            finalizers := removeFinalizer km.finalizers machineFinalizer } (a.patch .reconcile).isNone]) ∨
    (machineFinalizer ∉ km.finalizers ∧ (reconcile a req w).sys.effects =
      [.patch .reconcile { km with finalizers := addFinalizer km.finalizers machineFinalizer }
        (a.patch .reconcile).isNone]) ∨
    (∀ site m ok, .patch site m ok ∈ (reconcile a req w).sys.effects → m.finalizers = km.finalizers) := by
  rw [reconcile_effects_of_loaded heq]
  rcases reconcileBranch_cases a c km ⟨w, []⟩ with
    ⟨hf, h⟩ | ⟨-, -, h⟩ | ⟨hf, -, hdel, h⟩ | ⟨-, -, -, h⟩ <;> rw [h]
  case inl => exact .inr (.inl ⟨hf, rfl⟩)
  case inr.inl => exact .inr (.inr fun site m ok hm => by simp at hm; rw [hm.2.1]; rfl)
  case inr.inr.inl =>
    rw [reconcileDelete_eq]
    split
    · exact .inr (.inr fun site m ok hm => by simp at hm; rw [hm.2.1])
    · refine .inr (.inr fun site m ok hm => ?_)
      simp only [List.nil_append, List.singleton_append, Sys.emit_effects, List.mem_cons,
        Effect.patch.injEq, List.mem_singleton, List.not_mem_nil, or_false] at hm
      rcases hm with ⟨-, rfl, -⟩ | ⟨-, rfl, -⟩ <;> rfl
    · exact .inl ⟨hdel, hf, rfl⟩
  case inr.inr.inr =>
    obtain ⟨es, hes, hQ⟩ := normal_effects a c km w
    refine .inr (.inr fun site m ok hm => ?_)
    rw [hes, List.mem_append, List.mem_singleton] at hm
    rcases hm with hm | hm
    · obtain ⟨-, -, -, rfl⟩ := hQ _ hm
      rfl
    · cases hm
      exact KubevirtMachine.finalizers_eq_of_meta (reconcileNormal_meta a c km _)

/-- (ii) The finalizer leaves the persisted object only in a call that loaded
a deleting object, after the patch reporting its deletion has landed, and
every patch before that one keeps it. -/
theorem finalizer_removed_only_after_deleting (a : Answers) (req : ObjectKey) (w : World)
    {km km' : KubevirtMachine} (hk : w.kubevirtMachines.lookup req = some km)
    (hfin : machineFinalizer ∈ km.finalizers)
    (hk' : (reconcile a req w).sys.world.kubevirtMachines.lookup req = some km')
    (hfin' : machineFinalizer ∉ km'.finalizers) :
    km.deletionTimestamp.isSome ∧ ∃ pre m post, (reconcile a req w).sys.effects =
      pre ++ .patch .reconcileDelete m true :: post ∧ machineFinalizer ∈ m.finalizers ∧
      m.conditionState vmProvisionedCondition = some (.false, deletingReason) ∧
      ∀ site m' ok, .patch site m' ok ∈ pre → machineFinalizer ∈ m'.finalizers := by
  have keep : ∀ m, w.kubevirtMachines.lookup req = some m → machineFinalizer ∈ m.finalizers := by
    intro m hm
    rw [hk] at hm
    cases hm
    exact hfin
  rcases reconcile_cases a req w with ⟨-, h⟩ | ⟨km₀, c, -, hk₀, -, -, -, -, heq⟩
  · rw [h] at hk'
    exact absurd (keep _ hk') hfin'
  rw [hk] at hk₀
  cases hk₀
  rcases reconcile_finalizer_cases heq with ⟨hdel, -, he⟩ | ⟨hf, -⟩ | hall
  · exact ⟨hdel, [], _, _, he, hfin, by simp, by simp⟩
  · exact absurd hfin hf
  · refine absurd (persisted_of_landed a req w (fun site m hm _ => ?_) keep _ hk') hfin'
    rw [hall site m true hm]
    exact hfin

/-- (iii) A call whose patch reporting the deletion is refused leaves the
persisted finalizers as they were. -/
theorem finalizers_kept_of_deleting_patch_refused (a : Answers) (req : ObjectKey) (w : World)
    {m : KubevirtMachine} (hm : .patch .reconcileDelete m false ∈ (reconcile a req w).sys.effects) :
    ((reconcile a req w).sys.world.kubevirtMachines.lookup req).map KubevirtMachine.finalizers =
      (w.kubevirtMachines.lookup req).map KubevirtMachine.finalizers := by
  rcases reconcile_cases a req w with ⟨-, h⟩ | ⟨km, c, -, hk, -, -, -, -, heq⟩
  · rw [h]
  rcases reconcile_finalizer_cases heq with ⟨-, -, he⟩ | ⟨-, he⟩ | hall
  · rw [he] at hm
    simp at hm
  · rw [he] at hm
    simp at hm
  have hsome := lookup_isSome_emitAll ⟨w, []⟩ (reconcile a req w).sys.effects req (by simp [hk])
  rw [← reconcile_sys] at hsome
  obtain ⟨km', hk'⟩ := Option.isSome_iff_exists.mp hsome
  have hkeep := persisted_of_landed (P := fun m => m.finalizers = km.finalizers) a req w
    (fun site m hm _ => hall site m true hm) (fun m hm => by rw [hk] at hm; cases hm; rfl) _ hk'
  rw [hk', hk, Option.map_some', Option.map_some', hkeep]

/-- The finalizer discipline of a call, from any stored objects and under any
answers: provisioning only from a loaded, finalized, live object; the
finalizer dropped only after the landed `Deleting` patch of a deleting
object; and kept when that patch is refused. -/
theorem finalizer_discipline (a : Answers) (req : ObjectKey) (w : World) :
    (∀ e ∈ (reconcile a req w).sys.effects, e.isProvisioning = true →
      ∃ km, w.kubevirtMachines.lookup req = some km ∧ machineFinalizer ∈ km.finalizers ∧
        km.deletionTimestamp = none) ∧
    (∀ km km', w.kubevirtMachines.lookup req = some km → machineFinalizer ∈ km.finalizers →
      (reconcile a req w).sys.world.kubevirtMachines.lookup req = some km' →
      machineFinalizer ∉ km'.finalizers →
      km.deletionTimestamp.isSome ∧ ∃ pre m post, (reconcile a req w).sys.effects =
        pre ++ .patch .reconcileDelete m true :: post ∧ machineFinalizer ∈ m.finalizers ∧
        m.conditionState vmProvisionedCondition = some (.false, deletingReason) ∧
        ∀ site m' ok, .patch site m' ok ∈ pre → machineFinalizer ∈ m'.finalizers) ∧
    (∀ m, .patch .reconcileDelete m false ∈ (reconcile a req w).sys.effects →
      ((reconcile a req w).sys.world.kubevirtMachines.lookup req).map KubevirtMachine.finalizers =
        (w.kubevirtMachines.lookup req).map KubevirtMachine.finalizers) :=
  ⟨fun _ he hp => provisioning_of_loaded a req w he hp,
   fun _ _ hk hfin hk' hfin' => finalizer_removed_only_after_deleting a req w hk hfin hk' hfin',
   fun _ hm => finalizers_kept_of_deleting_patch_refused a req w hm⟩

/-! ## A deleting machine in a call whose writes succeed -/

/-- A call that loads `km` and its whole context runs `reconcileBranch`
under the deferred patch. -/
theorem reconcile_of_loaded {a : Answers} {req : ObjectKey} {w : World} {km : KubevirtMachine}
    {c : MachineContext} (hf : a.kubevirtMachineFault = none)
    (hk : w.kubevirtMachines.lookup req = some km) (hm : a.ownerMachine = .ok (some c.machine))
    (hc : a.cluster = .ok (some c.cluster))
    (hkc : a.kubevirtCluster ⟨km.ns, c.cluster.infrastructureRefName⟩ = .ok c.kubevirtCluster)
    (hh : a.newHelper .reconcile = none) :
    reconcile a req w = deferredPatch a (reconcileBranch a c km ⟨w, []⟩) := by
  simp only [reconcile, getKubevirtMachine, hf, hk, hm, hc, hkc, hh]

/-- A landed deferred patch persists the in-memory object under its key. -/
theorem deferredPatch_landed {a : Answers} {o : Outcome} {k : ObjectKey}
    (hp : a.patch .reconcile = none) (hk : o.machine.key = k) :
    (deferredPatch a o).err = o.err ∧
      (deferredPatch a o).sys.world.kubevirtMachines.lookup k = some o.machine := by
  rw [deferredPatch_eq, hp, ← hk]
  refine ⟨by cases o.err <;> rfl, ?_⟩
  simp [Effect.apply, Store.lookup_put]

/-- A store holding one deleting, finalized worker machine. -/
def deletingWorld : World :=
  ⟨Store.ofList [{ workerKubevirtMachine with deletionTimestamp := some 1 }],
    Store.ofList [genericBootstrapSecret], fun _ => false⟩

/-- Every collaborator answers and every write succeeds; the Cluster is
`cluster`. -/
def settledAnswers (cluster : Cluster) : Answers :=
  ⟨0, none, .ok (some workerMachine), .ok (some cluster), fun _ => .ok ⟨"c", "default"⟩,
    fun _ => none, fun _ => none, SecretFaults.none, true, .ok ⟨[], []⟩, none, none, "10.0.0.1",
    fun _ => true, fun _ => true, fun _ => none, none, .ok "kubevirt://worker-0"⟩

/-- A deleting, finalized machine whose Machine, Cluster and KubevirtCluster
resolve, in a call whose writes succeed: the call returns no error, and the
persisted machine has lost its finalizer and reports `Deleting` when the
Cluster's infrastructure is ready, and keeps it and reports
`WaitingForClusterInfrastructure` when it is not. -/
theorem reconcile_deleting (a : Answers) (req : ObjectKey) (w : World) {km : KubevirtMachine}
    (c : MachineContext) (hk : w.kubevirtMachines.lookup req = some km)
    (hf : a.kubevirtMachineFault = none) (hdel : km.deletionTimestamp.isSome)
    (hfin : machineFinalizer ∈ km.finalizers) (hm : a.ownerMachine = .ok (some c.machine))
    (hc : a.cluster = .ok (some c.cluster))
    (hkc : a.kubevirtCluster ⟨km.ns, c.cluster.infrastructureRefName⟩ = .ok c.kubevirtCluster)
    (hh : ∀ site, a.newHelper site = none) (hp : ∀ site, a.patch site = none) :
    (reconcile a req w).err = none ∧ ∃ km',
      (reconcile a req w).sys.world.kubevirtMachines.lookup req = some km' ∧
      (c.cluster.infrastructureReady = true → machineFinalizer ∉ km'.finalizers ∧
        km'.conditionState vmProvisionedCondition = some (.false, deletingReason)) ∧
      (c.cluster.infrastructureReady = false → machineFinalizer ∈ km'.finalizers ∧
        km'.conditionState vmProvisionedCondition = some (.false, waitingForClusterInfrastructureReason)) := by
  have hkey : km.key = req := w.kubevirtMachines.lookup_key hk
  have hdelete : reconcileDelete a km ⟨w, []⟩ = ⟨{}, none,
      { km.markFalse a.now vmProvisionedCondition deletingReason .info "" with
        finalizers := removeFinalizer km.finalizers machineFinalizer },
      (Sys.mk w []).emit (.patch .reconcileDelete
        (km.markFalse a.now vmProvisionedCondition deletingReason .info "") true)⟩ := by
    rw [reconcileDelete_eq, hh, hp]
  rw [reconcile_of_loaded hf hk hm hc hkc (hh _)]
  rcases reconcileBranch_cases a c km ⟨w, []⟩ with
    ⟨hf', -⟩ | ⟨-, hr, h⟩ | ⟨-, hr, -, h⟩ | ⟨-, -, hd, -⟩
  case inl => exact absurd hfin hf'
  case inr.inl =>
    obtain ⟨herr, hlook⟩ := deferredPatch_landed (o := reconcileBranch a c km ⟨w, []⟩) (k := req) (hp _)
      (by rw [h]; exact hkey)
    rw [h] at herr hlook ⊢
    exact ⟨herr, _, hlook, by simp [hr], fun _ => ⟨hfin, by simp⟩⟩
  case inr.inr.inl =>
    obtain ⟨herr, hlook⟩ := deferredPatch_landed (o := reconcileBranch a c km ⟨w, []⟩) (k := req) (hp _)
      (by rw [h, hdelete]; exact hkey)
    rw [h, hdelete] at herr hlook ⊢
    exact ⟨herr, _, hlook, fun _ => ⟨by simp, km.conditionState_markFalse _ _ _ _ _⟩, by simp [hr]⟩
  case inr.inr.inr =>
    rw [hd] at hdel
    cases hdel

/-- The worker machine of `deletingWorld`, in a cluster whose
infrastructure is ready. -/
theorem reconcile_deleting_worker :
    (reconcile (settledAnswers ⟨"c", "c", true, []⟩) ⟨"default", "worker-0"⟩ deletingWorld).err = none ∧
    ∃ km', (reconcile (settledAnswers ⟨"c", "c", true, []⟩) ⟨"default", "worker-0"⟩
        deletingWorld).sys.world.kubevirtMachines.lookup ⟨"default", "worker-0"⟩ = some km' ∧
      (true = true → machineFinalizer ∉ km'.finalizers ∧
        km'.conditionState vmProvisionedCondition = some (.false, deletingReason)) ∧
      (true = false → machineFinalizer ∈ km'.finalizers ∧
        km'.conditionState vmProvisionedCondition = some (.false, waitingForClusterInfrastructureReason)) :=
  reconcile_deleting _ _ _ ⟨⟨"c", "c", true, []⟩, ⟨"c", "default"⟩, workerMachine⟩
    (show _ = some { workerKubevirtMachine with deletionTimestamp := some 1 } by decide) rfl rfl
    (by decide) rfl rfl rfl (fun _ => rfl) (fun _ => rfl)

/-- Everything of a deletion succeeds, yet while the Cluster's infrastructure
is not ready the persisted machine keeps its finalizer. -/
theorem reconcile_deleting_infraNotReady :
    ((reconcile (settledAnswers ⟨"c", "c", false, []⟩) ⟨"default", "worker-0"⟩ deletingWorld).sys.world.kubevirtMachines.lookup
      ⟨"default", "worker-0"⟩).map (fun m => decide (machineFinalizer ∈ m.finalizers)) = some true := by
  decide

end CapkReconciler
