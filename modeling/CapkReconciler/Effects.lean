import CapkReconciler.Reconciler

/-!
# What a reconciliation issues

Each stage of the reconciler only appends effects to the reconciliation it
is given. `Extends Q s s'` says that `s'` is `s` after effects that all satisfy
`Q`; it is reflexive and transitive, and every stage gets one lemma saying
which effects it may issue.

- `reconcileNormal_extends`: `reconcileNormal` issues only `NormalEffect`s:
  the VM handle fetch and VM create under the machine's own key, provider-ID
  registrations, creates of the machine's derived bootstrap Secret, and the
  patch before bootstrapping.
- `reconcileNormal_meta`: it edits nothing of the machine's metadata (name,
  namespace, UID, finalizers, deletion timestamp).
- `reconcileDelete_eq`: the delete path, computed.
- `reconcile_cases`: `Reconcile` either returns before the deferred patch,
  issuing nothing, or loads the machine and its context, runs
  `reconcileBranch`, and issues the deferred patch of what that leaves.
-/

namespace CapkReconciler

/-! ## Effects issued in order -/

/-- `s` after issuing `es`, oldest first. -/
def Sys.emitAll (s : Sys) (es : List Effect) : Sys := es.foldl Sys.emit s

@[simp] theorem Sys.emitAll_nil (s : Sys) : s.emitAll [] = s := rfl

theorem Sys.emitAll_append (s : Sys) (es fs : List Effect) :
    s.emitAll (es ++ fs) = (s.emitAll es).emitAll fs := List.foldl_append _ _ _ _

theorem Sys.emit_eq_emitAll (s : Sys) (e : Effect) : s.emit e = s.emitAll [e] := rfl

@[simp] theorem Sys.emitAll_effects (s : Sys) (es : List Effect) :
    (s.emitAll es).effects = s.effects ++ es := by
  induction es generalizing s with
  | nil => simp
  | cons e es ih =>
    show ((s.emit e).emitAll es).effects = _
    simp [ih]

/-- `s'` is `s` after issuing effects that all satisfy `Q`. -/
def Extends (Q : Effect → Prop) (s s' : Sys) : Prop :=
  ∃ es, s' = s.emitAll es ∧ ∀ e ∈ es, Q e

namespace Extends

variable {Q Q' : Effect → Prop} {s s' s'' : Sys}

theorem refl (Q : Effect → Prop) (s : Sys) : Extends Q s s := ⟨[], rfl, by simp⟩

theorem trans (h : Extends Q s s') (h' : Extends Q s' s'') : Extends Q s s'' := by
  obtain ⟨es, rfl, hes⟩ := h
  obtain ⟨fs, rfl, hfs⟩ := h'
  exact ⟨es ++ fs, (Sys.emitAll_append _ _ _).symm,
    fun e he => (List.mem_append.mp he).elim (hes e) (hfs e)⟩

theorem emit {e : Effect} (h : Q e) : Extends Q s (s.emit e) := ⟨[e], rfl, by simpa using h⟩

theorem mono (hQ : ∀ e, Q e → Q' e) (h : Extends Q s s') : Extends Q' s s' := by
  obtain ⟨es, rfl, hes⟩ := h
  exact ⟨es, rfl, fun e he => hQ e (hes e he)⟩

/-- The effects issued, in order. -/
theorem effects_eq (h : Extends Q s s') : ∃ es, s'.effects = s.effects ++ es ∧ ∀ e ∈ es, Q e := by
  obtain ⟨es, rfl, hes⟩ := h
  exact ⟨es, by simp, hes⟩

end Extends

/-! ## Metadata the reconciler never edits -/

/-- The metadata of a KubevirtMachine: what identifies it, its finalizers and
its deletion timestamp. -/
def KubevirtMachine.meta (m : KubevirtMachine) :
    String × String × String × String × String × List String × Option Nat :=
  (m.name, m.ns, m.uid, m.apiVersion, m.kind, m.finalizers, m.deletionTimestamp)

@[simp] theorem KubevirtMachine.meta_markTrue (m : KubevirtMachine) (now : Nat) (t : String) :
    (m.markTrue now t).meta = m.meta := rfl

@[simp] theorem KubevirtMachine.meta_markFalse (m : KubevirtMachine) (now : Nat)
    (t r : String) (sv : ConditionSeverity) (msg : String) :
    (m.markFalse now t r sv msg).meta = m.meta := rfl

theorem KubevirtMachine.key_eq_of_meta {m m' : KubevirtMachine} (h : m'.meta = m.meta) :
    m'.key = m.key := by
  simp only [KubevirtMachine.meta, Prod.mk.injEq] at h
  simp [KubevirtMachine.key, h]

theorem KubevirtMachine.ownerRef_eq_of_meta {m m' : KubevirtMachine} (h : m'.meta = m.meta) :
    m'.ownerRef = m.ownerRef := by
  simp only [KubevirtMachine.meta, Prod.mk.injEq] at h
  simp [KubevirtMachine.ownerRef, h]

/-! ## What each stage issues -/

/-- The effects `reconcileNormal` may issue for the in-memory machine `km`:
the fetch of its VM handle and the create of its VM, provider-ID
registrations, creates of its derived bootstrap Secret, and the patch before
bootstrapping, which persists `km` marked provisioned and bootstrapping. -/
def NormalEffect (a : Answers) (c : MachineContext) (km : KubevirtMachine) : Effect → Prop
  | .newMachine vm => vm = km.key
  | .createVM vm _ => vm = km.key
  | .setProviderID _ => True
  | .createSecret sec _ =>
    ∃ dsn v, c.machine.dataSecretName = some dsn ∧ sec = userdataSecret c.machine km dsn v
  | .updateSecret _ _ => False
  | .patch site m _ =>
    site = .reconcileNormal ∧ km.providerID = none ∧
      Conditions.has bootstrapExecSucceededCondition km.conditions = false ∧
      m = (km.markTrue a.now vmProvisionedCondition).markFalse a.now
        bootstrapExecSucceededCondition bootstrappingReason .info ""

theorem patchNodeProviderID_extends (a : Answers) (c : MachineContext) (km : KubevirtMachine)
    (s : Sys) : Extends (fun e => ∃ ok, e = .setProviderID ok) s (patchNodeProviderID a c km s).sys := by
  unfold patchNodeProviderID
  split
  · exact .refl _ _
  · split <;> exact .emit ⟨_, rfl⟩

theorem waitForBootstrap_extends (a : Answers) (c : MachineContext) (km : KubevirtMachine)
    (exec : VMCommandExecutor) (s : Sys) :
    Extends (fun e => ∃ ok, e = .setProviderID ok) s (waitForBootstrap a c km exec s).sys := by
  unfold waitForBootstrap
  split
  · exact .refl _ _
  · exact patchNodeProviderID_extends _ _ _ _

theorem ensureVM_extends (a : Answers) (km : KubevirtMachine) (s : Sys) :
    Extends (fun e => ∃ ok, e = .createVM km.key ok) s (ensureVM a km s).2 := by
  unfold ensureVM
  split
  · exact .refl _ _
  · rw [createVM_eq]
    exact .emit ⟨_, rfl⟩

theorem markProvisioned_extends (a : Answers) (c : MachineContext) (km : KubevirtMachine)
    (exec : VMCommandExecutor) (s : Sys) (hp : km.providerID = none) :
    Extends (NormalEffect a c km) s (markProvisioned a c km exec s).sys := by
  have hw : ∀ km' s', Extends (NormalEffect a c km) s' (waitForBootstrap a c km' exec s').sys :=
    fun km' s' => (waitForBootstrap_extends a c km' exec s').mono (by rintro _ ⟨ok, rfl⟩; trivial)
  unfold markProvisioned
  split
  · exact .refl _ _
  dsimp only
  split
  · rename_i hhas
    have hpatch : ∀ ok, NormalEffect a c km (.patch .reconcileNormal
        ((km.markTrue a.now vmProvisionedCondition).markFalse a.now bootstrapExecSucceededCondition
          bootstrappingReason .info "") ok) := by
      refine fun _ => ⟨rfl, hp, ?_, rfl⟩
      simpa [KubevirtMachine.markTrue, Conditions.has,
        Conditions.get_markTrue_of_ne _ vmProvisioned_ne_bootstrapExecSucceeded] using hhas
    rw [patchKubevirtMachine_eq]
    cases a.patch .reconcileNormal with
    | some e => exact .emit (hpatch _)
    | none => exact (Extends.emit (hpatch _)).trans (hw _ _)
  · exact hw _ _

theorem provisionVM_extends (a : Answers) (c : MachineContext) (km : KubevirtMachine)
    (keys : SshKeys) (s : Sys) (hp : km.providerID = none) :
    Extends (NormalEffect a c km) s (provisionVM a c km keys s).sys := by
  have hvm : Extends (NormalEffect a c km) s (s.emit (.newMachine km.key)) := .emit rfl
  unfold provisionVM
  dsimp only
  split
  · exact hvm
  have hens : Extends (NormalEffect a c km) _ _ :=
    (ensureVM_extends a km (s.emit (.newMachine km.key))).mono (by rintro _ ⟨ok, rfl⟩; rfl)
  split
  · rename_i heq
    rw [heq] at hens
    exact hvm.trans hens
  · rename_i heq
    rw [heq] at hens
    split
    · exact hvm.trans hens
    · exact (hvm.trans hens).trans (markProvisioned_extends a c km _ _ hp)

theorem reconcileKubevirtBootstrapSecret_extends (a : Answers) (c : MachineContext)
    (km : KubevirtMachine) (s : Sys) :
    Extends (NormalEffect a c km) s (reconcileKubevirtBootstrapSecret a.secrets c km s).2 := by
  rcases reconcileKubevirtBootstrapSecret_cases a.secrets c km s with
    ⟨_, _, _, _, h⟩ | ⟨_, h⟩ | ⟨dsn, v, _, hdsn, h | ⟨-, h⟩⟩ <;> rw [h]
  · exact .refl _ _
  · exact .refl _ _
  · exact .emit ⟨dsn, v, hdsn, rfl⟩
  · exact (Extends.emit ⟨dsn, v, hdsn, rfl⟩).trans (.emit ⟨dsn, v, hdsn, rfl⟩)

/-- `reconcileNormal` issues only `NormalEffect`s. -/
theorem reconcileNormal_extends (a : Answers) (c : MachineContext) (km : KubevirtMachine)
    (s : Sys) : Extends (NormalEffect a c km) s (reconcileNormal a c km s).sys := by
  unfold reconcileNormal
  split
  · exact .refl _ _
  rename_i hp
  split
  · split <;> exact .refl _ _
  split
  · exact .refl _ _
  split
  · exact .refl _ _
  have hst := reconcileKubevirtBootstrapSecret_extends a c km s
  split
  · rename_i heq
    rw [heq] at hst
    exact hst
  · rename_i heq
    rw [heq] at hst
    exact hst.trans (provisionVM_extends a c km _ _ hp)

/-! ## Metadata through the stages -/

theorem patchNodeProviderID_meta (a : Answers) (c : MachineContext) (km : KubevirtMachine)
    (s : Sys) : (patchNodeProviderID a c km s).machine.meta = km.meta := by
  unfold patchNodeProviderID
  split
  · rfl
  · split <;> rfl

theorem waitForBootstrap_meta (a : Answers) (c : MachineContext) (km : KubevirtMachine)
    (exec : VMCommandExecutor) (s : Sys) : (waitForBootstrap a c km exec s).machine.meta = km.meta := by
  unfold waitForBootstrap
  split
  · rfl
  · exact patchNodeProviderID_meta _ _ _ _

theorem markProvisioned_meta (a : Answers) (c : MachineContext) (km : KubevirtMachine)
    (exec : VMCommandExecutor) (s : Sys) : (markProvisioned a c km exec s).machine.meta = km.meta := by
  unfold markProvisioned
  split
  · rfl
  dsimp only
  split
  · rw [patchKubevirtMachine_eq]
    cases a.patch .reconcileNormal with
    | some e => rfl
    | none => exact waitForBootstrap_meta _ _ _ _ _
  · exact waitForBootstrap_meta _ _ _ _ _

/-- `reconcileNormal` edits nothing of the machine's metadata. -/
theorem reconcileNormal_meta (a : Answers) (c : MachineContext) (km : KubevirtMachine) (s : Sys) :
    (reconcileNormal a c km s).machine.meta = km.meta := by
  unfold reconcileNormal
  split
  · rfl
  split
  · split <;> rfl
  split
  · rfl
  split
  · rfl
  split
  · rfl
  unfold provisionVM
  dsimp only
  split
  · rfl
  split
  · rfl
  split
  · rfl
  · exact markProvisioned_meta _ _ _ _ _

/-! ## The persisted KubevirtMachines -/

/-- A property every KubevirtMachine landed under `k` by the effects `es` has,
and the one there before has, holds of the one there after. -/
theorem lookup_emitAll_of {P : KubevirtMachine → Prop} {k : ObjectKey} (s : Sys)
    (es : List Effect) (hes : ∀ site m, Effect.patch site m true ∈ es → m.key = k → P m)
    (h0 : ∀ m, s.world.kubevirtMachines.lookup k = some m → P m) :
    ∀ m, (s.emitAll es).world.kubevirtMachines.lookup k = some m → P m := by
  induction es generalizing s with
  | nil => exact h0
  | cons e es ih =>
    refine ih (s.emit e) (fun site m hm => hes site m (List.mem_cons_of_mem _ hm)) ?_
    intro m hm
    cases e with
    | patch site m' ok =>
      cases ok
      · exact h0 m hm
      · simp only [Sys.emit_world, Effect.apply, Store.lookup_put, Keyed.key_kubevirtMachine] at hm
        split at hm
        · cases hm
          exact hes site m (List.mem_cons_self _ _) ‹_›
        · exact h0 m hm
    | createSecret sec ok => cases ok <;> exact h0 m hm
    | updateSecret sec ok => cases ok <;> exact h0 m hm
    | newMachine vm => exact h0 m hm
    | createVM vm ok => cases ok <;> exact h0 m hm
    | setProviderID ok => exact h0 m hm

theorem getKubevirtMachine_ok {fault : Option GoError} {w : World} {k : ObjectKey}
    {km : KubevirtMachine} (h : getKubevirtMachine fault w k = .ok km) :
    fault = none ∧ w.kubevirtMachines.lookup k = some km := by
  unfold getKubevirtMachine at h
  split at h
  · cases h
  · split at h
    · cases h; exact ⟨rfl, ‹_›⟩
    · cases h

/-- **Inversion lemma** for `Reconcile`: it returns before installing the
deferred patch, issuing nothing, or it loads the KubevirtMachine `km` and its
context `c`, runs `reconcileBranch`, and issues the deferred patch. -/
theorem reconcile_cases (a : Answers) (req : ObjectKey) (w : World) :
    ((reconcile a req w).result = {} ∧ (reconcile a req w).sys = ⟨w, []⟩) ∨
    ∃ km c, a.kubevirtMachineFault = none ∧ w.kubevirtMachines.lookup req = some km ∧
      a.ownerMachine = .ok (some c.machine) ∧ a.cluster = .ok (some c.cluster) ∧
      a.kubevirtCluster ⟨km.ns, c.cluster.infrastructureRefName⟩ = .ok c.kubevirtCluster ∧
      a.newHelper .reconcile = none ∧
      reconcile a req w = deferredPatch a (reconcileBranch a c km ⟨w, []⟩) := by
  unfold reconcile
  split
  · exact .inl ⟨rfl, rfl⟩
  rename_i km hkm
  obtain ⟨hf, hk⟩ := getKubevirtMachine_ok hkm
  split
  · exact .inl ⟨rfl, rfl⟩
  · exact .inl ⟨rfl, rfl⟩
  rename_i machine hm
  split
  · exact .inl ⟨rfl, rfl⟩
  · exact .inl ⟨rfl, rfl⟩
  rename_i cluster hc
  split
  · exact .inl ⟨rfl, rfl⟩
  rename_i kc hkc
  split
  · exact .inl ⟨rfl, rfl⟩
  rename_i hh
  exact .inr ⟨km, ⟨cluster, kc, machine⟩, hf, hk, hm, hc, hkc, hh, rfl⟩

end CapkReconciler
