import CapkReconciler.Status

/-!
# The conditions a KubevirtMachine carries, over whole runs

The controller writes a KubevirtMachine's conditions only through
`conditions.MarkTrue` and `conditions.MarkFalse`, and only those of the two
types it owns, `VMProvisioned` and `BootstrapExecSucceeded` (lines 149, 168,
176, 181, 204, 241, 248, 258, 266, 308 and 320). Everything else that changes
a stored machine, in a call or in the API layer, leaves its conditions alone.
So the conditions other controllers and users put on a machine survive every
run exactly, transition times included.

- `OwnedChange cs cs'`: `cs'` is `cs` changed only in the owned types. It is
  reflexive, transitive and kept by each `conditions.Set` of an owned type
  (`OwnedChange.set`); each stage gets one lemma (`*_ownedChange`).
- `reconcile_lookup`, `step_lookup`: what one call, and one event, can do to
  the machine stored under a key: keep it, stamp its deletion (an event of the
  API layer), or put a patch that a call for that key issued.
- `run_conditions`: over every run, from every world, the machine stored under
  a key at the end carries the conditions of the machine stored at the start,
  changed only in the owned types: every other condition reads back the same,
  no condition type disappears, and the types stay unique.
-/

namespace CapkReconciler

/-- The condition types the controller writes. -/
def ownedConditions : List String := [vmProvisionedCondition, bootstrapExecSucceededCondition]

theorem vmProvisioned_owned : vmProvisionedCondition ∈ ownedConditions := List.mem_cons_self _ _

theorem bootstrapExecSucceeded_owned : bootstrapExecSucceededCondition ∈ ownedConditions :=
  List.mem_cons_of_mem _ (List.mem_singleton_self _)

/-- `cs'` is `cs` changed only in the owned condition types: every other
condition reads back the same, no condition type disappears, and the types
stay unique. -/
structure OwnedChange (cs cs' : List Condition) : Prop where
  foreign : ∀ t ∉ ownedConditions, Conditions.get t cs' = Conditions.get t cs
  has : ∀ t, Conditions.has t cs = true → Conditions.has t cs' = true
  nodup : (cs.map (·.type)).Nodup → (cs'.map (·.type)).Nodup

namespace OwnedChange

variable {cs cs₁ cs₂ cs₃ : List Condition} {now : Nat}

theorem refl (cs : List Condition) : OwnedChange cs cs := ⟨fun _ _ => rfl, fun _ => id, id⟩

theorem trans (h : OwnedChange cs₁ cs₂) (h' : OwnedChange cs₂ cs₃) : OwnedChange cs₁ cs₃ where
  foreign t ht := (h'.foreign t ht).trans (h.foreign t ht)
  has t := h'.has t ∘ h.has t
  nodup := h'.nodup ∘ h.nodup

/-- One `conditions.Set` of an owned type. -/
theorem set {c : Condition} (hc : c.type ∈ ownedConditions) :
    OwnedChange cs (Conditions.set now c cs) where
  foreign t ht := Conditions.get_set_of_ne now c (fun h : c.type = t => ht (h ▸ hc)) cs
  has _ := Conditions.has_set now c
  nodup := Conditions.nodup_set now c

theorem markTrue {t : String} (ht : t ∈ ownedConditions) :
    OwnedChange cs (Conditions.markTrue now t cs) :=
  set ht

theorem markFalse {t r : String} {sv : ConditionSeverity} {msg : String} (ht : t ∈ ownedConditions) :
    OwnedChange cs (Conditions.markFalse now t r sv msg cs) :=
  set ht

end OwnedChange

/-- **Inversion lemma** for the patches of a call: the `Deleting` patch, the
`Bootstrapping` patch of a machine without the condition, or the deferred
patch of the machine the branch holds, each made from the machine the call
loaded. -/
theorem reconcile_patch_cases {a : Answers} {req : ObjectKey} {w : World} {site : PatchSite}
    {m : KubevirtMachine} {ok : Bool} (h : .patch site m ok ∈ (reconcile a req w).sys.effects) :
    ∃ km c, w.kubevirtMachines.lookup req = some km ∧
      (m = km.markFalse a.now vmProvisionedCondition deletingReason .info "" ∨
        (km.providerID = none ∧ Conditions.has bootstrapExecSucceededCondition km.conditions = false ∧
          m = (km.markTrue a.now vmProvisionedCondition).markFalse a.now
            bootstrapExecSucceededCondition bootstrappingReason .info "") ∨
        m = (reconcileBranch a c km ⟨w, []⟩).machine) := by
  rcases reconcile_cases a req w with ⟨-, h0⟩ | ⟨km, c, -, hk, -, -, -, -, heq⟩
  · rw [h0] at h
    simp at h
  refine ⟨km, c, hk, ?_⟩
  rw [reconcile_effects_of_loaded heq, List.mem_append, List.mem_singleton] at h
  rcases h with h | h
  · exact (reconcileBranch_patch h).imp_right .inl
  · cases h
    exact .inr (.inr rfl)

/-! ## Each stage changes only the owned conditions -/

section Stages

variable (a : Answers) (c : MachineContext)

theorem patchNodeProviderID_ownedChange (km : KubevirtMachine) (s : Sys) :
    OwnedChange km.conditions (patchNodeProviderID a c km s).machine.conditions := by
  unfold patchNodeProviderID
  split
  · exact .refl _
  · split
    · exact .refl _
    · exact .markTrue vmProvisioned_owned

theorem waitForBootstrap_ownedChange (km : KubevirtMachine) (exec : VMCommandExecutor) (s : Sys) :
    OwnedChange km.conditions (waitForBootstrap a c km exec s).machine.conditions := by
  unfold waitForBootstrap
  split
  · exact .markFalse bootstrapExecSucceeded_owned
  · refine .trans ?_ (patchNodeProviderID_ownedChange a c _ s)
    exact .markTrue bootstrapExecSucceeded_owned

theorem markProvisioned_ownedChange (km : KubevirtMachine) (exec : VMCommandExecutor) (s : Sys) :
    OwnedChange km.conditions (markProvisioned a c km exec s).machine.conditions := by
  have h₁ : OwnedChange km.conditions (km.markTrue a.now vmProvisionedCondition).conditions :=
    .markTrue vmProvisioned_owned
  have h₂ : OwnedChange km.conditions ((km.markTrue a.now vmProvisionedCondition).markFalse a.now
      bootstrapExecSucceededCondition bootstrappingReason .info "").conditions :=
    h₁.trans (.markFalse bootstrapExecSucceeded_owned)
  unfold markProvisioned
  split
  · exact .refl _
  dsimp only
  split
  · rw [patchKubevirtMachine_eq]
    cases a.patch .reconcileNormal with
    | some e => exact h₂
    | none => exact h₂.trans (waitForBootstrap_ownedChange a c _ exec _)
  · exact h₁.trans (waitForBootstrap_ownedChange a c _ exec s)

theorem provisionVM_ownedChange (km : KubevirtMachine) (keys : SshKeys) (s : Sys) :
    OwnedChange km.conditions (provisionVM a c km keys s).machine.conditions := by
  unfold provisionVM
  dsimp only
  split
  · exact .refl _
  split
  · exact .refl _
  split
  · exact .refl _
  · exact markProvisioned_ownedChange a c _ _ _

theorem reconcileNormal_ownedChange (km : KubevirtMachine) (s : Sys) :
    OwnedChange km.conditions (reconcileNormal a c km s).machine.conditions := by
  unfold reconcileNormal
  split
  · exact .markTrue vmProvisioned_owned
  split
  · split <;> exact .markFalse vmProvisioned_owned
  split
  · exact .refl _
  split
  · exact .refl _
  split
  · exact .markFalse vmProvisioned_owned
  · exact provisionVM_ownedChange a c _ _ _

theorem reconcileBranch_ownedChange (km : KubevirtMachine) (s : Sys) :
    OwnedChange km.conditions (reconcileBranch a c km s).machine.conditions := by
  rcases reconcileBranch_cases a c km s with ⟨-, h⟩ | ⟨-, -, h⟩ | ⟨-, -, -, h⟩ | ⟨-, -, -, h⟩ <;>
    rw [h]
  · exact .refl _
  · exact .markFalse vmProvisioned_owned
  · rw [reconcileDelete_eq]
    split
    · exact .refl _
    · exact .markFalse vmProvisioned_owned
    · exact .markFalse vmProvisioned_owned
  · exact reconcileNormal_ownedChange a c km s

/-- **Call lemma**: every patch a call issues, landed or not, carries the
conditions of the machine it loaded, changed only in the owned types. -/
theorem reconcile_patch_ownedChange (req : ObjectKey) (w : World) {site : PatchSite}
    {m : KubevirtMachine} {ok : Bool} (h : .patch site m ok ∈ (reconcile a req w).sys.effects) :
    ∃ km, w.kubevirtMachines.lookup req = some km ∧ OwnedChange km.conditions m.conditions := by
  obtain ⟨km, c, hk, rfl | ⟨-, -, rfl⟩ | rfl⟩ := reconcile_patch_cases h
  · exact ⟨km, hk, .markFalse vmProvisioned_owned⟩
  · exact ⟨km, hk, (OwnedChange.markTrue vmProvisioned_owned).trans (.markFalse bootstrapExecSucceeded_owned)⟩
  · exact ⟨km, hk, reconcileBranch_ownedChange a c km _⟩

end Stages

/-! ## Runs -/

/-- What a call can leave under `k`: the machine stored before, or, when the
call is for `k`, a patch it issued. -/
theorem reconcile_lookup (a : Answers) (req k : ObjectKey) (w : World) {m' : KubevirtMachine}
    (h : (reconcile a req w).sys.world.kubevirtMachines.lookup k = some m') :
    ∃ m, w.kubevirtMachines.lookup k = some m ∧
      (m' = m ∨ req = k ∧ ∃ site ok, .patch site m' ok ∈ (reconcile a req w).sys.effects) := by
  have h : (Sys.emitAll ⟨w, []⟩ (reconcile a req w).sys.effects).world.kubevirtMachines.lookup k =
      some m' := by rw [← reconcile_sys]; exact h
  refine lookup_emitAll_of (P := fun m' => ∃ m, w.kubevirtMachines.lookup k = some m ∧
      (m' = m ∨ req = k ∧ ∃ site ok, .patch site m' ok ∈ (reconcile a req w).sys.effects))
    _ _ (fun site m hm hkey => ?_) (fun m hm => ⟨m, hm, .inl rfl⟩) m' h
  obtain ⟨km, hk, hev⟩ := reconcile_patch_evolves a req w hm
  have hreq : req = k := by rw [← hkey, hev.key]; exact (w.kubevirtMachines.lookup_key hk).symm
  subst hreq
  exact ⟨km, hk, .inr ⟨rfl, site, true, hm⟩⟩

/-- What one event can do to the machine stored under `k`: keep it, stamp its
deletion, or, when it is a call for `k`, put a patch the call issued. -/
theorem step_lookup (w : World) (e : Event) (k : ObjectKey) {m' : KubevirtMachine}
    (h : (w.step e).kubevirtMachines.lookup k = some m') :
    ∃ m, w.kubevirtMachines.lookup k = some m ∧
      (m' = m ∨ (∃ t, m' = { m with deletionTimestamp := some t }) ∨
        ∃ a, e = .reconcile a k ∧ ∃ site ok, .patch site m' ok ∈ (reconcile a k w).sys.effects) := by
  cases e with
  | reconcile a req =>
    obtain ⟨m, hm, rfl | ⟨rfl, site, ok, hp⟩⟩ := reconcile_lookup a req k w h
    · exact ⟨_, hm, .inl rfl⟩
    · exact ⟨m, hm, .inr (.inr ⟨a, rfl, site, ok, hp⟩)⟩
  | delete k' t =>
    simp only [World.step] at h
    split at h
    · rename_i m hm
      split at h
      · simp only [Store.lookup_put, Keyed.key_kubevirtMachine] at h
        split at h
        · cases h
          rename_i hkey
          have hk : k' = k := (w.kubevirtMachines.lookup_key hm).symm.trans hkey
          exact ⟨m, hk ▸ hm, .inr (.inl ⟨t, rfl⟩)⟩
        · exact ⟨m', h, .inl rfl⟩
      · exact ⟨m', h, .inl rfl⟩
    · exact ⟨m', h, .inl rfl⟩
  | purge k' =>
    simp only [World.step] at h
    split at h
    · split at h
      · simp only [Store.lookup_erase] at h
        split at h
        · cases h
        · exact ⟨m', h, .inl rfl⟩
      · exact ⟨m', h, .inl rfl⟩
    · exact ⟨m', h, .inl rfl⟩

/-- **Step lemma**: the machine stored under `k` after an event carries the
conditions of the one stored before, changed only in the owned types. -/
theorem step_ownedChange (w : World) (e : Event) (k : ObjectKey) {m' : KubevirtMachine}
    (h : (w.step e).kubevirtMachines.lookup k = some m') :
    ∃ m, w.kubevirtMachines.lookup k = some m ∧ OwnedChange m.conditions m'.conditions := by
  obtain ⟨m, hm, rfl | ⟨t, rfl⟩ | ⟨a, -, site, ok, hp⟩⟩ := step_lookup w e k h
  · exact ⟨_, hm, .refl _⟩
  · exact ⟨_, hm, .refl _⟩
  · obtain ⟨km, hk, hc⟩ := reconcile_patch_ownedChange a k w hp
    rw [hm] at hk
    cases hk
    exact ⟨_, hm, hc⟩

/-- **Run lemma**: the machine stored under `k` after a run carries the
conditions of the one stored before it, changed only in the owned types. -/
theorem run_ownedChange (w : World) (evs : List Event) (k : ObjectKey) {m' : KubevirtMachine}
    (h : (w.run evs).kubevirtMachines.lookup k = some m') :
    ∃ m, w.kubevirtMachines.lookup k = some m ∧ OwnedChange m.conditions m'.conditions := by
  induction evs generalizing w with
  | nil => exact ⟨m', h, .refl _⟩
  | cons e evs ih =>
    obtain ⟨m₁, h₁, hc⟩ := ih (w.step e) h
    obtain ⟨m, hm, hc₁⟩ := step_ownedChange w e k h₁
    exact ⟨m, hm, hc₁.trans hc⟩

/-- Over every run, from every world, the machine stored under `k` at the end
was stored at the start, and the controller changed its conditions only in the
types it owns: every other condition reads back as it was, transition time
included; no condition type disappears; and the types stay unique. -/
theorem run_conditions (w : World) (evs : List Event) (k : ObjectKey) {m' : KubevirtMachine}
    (h : (w.run evs).kubevirtMachines.lookup k = some m') :
    ∃ m, w.kubevirtMachines.lookup k = some m ∧
      (∀ t ∉ ownedConditions, Conditions.get t m'.conditions = Conditions.get t m.conditions) ∧
      (∀ t, Conditions.has t m.conditions = true → Conditions.has t m'.conditions = true) ∧
      ((m.conditions.map (·.type)).Nodup → (m'.conditions.map (·.type)).Nodup) := by
  obtain ⟨m, hm, hc⟩ := run_ownedChange w evs k h
  exact ⟨m, hm, hc.foreign, hc.has, hc.nodup⟩

/-- The worker machine through one settled call. -/
theorem run_conditions_worker :
    ∃ m', (workerWorld.run [.reconcile (settledAnswers workerContext.cluster) ⟨"default", "worker-0"⟩]
      ).kubevirtMachines.lookup ⟨"default", "worker-0"⟩ = some m' ∧
      ∃ m, workerWorld.kubevirtMachines.lookup ⟨"default", "worker-0"⟩ = some m ∧
        (∀ t ∉ ownedConditions, Conditions.get t m'.conditions = Conditions.get t m.conditions) ∧
        (∀ t, Conditions.has t m.conditions = true → Conditions.has t m'.conditions = true) ∧
        ((m.conditions.map (·.type)).Nodup → (m'.conditions.map (·.type)).Nodup) := by
  obtain ⟨m', hm'⟩ := Option.isSome_iff_exists.mp (by decide :
    ((workerWorld.run [.reconcile (settledAnswers workerContext.cluster) ⟨"default", "worker-0"⟩]
      ).kubevirtMachines.lookup ⟨"default", "worker-0"⟩).isSome = true)
  exact ⟨m', hm', run_conditions _ _ _ hm'⟩

end CapkReconciler
