import CapkReconciler.Basic

/-!
# Conditions and finalizers

The library calls the controller makes on a KubevirtMachine's status and
metadata, modelled from `cluster-api/util/conditions` (v1alpha4) and
`controller-runtime/pkg/controller/controllerutil`:

- `Conditions.set`: a condition replaces the one of its type, and keeps the
  old `LastTransitionTime` exactly when type, status, reason, severity and
  message are all unchanged (`hasSameState`). `conditions.Set` also sorts the
  list for `kubectl`; every claim reads conditions by type, so the order is
  left out.
- `Conditions.markTrue`, `Conditions.markFalse`, `Conditions.has`,
  `Conditions.isTrue`.
- `addFinalizer`, `removeFinalizer`, `containsFinalizer`.

The main facts are `get_set_self` (a set condition reads back with its
state) and `set_of_sameState` (setting a condition already in that state
changes nothing), from which every idempotence argument later is built.
-/

namespace CapkReconciler

/-! ## Names the controller uses -/

/-- Modelled from the spec: `infrav1.VMProvisionedCondition`, declared in the
api package the sources do not include; the spec names it `VMProvisioned`. -/
def vmProvisionedCondition : String := "VMProvisioned"

/-- Modelled from the spec: `infrav1.BootstrapExecSucceededCondition`. -/
def bootstrapExecSucceededCondition : String := "BootstrapExecSucceeded"

/-- Modelled from the spec: `infrav1.WaitingForClusterInfrastructureReason`. -/
def waitingForClusterInfrastructureReason : String := "WaitingForClusterInfrastructure"

/-- Modelled from the spec: `infrav1.WaitingForBootstrapDataReason`. -/
def waitingForBootstrapDataReason : String := "WaitingForBootstrapData"

/-- Modelled from the spec: `infrav1.BootstrappingReason`. -/
def bootstrappingReason : String := "Bootstrapping"

/-- Modelled from the spec: `infrav1.BootstrapFailedReason`. -/
def bootstrapFailedReason : String := "BootstrapFailed"

/-- Modelled from the spec: `infrav1.MachineFinalizer`, the finalizer marker of
a KubevirtMachine; only its identity matters to the controller. -/
def machineFinalizer : String := "kubevirtmachine.infrastructure.cluster.x-k8s.io"

/-- `clusterv1.WaitingForControlPlaneAvailableReason`. -/
def waitingForControlPlaneAvailableReason : String := "WaitingForControlPlaneAvailable"

/-- `clusterv1.DeletingReason`. -/
def deletingReason : String := "Deleting"

/-- `clusterv1.ControlPlaneInitializedCondition`. -/
def controlPlaneInitializedCondition : String := "ControlPlaneInitialized"

/-! ## `conditions` -/

namespace Conditions

/-- `hasSameState`: equal in everything but the transition time. -/
def hasSameState (i j : Condition) : Bool :=
  i.type == j.type && i.status == j.status && i.reason == j.reason &&
    i.severity == j.severity && i.message == j.message

/-- `conditions.Set` at clock reading `now`. The first condition of the same
type is replaced, or left as it is when the state is the same; a new type is
appended with its transition time set when zero. -/
def set (now : Nat) (c : Condition) : List Condition → List Condition
  | [] => [{ c with lastTransitionTime := if c.lastTransitionTime = 0 then now else c.lastTransitionTime }]
  | d :: ds =>
    if d.type = c.type then
      (if hasSameState d c then d else { c with lastTransitionTime := now }) :: ds
    else d :: set now c ds

/-- `conditions.Get`. -/
def get (t : String) (cs : List Condition) : Option Condition :=
  cs.find? (·.type = t)

/-- `conditions.Has`. -/
def has (t : String) (cs : List Condition) : Bool :=
  (get t cs).isSome

/-- `conditions.IsTrue`. -/
def isTrue (t : String) (cs : List Condition) : Bool :=
  match get t cs with
  | some c => c.status == .true
  | none => false

/-- `conditions.TrueCondition`. -/
def trueCondition (t : String) : Condition := ⟨t, .true, .none, "", "", 0⟩

/-- `conditions.FalseCondition` (the message already formatted). -/
def falseCondition (t reason : String) (severity : ConditionSeverity) (message : String) :
    Condition :=
  ⟨t, .false, severity, reason, message, 0⟩

/-- `conditions.MarkTrue`. -/
def markTrue (now : Nat) (t : String) (cs : List Condition) : List Condition :=
  set now (trueCondition t) cs

/-- `conditions.MarkFalse`. -/
def markFalse (now : Nat) (t reason : String) (severity : ConditionSeverity) (message : String)
    (cs : List Condition) : List Condition :=
  set now (falseCondition t reason severity message) cs

theorem hasSameState_iff {i j : Condition} :
    hasSameState i j = true ↔ { i with lastTransitionTime := j.lastTransitionTime } = j := by
  cases i; cases j
  simp only [hasSameState, Bool.and_eq_true, beq_iff_eq, Condition.mk.injEq]
  tauto

@[simp] theorem get_nil (t : String) : get t [] = none := rfl

theorem get_cons (t : String) (d : Condition) (ds : List Condition) :
    get t (d :: ds) = if d.type = t then some d else get t ds := by
  by_cases h : d.type = t <;> simp [get, List.find?_cons, h]

/-- A set condition reads back with the state it was set with. -/
theorem get_set_self (now : Nat) (c : Condition) (cs : List Condition) :
    ∃ τ, get c.type (set now c cs) = some { c with lastTransitionTime := τ } := by
  induction cs with
  | nil => exact ⟨if c.lastTransitionTime = 0 then now else c.lastTransitionTime, by simp [set, get_cons]⟩
  | cons d ds ih =>
    by_cases hd : d.type = c.type
    · by_cases hs : hasSameState d c
      · refine ⟨d.lastTransitionTime, ?_⟩
        have := hasSameState_iff.mp hs
        simp only [set, hd, hs, if_true, get_cons]
        cases d; cases c; simp_all
      · exact ⟨now, by simp [set, hd, hs, get_cons]⟩
    · simpa [set, hd, get_cons] using ih

/-- Setting a condition leaves the conditions of other types alone. -/
theorem get_set_of_ne (now : Nat) (c : Condition) {t : String} (h : c.type ≠ t)
    (cs : List Condition) : get t (set now c cs) = get t cs := by
  induction cs with
  | nil => simp [set, get_cons, h]
  | cons d ds ih =>
    by_cases hd : d.type = c.type
    · have hdt : d.type ≠ t := by rw [hd]; exact h
      have hx : ∀ x : Condition, x.type = c.type → get t (x :: ds) = get t ds :=
        fun x hx => by rw [get_cons, if_neg (by rw [hx]; exact h)]
      rw [set, if_pos hd, hx _ (by split <;> simp [hd]), get_cons, if_neg hdt]
    · rw [set, if_neg hd, get_cons, get_cons, ih]

/-- Setting a condition whose type already holds the same state changes
nothing, the transition time included. -/
theorem set_of_sameState (now : Nat) (c : Condition) {cs : List Condition} {d : Condition}
    (hd : get c.type cs = some d) (hs : hasSameState d c = true) : set now c cs = cs := by
  induction cs with
  | nil => simp at hd
  | cons e es ih =>
    rw [get_cons] at hd
    by_cases he : e.type = c.type
    · simp only [he, if_true, Option.some.injEq] at hd
      subst hd
      simp [set, he, hs]
    · simp only [he, if_false] at hd
      simp [set, he, ih hd]

/-- Setting a condition, built with a zero transition time, on a list whose
condition of its type (if any) is in another state: the condition reads back
with the clock reading. -/
theorem get_set_of_changed (now : Nat) {c : Condition} {cs : List Condition}
    (h : ∀ d, get c.type cs = some d → hasSameState d c = false) (hc : c.lastTransitionTime = 0) :
    get c.type (set now c cs) = some { c with lastTransitionTime := now } := by
  induction cs with
  | nil => simp [set, get_cons, hc]
  | cons d ds ih =>
    by_cases hd : d.type = c.type
    · simp [set, hd, h d (by simp [get_cons, hd]), get_cons]
    · rw [set, if_neg hd, get_cons, if_neg hd]
      exact ih fun e he => h e (by rwa [get_cons, if_neg hd])

/-- Setting the same condition twice is setting it once. -/
theorem set_set (now : Nat) (c : Condition) (cs : List Condition) :
    set now c (set now c cs) = set now c cs := by
  obtain ⟨τ, h⟩ := get_set_self now c cs
  exact set_of_sameState now c h (hasSameState_iff.mpr rfl)

@[simp] theorem has_iff_get (t : String) (cs : List Condition) :
    has t cs = true ↔ ∃ c, get t cs = some c := by
  simp [has, Option.isSome_iff_exists]

theorem get_markTrue_of_ne (now : Nat) {t t' : String} (h : t ≠ t') (cs : List Condition) :
    get t' (markTrue now t cs) = get t' cs := get_set_of_ne now _ h cs

theorem get_markFalse_of_ne (now : Nat) {t t' : String} (r : String) (sv : ConditionSeverity)
    (msg : String) (h : t ≠ t') (cs : List Condition) :
    get t' (markFalse now t r sv msg cs) = get t' cs := get_set_of_ne now _ h cs

theorem isTrue_iff (t : String) (cs : List Condition) :
    isTrue t cs = true ↔ ∃ c, get t cs = some c ∧ c.status = .true := by
  unfold isTrue
  cases get t cs <;> simp

theorem isTrue_set_of_ne (now : Nat) (c : Condition) {t : String} (h : c.type ≠ t)
    (cs : List Condition) : isTrue t (set now c cs) = isTrue t cs := by
  simp only [isTrue, get_set_of_ne now c h]

theorem has_set_of_ne (now : Nat) (c : Condition) {t : String} (h : c.type ≠ t)
    (cs : List Condition) : has t (set now c cs) = has t cs := by
  simp only [has, get_set_of_ne now c h]

/-- Setting a condition removes no type. -/
theorem has_set (now : Nat) (c : Condition) {t : String} {cs : List Condition}
    (h : has t cs = true) : has t (set now c cs) = true := by
  by_cases hc : c.type = t
  · subst hc
    obtain ⟨τ, h'⟩ := get_set_self now c cs
    simp [has, h']
  · rwa [has_set_of_ne now c hc]

/-- The types after a set: the same, or the new type appended. -/
theorem map_type_set (now : Nat) (c : Condition) (cs : List Condition) :
    (set now c cs).map (·.type) =
      if c.type ∈ cs.map (·.type) then cs.map (·.type) else cs.map (·.type) ++ [c.type] := by
  induction cs with
  | nil => simp [set]
  | cons d ds ih =>
    by_cases hd : d.type = c.type
    · have : (if hasSameState d c then d else { c with lastTransitionTime := now }).type = d.type := by
        split <;> simp [hd]
      simp [set, hd, this]
    · simp only [set, hd, if_false, List.map_cons, ih, List.mem_cons, Ne.symm hd, false_or]
      split <;> rfl

/-- Setting a condition keeps the types unique. -/
theorem nodup_set (now : Nat) (c : Condition) {cs : List Condition}
    (h : (cs.map (·.type)).Nodup) : ((set now c cs).map (·.type)).Nodup := by
  rw [map_type_set]
  split
  · exact h
  · rename_i hc
    refine List.pairwise_append.mpr ⟨h, List.pairwise_singleton _ _, ?_⟩
    rintro a ha b hb rfl
    exact hc (List.mem_singleton.mp hb ▸ ha)

@[simp] theorem isTrue_markTrue_self (now : Nat) (t : String) (cs : List Condition) :
    isTrue t (markTrue now t cs) = true := by
  obtain ⟨τ, h⟩ := get_set_self now (trueCondition t) cs
  have h : get t (markTrue now t cs) = _ := h
  simp only [isTrue, h]
  rfl

end Conditions

theorem vmProvisioned_ne_bootstrapExecSucceeded :
    vmProvisionedCondition ≠ bootstrapExecSucceededCondition := by decide

namespace KubevirtMachine

/-- `conditions.Get` on a KubevirtMachine. -/
def condition (t : String) (m : KubevirtMachine) : Option Condition :=
  Conditions.get t m.conditions

/-- `conditions.MarkTrue` on a KubevirtMachine. -/
def markTrue (now : Nat) (t : String) (m : KubevirtMachine) : KubevirtMachine :=
  { m with conditions := Conditions.markTrue now t m.conditions }

/-- `conditions.MarkFalse` on a KubevirtMachine. -/
def markFalse (now : Nat) (t reason : String) (severity : ConditionSeverity) (message : String)
    (m : KubevirtMachine) : KubevirtMachine :=
  { m with conditions := Conditions.markFalse now t reason severity message m.conditions }

section
variable (m : KubevirtMachine) (now : Nat) (t r : String) (sv : ConditionSeverity) (msg : String)

@[simp] theorem name_markTrue : (m.markTrue now t).name = m.name := rfl
@[simp] theorem providerID_markTrue : (m.markTrue now t).providerID = m.providerID := rfl
@[simp] theorem bootstrapped_markTrue : (m.markTrue now t).bootstrapped = m.bootstrapped := rfl
@[simp] theorem ready_markTrue : (m.markTrue now t).ready = m.ready := rfl
@[simp] theorem addresses_markTrue : (m.markTrue now t).addresses = m.addresses := rfl
@[simp] theorem finalizers_markTrue : (m.markTrue now t).finalizers = m.finalizers := rfl
@[simp] theorem name_markFalse : (m.markFalse now t r sv msg).name = m.name := rfl
@[simp] theorem providerID_markFalse : (m.markFalse now t r sv msg).providerID = m.providerID := rfl
@[simp] theorem bootstrapped_markFalse :
    (m.markFalse now t r sv msg).bootstrapped = m.bootstrapped := rfl
@[simp] theorem ready_markFalse : (m.markFalse now t r sv msg).ready = m.ready := rfl
@[simp] theorem addresses_markFalse : (m.markFalse now t r sv msg).addresses = m.addresses := rfl
@[simp] theorem finalizers_markFalse : (m.markFalse now t r sv msg).finalizers = m.finalizers := rfl

end

end KubevirtMachine

/-! ## Finalizers (`controllerutil`) -/

/-- `controllerutil.ContainsFinalizer`. -/
def containsFinalizer (fs : List String) (f : String) : Bool := fs.contains f

/-- `controllerutil.AddFinalizer`: appended unless already present. -/
def addFinalizer (fs : List String) (f : String) : List String :=
  if fs.contains f then fs else fs ++ [f]

/-- `controllerutil.RemoveFinalizer`: every occurrence is dropped. -/
def removeFinalizer (fs : List String) (f : String) : List String :=
  fs.filter (· != f)

@[simp] theorem containsFinalizer_iff (fs : List String) (f : String) :
    containsFinalizer fs f = true ↔ f ∈ fs := by
  simp [containsFinalizer]

@[simp] theorem mem_addFinalizer (fs : List String) (f g : String) :
    g ∈ addFinalizer fs f ↔ g ∈ fs ∨ g = f := by
  unfold addFinalizer
  split_ifs with h
  · simp at h
    constructor
    · exact Or.inl
    · rintro (h' | rfl) <;> assumption
  · simp

@[simp] theorem mem_removeFinalizer (fs : List String) (f g : String) :
    g ∈ removeFinalizer fs f ↔ g ∈ fs ∧ g ≠ f := by
  simp [removeFinalizer]

end CapkReconciler
