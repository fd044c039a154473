import CapkReconciler.Finalizer

/-!
# The KubevirtCluster watch

`KubevirtClusterToKubevirtMachines` (lines 361–392) turns an event on a
KubevirtCluster into reconcile requests, one per Machine of its Cluster that
references an infrastructure object.

- `kubevirtClusterToKubevirtMachines_eq`: the requests are the Machines' own
  keys, in list order. Line 387 builds the key from `m.Name`, not from
  `m.Spec.InfrastructureRef.Name`.
- `kubevirtClusterToKubevirtMachines_misses`: so a KubevirtMachine whose name
  no Machine shares is never enqueued, and when no KubevirtMachine bears a
  Machine's name, every request the watch makes reconciles to nothing.
-/

namespace CapkReconciler

/-- Modelled from the spec: `clusterv1.ClusterLabelName`, the label naming a
Machine's Cluster. -/
def clusterLabelName : String := "cluster.x-k8s.io/cluster-name"

/-- Whether the Machine `List` of line 381 returns `m`: in the KubevirtCluster's
namespace and labelled with the Cluster's name. -/
def listedFor (c : KubevirtCluster) (cluster : Cluster) (m : Machine) : Bool :=
  m.ns == c.ns && m.labels.lookup clusterLabelName == some cluster.name

/-- `KubevirtClusterToKubevirtMachines` on the KubevirtCluster `c`, from what
`util.GetOwnerCluster` answers, the failure of the Machine `List` if any, and
the stored Machines. -/
def kubevirtClusterToKubevirtMachines (ownerCluster : Except GoError (Option Cluster))
    (listFault : Option GoError) (machines : List Machine) (c : KubevirtCluster) : List ObjectKey :=
  match ownerCluster with
  | .error _ => []
  | .ok none => []
  | .ok (some cluster) =>
    match listFault with
    | some _ => []
    | none =>
      (machines.filter (listedFor c cluster)).filterMap fun m =>
        if m.infrastructureRefName = "" then none else some ⟨m.ns, m.name⟩

/-- The requests are the keys of the listed Machines that reference an
infrastructure object, in list order, each named after the Machine. -/
theorem kubevirtClusterToKubevirtMachines_eq (cluster : Cluster) (machines : List Machine)
    (c : KubevirtCluster) :
    kubevirtClusterToKubevirtMachines (.ok (some cluster)) none machines c =
      ((machines.filter (listedFor c cluster)).filter (·.infrastructureRefName ≠ "")).map
        fun m => ⟨m.ns, m.name⟩ := by
  simp only [kubevirtClusterToKubevirtMachines]
  induction machines.filter (listedFor c cluster) with
  | nil => rfl
  | cons m ms ih =>
    by_cases h : m.infrastructureRefName = "" <;> simp [List.filterMap_cons, h, ih]

/-- `Reconcile` on a key that holds no KubevirtMachine returns at once with
no error and issues nothing (lines 67–74). -/
theorem reconcile_of_absent (a : Answers) {req : ObjectKey} {w : World}
    (hf : a.kubevirtMachineFault = none) (hk : w.kubevirtMachines.lookup req = none) :
    reconcile a req w = ⟨{}, none, ⟨w, []⟩⟩ := by
  simp [reconcile, getKubevirtMachine, hf, hk]

/-- A listed Machine `m` that references the KubevirtMachine named
`m.Spec.InfrastructureRef.Name`, which no listed Machine is named after: the
watch never enqueues that KubevirtMachine. And where no KubevirtMachine bears
a listed Machine's name, every request it does enqueue reconciles to
nothing. -/
theorem kubevirtClusterToKubevirtMachines_misses (a : Answers) (w : World) (cluster : Cluster)
    (machines : List Machine) (c : KubevirtCluster) {m : Machine} (hm : m ∈ machines)
    (hlisted : listedFor c cluster m = true) (href : m.infrastructureRefName ≠ "")
    (hname : ∀ m' ∈ machines, listedFor c cluster m' = true → m'.name ≠ m.infrastructureRefName)
    (hf : a.kubevirtMachineFault = none)
    (habsent : ∀ m' ∈ machines, listedFor c cluster m' = true →
      w.kubevirtMachines.lookup ⟨m'.ns, m'.name⟩ = none) :
    (∃ m' ∈ machines, listedFor c cluster m' = true ∧ m'.infrastructureRefName ≠ "" ∧
      ⟨m'.ns, m'.name⟩ ∈ kubevirtClusterToKubevirtMachines (.ok (some cluster)) none machines c) ∧
    ⟨m.ns, m.infrastructureRefName⟩ ∉
      kubevirtClusterToKubevirtMachines (.ok (some cluster)) none machines c ∧
    ∀ req ∈ kubevirtClusterToKubevirtMachines (.ok (some cluster)) none machines c,
      reconcile a req w = ⟨{}, none, ⟨w, []⟩⟩ := by
  rw [kubevirtClusterToKubevirtMachines_eq]
  refine ⟨⟨m, hm, hlisted, href, List.mem_map_of_mem _ (by simp [hm, hlisted, href])⟩, ?_, ?_⟩
  · simp only [List.mem_map, List.mem_filter, not_exists, not_and]
    rintro m' ⟨⟨hm', hl'⟩, -⟩ heq
    exact hname m' hm' hl' (congrArg ObjectKey.name heq)
  · simp only [List.mem_map, List.mem_filter]
    rintro _ ⟨m', ⟨⟨hm', hl'⟩, -⟩, rfl⟩
    exact reconcile_of_absent a hf (habsent m' hm' hl')

/-- A Machine `m0` of Cluster `c` whose KubevirtMachine is `km0`. -/
def refMachine : Machine := ⟨"m0", "default", [(clusterLabelName, "c")], some "m0-bootstrap", "km0"⟩

/-- The KubevirtMachine `km0`. -/
def referencedKubevirtMachine : KubevirtMachine :=
  { workerKubevirtMachine with name := "km0" }

/-- The watch on `refMachine` enqueues `default/m0`, which reconciles to
nothing, and never `default/km0`. -/
theorem kubevirtClusterToKubevirtMachines_refMachine :
    (∃ m' ∈ [refMachine], listedFor ⟨"c", "default"⟩ ⟨"c", "c", true, []⟩ m' = true ∧
      m'.infrastructureRefName ≠ "" ∧ ⟨m'.ns, m'.name⟩ ∈
        kubevirtClusterToKubevirtMachines (.ok (some ⟨"c", "c", true, []⟩)) none [refMachine] ⟨"c", "default"⟩) ∧
    (⟨"default", "km0"⟩ : ObjectKey) ∉
      kubevirtClusterToKubevirtMachines (.ok (some ⟨"c", "c", true, []⟩)) none [refMachine] ⟨"c", "default"⟩ ∧
    ∀ req ∈ kubevirtClusterToKubevirtMachines (.ok (some ⟨"c", "c", true, []⟩)) none [refMachine]
        ⟨"c", "default"⟩,
      reconcile (settledAnswers ⟨"c", "c", true, []⟩) req
        ⟨Store.ofList [referencedKubevirtMachine], Store.empty, fun _ => false⟩ =
        ⟨{}, none, ⟨⟨Store.ofList [referencedKubevirtMachine], Store.empty, fun _ => false⟩, []⟩⟩ :=
  kubevirtClusterToKubevirtMachines_misses _ _ _ _ _ (List.mem_singleton_self _) (by decide)
    (by decide) (by decide) rfl (by decide)

end CapkReconciler
