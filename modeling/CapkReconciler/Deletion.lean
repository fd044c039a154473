import CapkReconciler.OwnedConditions

/-!
# No provisioning once deletion is requested

The API layer stamps a deletion timestamp at most once and never clears it,
and every patch the controller sends carries the timestamp of the machine it
loaded: the finalizer gate, the wait for the cluster's infrastructure and
the delete path change conditions and finalizers only, and the normal path
keeps the object's metadata (`reconcileNormal_meta`). So once the machine
under a key is stamped, every machine stored under that key is. A call
provisions only from a loaded machine without a timestamp (lines 153–159),
so no call for that key sends a provisioning request again.

- `World.deleting w k`: the machine under `k`, if any, is stamped.
- `reconcile_patch_deletionTimestamp`: every patch of a call carries the
  loaded machine's timestamp; from it `World.deleting_step` and the run
  lemma `run_deleting`.
- `run_deleted_unprovisioned`: after a deletion stamp, whatever events
  follow, the machine stays stamped and no call for it creates a VM, writes
  the bootstrap Secret or sets a provider ID.
-/

namespace CapkReconciler

/-- The machine under `k`, if any, is stamped for deletion. -/
def World.deleting (w : World) (k : ObjectKey) : Prop :=
  ∀ m, w.kubevirtMachines.lookup k = some m → m.deletionTimestamp.isSome

theorem KubevirtMachine.deletionTimestamp_eq_of_meta {m m' : KubevirtMachine} (h : m'.meta = m.meta) :
    m'.deletionTimestamp = m.deletionTimestamp := by
  simp only [KubevirtMachine.meta, Prod.mk.injEq] at h
  exact h.2.2.2.2.2.2

/-- **Call lemma**: every patch a call issues, landed or not, carries the
deletion timestamp of the machine it loaded. -/
theorem reconcile_patch_deletionTimestamp (a : Answers) (req : ObjectKey) (w : World) {site : PatchSite}
    {m : KubevirtMachine} {ok : Bool} (h : .patch site m ok ∈ (reconcile a req w).sys.effects) :
    ∃ km, w.kubevirtMachines.lookup req = some km ∧ m.deletionTimestamp = km.deletionTimestamp := by
  obtain ⟨km, c, hk, rfl | ⟨-, -, rfl⟩ | rfl⟩ := reconcile_patch_cases h
  · exact ⟨km, hk, rfl⟩
  · exact ⟨km, hk, rfl⟩
  -- the deferred patch writes the machine the branch holds
  refine ⟨km, hk, ?_⟩
  rcases reconcileBranch_cases a c km ⟨w, []⟩ with
    ⟨-, hb⟩ | ⟨-, -, hb⟩ | ⟨-, -, -, hb⟩ | ⟨-, -, -, hb⟩ <;> rw [hb]
  · rfl
  · rw [reconcileDelete_eq]
    split <;> rfl
  · exact KubevirtMachine.deletionTimestamp_eq_of_meta (reconcileNormal_meta a c km _)

/-- A deletion stamp leaves the machine under `k` stamped, whether it stamped
it or found it stamped. -/
theorem World.deleting_delete (w : World) (k : ObjectKey) (t : Nat) : (w.step (.delete k t)).deleting k := by
  intro m' hm'
  simp only [World.step] at hm'
  split at hm'
  · rename_i m hm
    split at hm'
    · simp only [Store.lookup_put, Keyed.key_kubevirtMachine] at hm'
      split at hm'
      · cases hm'
        rfl
      · rw [hm] at hm'
        cases hm'
        exact absurd (w.kubevirtMachines.lookup_key hm) (by simpa [KubevirtMachine.key] using ‹_›)
    · rename_i hnone
      rw [hm] at hm'
      cases hm'
      exact Option.ne_none_iff_isSome.mp (by simpa using hnone)
  · rename_i hnone
    rw [hnone] at hm'
    cases hm'

/-- **Step lemma**: no event clears the stamp of the machine under `k`. -/
theorem World.deleting_step {w : World} {k : ObjectKey} (h : w.deleting k) (e : Event) :
    (w.step e).deleting k := by
  intro m' hm'
  obtain ⟨m, hm, rfl | ⟨t, rfl⟩ | ⟨a, -, site, ok, hp⟩⟩ := step_lookup w e k hm'
  · exact h _ hm
  · rfl
  · obtain ⟨km, hk, hts⟩ := reconcile_patch_deletionTimestamp a k w hp
    rw [hm] at hk
    cases hk
    rw [hts]
    exact h _ hm

/-- **Run lemma**: no run clears the stamp of the machine under `k`. -/
theorem run_deleting {w : World} {k : ObjectKey} (h : w.deleting k) (evs : List Event) :
    (w.run evs).deleting k := by
  induction evs generalizing w with
  | nil => exact h
  | cons e evs ih => exact ih (World.deleting_step h e)

/-- Once the API layer has stamped the machine under `k` for deletion,
whatever events follow, the machine stored under `k` stays stamped, and no
call for `k` sends a provisioning request again: no VM create, no write of
the bootstrap Secret, no provider ID. -/
theorem run_deleted_unprovisioned (w : World) (k : ObjectKey) (t : Nat) (evs : List Event) :
    (∀ m, ((w.step (.delete k t)).run evs).kubevirtMachines.lookup k = some m →
      m.deletionTimestamp.isSome) ∧
    ∀ a, ∀ e ∈ (reconcile a k ((w.step (.delete k t)).run evs)).sys.effects, e.isProvisioning = false := by
  have h := run_deleting (World.deleting_delete w k t) evs
  refine ⟨h, fun a e he => ?_⟩
  cases hp : e.isProvisioning
  · rfl
  · obtain ⟨km, hk, -, hts⟩ := provisioning_of_loaded a k _ he hp
    have hs := h km hk
    rw [hts] at hs
    cases hs

end CapkReconciler
