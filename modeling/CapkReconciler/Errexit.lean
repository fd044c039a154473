import CapkReconciler.Tooling

/-!
# The failures the kubevirtci script lets through

Under `set -e` (line 13) the script ends at the first simple command that
fails. Three constructs discard a status, and only there does the script run
on past a failure: the command substitutions under `export` (lines 17, 59,
81), the left sides of the pipelines (lines 94, 95, 103), and the `delete`
under `|| true` (line 94). `Cmd.statusHidden` names the commands found in
those places.

- `Errexit`: a fragment of the script runs no command after a failure it does
  not hide, and lets the script go on only when every failure in it was
  hidden. Each construct of the model keeps it (`Errexit.run`,
  `Errexit.pipe`, …), and so does a sequence whose fragments all keep it
  (`Errexit.All`, `Errexit.seq`).
- `main_errexit`: every run of the script, on any arguments and whatever its
  commands answer, runs no command after one that failed, unless that one's
  status was discarded. A run that completes hid every failure.
-/

namespace CapkReconciler

namespace Kubevirtci

/-- The commands whose exit status the script discards: `kubeconfig.sh` and
the registry lookup under `export`, the `kustomize` and the
`clusterctl generate` on the left of a pipe, and the `delete` under
`|| true`. -/
def Cmd.statusHidden : Cmd → Bool
  | .kubeconfig | .registryPort => true
  | .kubectl ["kustomize", "config/kubevirtci"] | .kubectl ["delete", "-f", "-"] => true
  | .clusterctl _ ("generate" :: _) => true
  | _ => false

/-- A command the script may run past: it succeeded, or its status is
discarded. -/
def Tolerated (o : Oracle) (c : Cmd) : Prop := (o c).1 = 0 ∨ c.statusHidden = true

/-- Run from `sh`, `f` runs no command after one it may not run past, and
lets the script go on only when it may run past every command it ran. -/
def ErrexitAt (o : Oracle) (f : Step) (sh : Shell) : Prop :=
  ∃ t, (f sh).sh.trace = sh.trace ++ t ∧ (∀ c ∈ t.dropLast, Tolerated o c) ∧
    ((f sh).exited = none → ∀ c ∈ t, Tolerated o c)

/-- `f` keeps the discipline of `set -e` from every shell. -/
def Errexit (o : Oracle) (f : Step) : Prop := ∀ sh, ErrexitAt o f sh

variable {o : Oracle}

theorem ErrexitAt.of_eq {f g : Step} {sh : Shell} (h : f sh = g sh) (hg : ErrexitAt o g sh) :
    ErrexitAt o f sh := by
  unfold ErrexitAt
  rw [h]
  exact hg

/-! ## The constructs of the script -/

namespace Errexit

theorem skip : Errexit o fun sh => ⟨none, sh⟩ := fun _ => ⟨[], by simp, by simp, by simp⟩

theorem exit (n : Nat) : Errexit o fun sh => ⟨some n, sh⟩ := fun _ => ⟨[], by simp, by simp, by simp⟩

theorem run (c : Cmd) : Errexit o (run o c) := fun _ =>
  ⟨[c], by simp [Kubevirtci.run], by simp, fun h c' hc' => by
    rw [List.mem_singleton.mp hc']
    exact .inl (run_running h)⟩

theorem exportVar (x v : String) : Errexit o (exportVar x v) := fun _ =>
  ⟨[], by simp [Kubevirtci.exportVar], by simp, by simp⟩

theorem exportSubst (x p : String) {c : Cmd} (hc : c.statusHidden = true) :
    Errexit o (exportSubst x p o c) := fun _ =>
  ⟨[c], by simp [Kubevirtci.exportSubst], by simp, fun _ c' hc' => by
    rw [List.mem_singleton.mp hc']
    exact .inr hc⟩

theorem assignSubst (x : String) (c : Cmd) : Errexit o (assignSubst x o c) := fun _ =>
  ⟨[c], by simp [Kubevirtci.assignSubst], by simp, fun h c' hc' => by
    rw [List.mem_singleton.mp hc']
    simp only [Kubevirtci.assignSubst] at h
    split at h
    · exact .inl ‹_›
    · cases h⟩

theorem pipe {p c : Cmd} (hp : p.statusHidden = true) : Errexit o (pipe o p c) := fun _ =>
  ⟨[p, c], by simp [Kubevirtci.pipe], by simp [Tolerated, hp], fun h c' hc' => by
    simp only [Kubevirtci.pipe] at h
    simp only [List.mem_cons, List.mem_singleton, List.not_mem_nil, or_false] at hc'
    rcases hc' with rfl | rfl
    · exact .inr hp
    · split at h
      · exact .inl ‹_›
      · cases h⟩

theorem pipeOrTrue {p c : Cmd} (hp : p.statusHidden = true) (hc : c.statusHidden = true) :
    Errexit o (pipeOrTrue o p c) := fun _ =>
  ⟨[p, c], by simp [Kubevirtci.pipeOrTrue], by simp [Tolerated, hp], fun _ c' hc' => by
    simp only [List.mem_cons, List.mem_singleton, List.not_mem_nil, or_false] at hc'
    rcases hc' with rfl | rfl
    · exact .inr hp
    · exact .inr hc⟩

/-- Every fragment of a sequence keeps the discipline. -/
abbrev All (o : Oracle) : List Step → Prop
  | [] => True
  | f :: fs => Errexit o f ∧ All o fs

/-- A fragment built from the shell it starts in. -/
theorem pointwise {g : Shell → Step} (h : ∀ sh₀, Errexit o (g sh₀)) : Errexit o fun sh => g sh sh :=
  fun sh => h sh sh

/-- **Step lemma**: a sequence keeps the discipline when each of its
fragments does; it goes on past a fragment only when that one let it. -/
theorem seq {fs : List Step} (h : All o fs) : Errexit o (Kubevirtci.seq fs) := by
  induction fs with
  | nil => exact skip
  | cons f fs ih =>
    intro sh
    obtain ⟨t, ht, hlast, hrun⟩ := h.1 sh
    rcases hr : f sh with ⟨_ | n, sh'⟩ <;> simp only [hr] at ht hrun
    · -- `f` lets the script go on: its commands are all tolerated
      have hall := hrun trivial
      obtain ⟨t', ht', hlast', hrun'⟩ := ih h.2 sh'
      refine ⟨t ++ t', by simp [hr, ht', ht], fun c hc => ?_, fun hx c hc => ?_⟩
      · rw [List.dropLast_append] at hc
        split at hc
        · exact hall c (List.dropLast_subset _ hc)
        · exact (List.mem_append.mp hc).elim (hall c) (hlast' c)
      · exact (List.mem_append.mp hc).elim (hall c) (hrun' (by simpa [hr] using hx) c)
    · -- `f` ended the script
      exact ⟨t, by simp [hr, ht], hlast, fun hx => by simp [hr] at hx⟩

end Errexit

/-! ## The script -/

section Script

variable (o : Oracle)

theorem preamble_errexit : Errexit o (preamble o) :=
  Errexit.seq ⟨.pointwise fun _ => .exportVar _ _, .pointwise fun _ => .exportVar _ _, .exportSubst _ _ rfl,
    .exportVar _ _, .exportVar _ _, .pointwise fun _ => .exportVar _ _, .pointwise fun _ => .exportVar _ _,
    .exportVar _ _, .pointwise fun _ => .exportVar _ _, trivial⟩

theorem fetchKubevirtci_errexit : Errexit o (fetchKubevirtci o) := by
  have hcheckout : Errexit o (ensureCheckout o) := fun sh => by
    by_cases hd : "cluster-up" ∈ sh.dirs
    · exact .of_eq (by simp [ensureCheckout, hd]) (Errexit.skip sh)
    · exact .of_eq (by simp [ensureCheckout, hd]) (Errexit.run .gitClone sh)
  have htag : Errexit o (checkoutTag o) := fun sh => by
    by_cases hd : "cluster-up" ∈ sh.dirs
    · exact .of_eq (by simp [checkoutTag, hd]) (Errexit.run (.gitCheckout (sh.var "KUBEVIRTCI_TAG")) sh)
    · exact .of_eq (by simp [checkoutTag, hd]) (Errexit.exit 1 sh)
  have hclusterctl : Errexit o (fetchClusterctl o) := fun sh => by
    by_cases hf : defaultClusterctlPath ∈ sh.files
    · exact .of_eq (by simp [fetchClusterctl, hf]) (Errexit.skip sh)
    · refine .of_eq (by simp only [fetchClusterctl]; rw [if_neg hf]) (Errexit.seq ?_ sh)
      exact ⟨.run _, .run _, .run _, trivial⟩
  have hvirtctl : Errexit o (fetchVirtctl o) := fun sh => by
    by_cases hf : defaultVirtctlPath ∈ sh.files
    · exact .of_eq (by simp [fetchVirtctl, hf]) (Errexit.skip sh)
    · refine .of_eq (by simp only [fetchVirtctl]; rw [if_neg hf]) (Errexit.seq ?_ sh)
      exact ⟨.run _, .assignSubst _ _, .pointwise fun _ => .run _, .run _, trivial⟩
  exact Errexit.seq ⟨hcheckout, htag, .run _, hclusterctl, hvirtctl, trivial⟩

/-- Every arm of the `case` keeps the discipline. -/
theorem actions_errexit : ∀ p ∈ actions o, ∀ args, Errexit o (p.2 args) := by
  have hbuild : Errexit o (build o) := Errexit.seq ⟨.exportSubst _ _ rfl, .run _, .run _, trivial⟩
  simp only [actions, List.forall_mem_cons, List.not_mem_nil, false_implies, implies_true, and_true]
  refine ⟨fun _ => Errexit.seq ?_, fun _ => .run _, fun _ => Errexit.seq ⟨hbuild, .run _, trivial⟩,
    fun _ => Errexit.seq ⟨hbuild, Errexit.seq ?_, trivial⟩, fun _ => .run _, fun _ => .run _, fun _ => .run _,
    fun _ => .pointwise fun _ => .run _,
    fun _ => Errexit.seq ⟨.exportVar _ _, .exportVar _ _, .exportVar _ _, .pointwise fun _ => .pipe rfl, trivial⟩⟩
  · -- `up`
    exact ⟨.run _, .exportSubst _ _ rfl, .run _, .assignSubst _ _, .pointwise fun _ => .run _,
      .pointwise fun _ => .run _, .run _, .run _, .pointwise fun _ => .run _, .run _, .run _, trivial⟩
  · -- `sync`
    exact ⟨.exportVar _ _, .exportVar _ _, .run _, .pipeOrTrue rfl rfl, .pipe rfl, .run _, trivial⟩

theorem dispatch_errexit (action : String) (args : List String) : Errexit o (dispatch o action args) := by
  unfold dispatch
  cases hl : (actions o).lookup action with
  | some f =>
    obtain ⟨l₁, l₂, hl, -⟩ := List.lookup_eq_some_iff.mp hl
    exact actions_errexit o (action, f) (by simp [hl]) args
  | none =>
    refine Errexit.seq ?_
    exact ⟨.run _, .exit 1, trivial⟩

/-- **Run lemma**: every run of the script, on any arguments and whatever its
commands answer, runs no command after one that failed unless the script
discards that one's status; and a run that completes discarded every failure
it met. -/
theorem main_errexit (args : List String) (sh : Shell) :
    ∃ t, (main o args sh).sh.trace = sh.trace ++ t ∧
      (∀ c ∈ t.dropLast, (o c).1 = 0 ∨ c.statusHidden = true) ∧
      ((main o args sh).exited = none → ∀ c ∈ t, (o c).1 = 0 ∨ c.statusHidden = true) := by
  cases args with
  | nil =>
    refine Errexit.seq ?_ sh
    exact ⟨preamble_errexit o, .exit 1, trivial⟩
  | cons action args =>
    refine Errexit.seq ?_ sh
    exact ⟨preamble_errexit o, fetchKubevirtci_errexit o, dispatch_errexit o action args, trivial⟩

end Script

end Kubevirtci

end CapkReconciler
