import CapkReconciler.Replay
import CapkReconciler.Requests

/-!
# Each VM is created at most once

`reconcileNormal` creates the VirtualMachine only when the handle finds none
under the machine's key (lines 214–220), and nothing the controller or the API
layer does removes one. So over any run a VM is created under a key at most
once, and never where one already exists.

- `CreatesOnce k s s'`: from `s` to `s'`, the landed creates of the VM `k`
  are no more than the VMs that appeared under `k`. It is reflexive,
  transitive and kept by every effect but a create over an existing VM
  (`CreatesOnce.emit`); each stage gets one lemma (`*_createsOnce`).
- `World.log`: the effects a run issues, in order.
- `log_createsOnce`, `run_createVM_once`: over every run, from every world,
  the VM under a key is created at most once, and not at all when it existed
  at the start; a run that created it ends with it in place.
-/

namespace CapkReconciler

/-- From `s` to `s'`, the landed creates of the VM under `k` are no more than
the VMs that appeared under `k`. -/
def CreatesOnce (k : ObjectKey) (s s' : Sys) : Prop :=
  s'.effects.count (.createVM k true) + (s.world.virtualMachines k).toNat ≤
    s.effects.count (.createVM k true) + (s'.world.virtualMachines k).toNat

namespace CreatesOnce

variable {k : ObjectKey} {s s' s'' : Sys}

theorem refl (s : Sys) : CreatesOnce k s s := Nat.le_refl _

theorem trans (h : CreatesOnce k s s') (h' : CreatesOnce k s' s'') : CreatesOnce k s s'' := by
  unfold CreatesOnce at *
  omega

/-- Every effect keeps it but a create of `k` over an existing VM. -/
theorem emit {e : Effect} (he : e = .createVM k true → s.world.virtualMachines k = false) :
    CreatesOnce k s (s.emit e) := by
  unfold CreatesOnce
  simp only [Sys.emit_effects, Sys.emit_world, List.count_append, List.count_singleton]
  by_cases hc : e = .createVM k true
  · subst hc
    simp [he rfl, Effect.apply]
  · have hmono : (s.world.virtualMachines k).toNat ≤ ((e.apply s.world).virtualMachines k).toNat := by
      cases h : s.world.virtualMachines k
      · simp
      · simp [Effect.virtualMachines_apply e _ h]
    simp only [beq_iff_eq, hc, if_false]
    omega

/-- Effects that create no VM keep it. -/
theorem of_extends {Q : Effect → Prop} (h : Extends Q s s') (hQ : ∀ e, Q e → ∀ ok, e ≠ .createVM k ok) :
    CreatesOnce k s s' := by
  obtain ⟨es, rfl, hes⟩ := h
  induction es generalizing s with
  | nil => exact refl s
  | cons e es ih =>
    exact (emit fun he => absurd he (hQ e (hes e (List.mem_cons_self _ _)) true)).trans
      (ih fun e' he' => hes e' (List.mem_cons_of_mem _ he'))

end CreatesOnce

/-! ## The stages -/

section Stages

variable (a : Answers) (c : MachineContext) (k : ObjectKey)

theorem waitForBootstrap_createsOnce (km : KubevirtMachine) (exec : VMCommandExecutor) (s : Sys) :
    CreatesOnce k s (waitForBootstrap a c km exec s).sys :=
  .of_extends (waitForBootstrap_extends a c km exec s) (by rintro _ ⟨_, rfl⟩ _ h; cases h)

theorem markProvisioned_createsOnce (km : KubevirtMachine) (exec : VMCommandExecutor) (s : Sys) :
    CreatesOnce k s (markProvisioned a c km exec s).sys := by
  unfold markProvisioned
  split
  · exact .refl s
  dsimp only
  split
  · rw [patchKubevirtMachine_eq]
    cases a.patch .reconcileNormal with
    | some e => exact .emit (by intro h; cases h)
    | none => exact (CreatesOnce.emit (by intro h; cases h)).trans (waitForBootstrap_createsOnce a c k _ exec _)
  · exact waitForBootstrap_createsOnce a c k _ exec s

/-- The create of lines 215–220 happens only where the handle found no VM. -/
theorem provisionVM_createsOnce (km : KubevirtMachine) (keys : SshKeys) (s : Sys) :
    CreatesOnce k s (provisionVM a c km keys s).sys := by
  have h₁ : CreatesOnce k s (s.emit (.newMachine km.key)) := .emit (by intro h; cases h)
  rcases hnm : a.newMachine with _ | e
  swap
  · simp only [provisionVM, hnm]
    exact h₁
  cases hv : s.world.virtualMachines km.key
  · rw [provisionVM_of_novm c keys hnm hv]
    have h₂ : ∀ ok, CreatesOnce k s ((s.emit (.newMachine km.key)).emit (.createVM km.key ok)) :=
      fun _ => h₁.trans (.emit fun he => by cases he; exact hv)
    cases a.createVM with
    | some e => exact h₂ false
    | none =>
      dsimp only
      split
      · exact h₂ true
      · exact (h₂ true).trans (markProvisioned_createsOnce a c k _ _ _)
  · rw [provisionVM_of_vm c keys hnm hv]
    split
    · exact h₁
    · exact h₁.trans (markProvisioned_createsOnce a c k _ _ _)

theorem reconcileNormal_createsOnce (km : KubevirtMachine) (s : Sys) :
    CreatesOnce k s (reconcileNormal a c km s).sys := by
  have hsecret : CreatesOnce k s (reconcileKubevirtBootstrapSecret a.secrets c km s).2 := by
    rcases reconcileKubevirtBootstrapSecret_cases a.secrets c km s with
      ⟨_, _, _, _, h⟩ | ⟨_, h⟩ | ⟨_, _, _, _, h | ⟨-, h⟩⟩ <;> rw [h]
    · exact .refl s
    · exact .refl s
    · exact .emit (by intro h; cases h)
    · exact (CreatesOnce.emit (by intro h; cases h)).trans (.emit (by intro h; cases h))
  rcases reconcileNormal_sys a c km s with h | h | ⟨keys, h⟩ <;> rw [h]
  · exact .refl s
  · exact hsecret
  · exact hsecret.trans (provisionVM_createsOnce a c k km keys _)

/-- **Call lemma**: a call creates the VM under `k` at most once, and not
over an existing one. -/
theorem reconcile_createsOnce (req : ObjectKey) (w : World) :
    CreatesOnce k ⟨w, []⟩ (reconcile a req w).sys := by
  rcases reconcile_sys_shape a req w with h | ⟨m, ok, s, h, hs⟩ <;> rw [h]
  · exact .refl _
  refine CreatesOnce.trans ?_ (.emit (by intro h; cases h))
  rcases hs with rfl | ⟨m', ok', rfl⟩ | ⟨c, km, rfl⟩
  · exact .refl _
  · exact .emit (by intro h; cases h)
  · exact reconcileNormal_createsOnce a c k km _

end Stages

/-! ## Runs -/

/-- The effects an event issues: those of its call. The API layer's own
events issue none. -/
def World.issued (w : World) : Event → List Effect
  | .reconcile a req => (reconcile a req w).sys.effects
  | .delete _ _ | .purge _ => []

/-- The effects a run issues, in order. -/
def World.log (w : World) : List Event → List Effect
  | [] => []
  | e :: es => w.issued e ++ (w.step e).log es

/-- **Step lemma**: an event creates the VM under `k` at most once, and not
over an existing one. -/
theorem step_createsOnce (w : World) (e : Event) (k : ObjectKey) :
    (w.issued e).count (.createVM k true) + (w.virtualMachines k).toNat ≤
      ((w.step e).virtualMachines k).toNat := by
  cases e with
  | reconcile a req => simpa [CreatesOnce, World.issued, World.step] using reconcile_createsOnce a k req w
  | delete _ _ | purge _ =>
    simp only [World.issued, World.step, List.count_nil, Nat.zero_add]
    split
    · split <;> exact Nat.le_refl _
    · exact Nat.le_refl _

/-- **Run lemma**: over a run, the landed creates of the VM under `k` and the
VM at the start are no more than the VM at the end. -/
theorem log_createsOnce (w : World) (evs : List Event) (k : ObjectKey) :
    (w.log evs).count (.createVM k true) + (w.virtualMachines k).toNat ≤
      ((w.run evs).virtualMachines k).toNat := by
  induction evs generalizing w with
  | nil => simp [World.log, World.run]
  | cons e evs ih =>
    have h₁ := step_createsOnce w e k
    have h₂ := ih (w.step e)
    simp only [World.log, List.count_append, World.run, List.foldl_cons] at h₂ ⊢
    omega

/-- Over every run, from every world, the VM under `k` is created at most
once, and not at all when one existed at the start; a run that created it
ends with it in place. -/
theorem run_createVM_once (w : World) (evs : List Event) (k : ObjectKey) :
    (w.log evs).count (.createVM k true) ≤ (if w.virtualMachines k then 0 else 1) ∧
      (0 < (w.log evs).count (.createVM k true) → (w.run evs).virtualMachines k = true) := by
  have h := log_createsOnce w evs k
  have hle := Bool.toNat_le ((w.run evs).virtualMachines k)
  refine ⟨?_, fun hpos => ?_⟩
  · cases hv : w.virtualMachines k <;> simp only [hv, Bool.toNat_false, Bool.toNat_true] at h <;> simp <;>
      omega
  · cases hv : (w.run evs).virtualMachines k
    · simp only [hv, Bool.toNat_false] at h
      omega
    · rfl

end CapkReconciler
