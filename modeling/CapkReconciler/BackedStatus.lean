import CapkReconciler.OwnedConditions
import CapkReconciler.Replay

/-!
# Status that claims a VirtualMachine is backed by one

A KubevirtMachine tells its users about its VirtualMachine in three ways:
`VMProvisioned` true, a provider ID, and a `BootstrapExecSucceeded`
condition (set to `Bootstrapping`, `BootstrapFailed` or true). The controller
writes each of them only after the VM handle found or created the VM
(lines 214–232), or, for the short-circuit of lines 164–170, on a machine
that already has a provider ID. The controller never deletes a VM. So in every
run that starts with every such claim backed, every stored machine and every
patch a call writes claims a VM only when it exists.

- `KubevirtMachine.claimsVM`, `World.backs`: the claim, and that a world backs
  it.
- `Backed s m`: the machine a call holds and every patch it has issued are
  backed by the world as it stands. Each stage keeps it (`*_backed`); the
  stages after the VM handle (`markProvisioned_backed`) run with the VM in
  place, so whatever they write is backed.
- `run_vmBacked`: over every run from a world that backs the machine under a
  key, every state of that machine, stored or patched by the next call, is
  backed.
-/

namespace CapkReconciler

/-- The machine tells of a VirtualMachine: `VMProvisioned` is true, it has a
provider ID, or it carries `BootstrapExecSucceeded`. -/
def KubevirtMachine.claimsVM (m : KubevirtMachine) : Bool :=
  Conditions.isTrue vmProvisionedCondition m.conditions || m.providerID.isSome ||
    Conditions.has bootstrapExecSucceededCondition m.conditions

/-- The world holds the VirtualMachine that `m` tells of, if it tells of one. -/
def World.backs (w : World) (m : KubevirtMachine) : Prop :=
  m.claimsVM = true → w.virtualMachines m.key = true

/-- The machine a call holds, and every patch it has issued, are backed by the
world as it stands. -/
def Backed (s : Sys) (m : KubevirtMachine) : Prop :=
  s.world.backs m ∧ ∀ site m' ok, Effect.patch site m' ok ∈ s.effects → s.world.backs m'

theorem Conditions.isTrue_markFalse_self (now : Nat) (t r : String) (sv : ConditionSeverity)
    (msg : String) (cs : List Condition) : Conditions.isTrue t (Conditions.markFalse now t r sv msg cs) = false := by
  obtain ⟨τ, h⟩ := Conditions.get_set_self now (Conditions.falseCondition t r sv msg) cs
  have h : Conditions.get t (Conditions.markFalse now t r sv msg cs) = _ := h
  simp only [Conditions.isTrue, h]
  rfl

/-- Marking `VMProvisioned` false adds no claim. -/
theorem KubevirtMachine.claimsVM_markFalse_vmProvisioned {m : KubevirtMachine} {now : Nat}
    {r : String} {sv : ConditionSeverity} {msg : String}
    (h : (m.markFalse now vmProvisionedCondition r sv msg).claimsVM = true) : m.claimsVM = true := by
  have hv : Conditions.isTrue vmProvisionedCondition (m.markFalse now vmProvisionedCondition r sv msg).conditions =
      false := Conditions.isTrue_markFalse_self ..
  have hb : Conditions.has bootstrapExecSucceededCondition
      (m.markFalse now vmProvisionedCondition r sv msg).conditions =
      Conditions.has bootstrapExecSucceededCondition m.conditions :=
    Conditions.has_set_of_ne _ _ vmProvisioned_ne_bootstrapExecSucceeded _
  unfold KubevirtMachine.claimsVM at h ⊢
  rw [hv, hb, KubevirtMachine.providerID_markFalse, Bool.false_or] at h
  simp [Bool.or_assoc, h]

theorem World.backs_of_extends {Q : Effect → Prop} {s s' : Sys} (hx : Extends Q s s') {m : KubevirtMachine}
    (h : s.world.backs m) : s'.world.backs m :=
  fun hc => hx.virtualMachines (h hc)

namespace Backed

variable {s s' : Sys} {m m' : KubevirtMachine}

theorem init (w : World) (h : w.backs m) : Backed ⟨w, []⟩ m := ⟨h, by simp⟩

/-- From `s` the call issued effects of kind `Q`; each patch among them, and
the machine it now holds, are backed at the end. -/
theorem of_extends {Q : Effect → Prop} (h : Backed s m) (hx : Extends Q s s')
    (hQ : ∀ site m'' ok, Q (.patch site m'' ok) → s'.world.backs m'') (hm : s'.world.backs m') :
    Backed s' m' := by
  refine ⟨hm, fun site m'' ok hp => ?_⟩
  obtain ⟨es, hes, hQes⟩ := hx.effects_eq
  rw [hes, List.mem_append] at hp
  rcases hp with hp | hp
  · exact World.backs_of_extends hx (h.2 _ _ _ hp)
  · exact hQ _ _ _ (hQes _ hp)

/-- Effects with no patch among them, and a machine that claims no more. -/
theorem of_nopatch {Q : Effect → Prop} (h : Backed s m) (hx : Extends Q s s')
    (hQ : ∀ site m'' ok, ¬Q (.patch site m'' ok)) (hkey : m'.key = m.key)
    (hc : m'.claimsVM = true → m.claimsVM = true) : Backed s' m' :=
  h.of_extends hx (fun _ _ _ hq => absurd hq (hQ _ _ _)) fun hc' =>
    hkey ▸ World.backs_of_extends hx h.1 (hc hc')

theorem of_claims (h : Backed s m) (hkey : m'.key = m.key) (hc : m'.claimsVM = true → m.claimsVM = true) :
    Backed s m' :=
  h.of_nopatch (.refl (fun _ => False) s) (fun _ _ _ => id) hkey hc

/-- An effect that is no patch. -/
theorem emit_nopatch (h : Backed s m) {e : Effect} (he : ∀ site m' ok, e ≠ .patch site m' ok) :
    Backed (s.emit e) m :=
  h.of_nopatch (.emit (Q := (· = e)) rfl) (fun site m' ok hq => he site m' ok hq.symm) rfl id

/-- A patch of a machine the world backs, which the call then holds. -/
theorem emit_patch (h : Backed s m) (hm : s.world.backs m') (site : PatchSite) (ok : Bool) :
    Backed (s.emit (.patch site m' ok)) m' :=
  have hx : Extends (· = .patch site m' ok) s (s.emit (.patch site m' ok)) := .emit rfl
  h.of_extends hx (fun _ _ _ hq => by cases hq; exact World.backs_of_extends hx hm)
    (World.backs_of_extends hx hm)

end Backed

/-! ## Each stage keeps the machine and its patches backed -/

section Stages

variable (a : Answers) (c : MachineContext)

/-- Lines 234–310 run once the VM exists: whatever they write, it is backed. -/
theorem markProvisioned_backed {km : KubevirtMachine} (exec : VMCommandExecutor) {s : Sys}
    (h : Backed s km) (hp : km.providerID = none) (hvm : s.world.virtualMachines km.key = true) :
    Backed (markProvisioned a c km exec s).sys (markProvisioned a c km exec s).machine := by
  have hx := markProvisioned_extends a c km exec s hp
  have hvm' := hx.virtualMachines hvm
  refine h.of_extends hx (fun site m ok hq => fun _ => ?_) fun _ => ?_
  · obtain ⟨-, -, -, rfl⟩ := hq
    exact hvm'
  · rw [KubevirtMachine.key_eq_of_meta (markProvisioned_meta a c km exec s)]
    exact hvm'

/-- Lines 208–232: the VM handle finds or creates the VM before
`markProvisioned` runs. -/
theorem provisionVM_backed {km : KubevirtMachine} (keys : SshKeys) {s : Sys} (h : Backed s km)
    (hp : km.providerID = none) :
    Backed (provisionVM a c km keys s).sys (provisionVM a c km keys s).machine := by
  have h₁ : Backed (s.emit (.newMachine km.key)) km := h.emit_nopatch fun _ _ _ h => nomatch h
  rcases hnm : a.newMachine with _ | e
  swap
  · simp only [provisionVM, hnm]
    exact h₁
  have hbooted : ∀ s', Backed s' km → s'.world.virtualMachines km.key = true →
      Backed (if !a.isBooted ⟨a.address, keys.publicKey, keys.privateKey⟩ then
        ⟨{ requeueAfter := 20 }, none, km, s'⟩
      else markProvisioned a c km ⟨a.address, keys.publicKey, keys.privateKey⟩ s').sys
        (if !a.isBooted ⟨a.address, keys.publicKey, keys.privateKey⟩ then
        ⟨{ requeueAfter := 20 }, none, km, s'⟩
      else markProvisioned a c km ⟨a.address, keys.publicKey, keys.privateKey⟩ s').machine :=
    fun s' h' hvm => by
      split
      · exact h'
      · exact markProvisioned_backed a c _ h' hp hvm
  cases hv : s.world.virtualMachines km.key
  · rw [provisionVM_of_novm c keys hnm hv]
    have h₂ : ∀ ok, Backed ((s.emit (.newMachine km.key)).emit (.createVM km.key ok)) km := fun _ =>
      h₁.emit_nopatch fun _ _ _ h => nomatch h
    cases a.createVM with
    | some e => exact h₂ false
    | none => exact hbooted _ (h₂ true) (by simp [Effect.apply])
  · rw [provisionVM_of_vm c keys hnm hv]
    exact hbooted _ h₁ (Effect.virtualMachines_apply _ _ hv)

theorem reconcileNormal_backed {km : KubevirtMachine} {s : Sys} (h : Backed s km) :
    Backed (reconcileNormal a c km s).sys (reconcileNormal a c km s).machine := by
  unfold reconcileNormal
  split
  · -- the short-circuit claims only what the provider ID already claimed
    rename_i hp
    have hc : km.claimsVM = true := by simp [KubevirtMachine.claimsVM, hp]
    exact h.of_claims rfl fun _ => hc
  rename_i hp
  split
  · split <;> exact h.of_claims rfl KubevirtMachine.claimsVM_markFalse_vmProvisioned
  split
  · exact h
  split
  · exact h
  rename_i keys _
  have hsecret : ∀ km', km'.key = km.key → (km'.claimsVM = true → km.claimsVM = true) →
      Backed (reconcileKubevirtBootstrapSecret a.secrets c km s).2 km' := fun km' hkey hc => by
    rcases reconcileKubevirtBootstrapSecret_cases a.secrets c km s with
      ⟨_, _, _, _, hs⟩ | ⟨_, hs⟩ | ⟨_, _, _, _, hs | ⟨-, hs⟩⟩ <;> rw [hs]
    · exact h.of_claims hkey hc
    · exact h.of_claims hkey hc
    · exact (h.emit_nopatch (by intro _ _ _ h; cases h)).of_claims hkey hc
    · exact ((h.emit_nopatch (by intro _ _ _ h; cases h)).emit_nopatch (by intro _ _ _ h; cases h)).of_claims
        hkey hc
  split <;> rename_i heq <;> rw [heq] at hsecret
  · exact hsecret _ rfl KubevirtMachine.claimsVM_markFalse_vmProvisioned
  · exact provisionVM_backed a c keys (hsecret km rfl id) hp

theorem reconcileBranch_backed {km : KubevirtMachine} {s : Sys} (h : Backed s km) :
    Backed (reconcileBranch a c km s).sys (reconcileBranch a c km s).machine := by
  rcases reconcileBranch_cases a c km s with ⟨-, hb⟩ | ⟨-, -, hb⟩ | ⟨-, -, -, hb⟩ | ⟨-, -, -, hb⟩ <;>
    rw [hb]
  · exact h.of_claims rfl id
  · exact h.of_claims rfl KubevirtMachine.claimsVM_markFalse_vmProvisioned
  · -- the `Deleting` patch claims no more than the machine did
    have hm : s.world.backs (km.markFalse a.now vmProvisionedCondition deletingReason .info "") :=
      fun hc => h.1 (KubevirtMachine.claimsVM_markFalse_vmProvisioned hc)
    rw [reconcileDelete_eq]
    split
    · exact h
    · exact h.emit_patch hm _ false
    · exact (h.emit_patch hm _ true).of_claims rfl id
  · exact reconcileNormal_backed a c h

end Stages

/-- **Call lemma**: a call from a world that backs the machine under `req`
leaves every patch it issued backed. -/
theorem reconcile_patch_backed (a : Answers) (req : ObjectKey) (w : World)
    (h0 : ∀ m, w.kubevirtMachines.lookup req = some m → w.backs m) {site : PatchSite}
    {m : KubevirtMachine} {ok : Bool} (h : .patch site m ok ∈ (reconcile a req w).sys.effects) :
    (reconcile a req w).sys.world.backs m := by
  rcases reconcile_cases a req w with ⟨-, h₀⟩ | ⟨km, c, -, hk, -, -, -, -, heq⟩
  · rw [h₀] at h
    simp at h
  have hb := reconcileBranch_backed a c (Backed.init w (h0 km hk))
  rw [heq, deferredPatch_eq] at h ⊢
  -- the deferred patch writes the machine the branch holds, which is backed
  exact (hb.emit_patch hb.1 _ _).2 _ _ _ h

/-! ## Runs -/

/-- No event removes a VirtualMachine. -/
theorem World.virtualMachines_step (w : World) (e : Event) {k : ObjectKey}
    (h : w.virtualMachines k = true) : (w.step e).virtualMachines k = true := by
  cases e with
  | reconcile a req => exact Extends.virtualMachines (Q := fun _ => True) ⟨_, reconcile_sys a req w, fun _ _ => trivial⟩ h
  | delete _ _ | purge _ =>
    simp only [World.step]
    split
    · split <;> exact h
    · exact h

/-- **Step lemma**: an event keeps the machine under `k` backed. -/
theorem step_backs (w : World) (e : Event) (k : ObjectKey)
    (h0 : ∀ m, w.kubevirtMachines.lookup k = some m → w.backs m) :
    ∀ m', (w.step e).kubevirtMachines.lookup k = some m' → (w.step e).backs m' := by
  intro m' h
  have hvm : ∀ {m}, w.backs m → (w.step e).backs m := fun hb hc => World.virtualMachines_step w e (hb hc)
  obtain ⟨m, hm, rfl | ⟨t, rfl⟩ | ⟨a, rfl, site, ok, hp⟩⟩ := step_lookup w e k h
  · exact hvm (h0 _ hm)
  · exact hvm (h0 m hm)
  · exact reconcile_patch_backed a k w h0 hp

/-- **Run lemma**: a run keeps the machine under `k` backed. -/
theorem run_backs (w : World) (evs : List Event) (k : ObjectKey)
    (h0 : ∀ m, w.kubevirtMachines.lookup k = some m → w.backs m) :
    ∀ m, (w.run evs).kubevirtMachines.lookup k = some m → (w.run evs).backs m := by
  induction evs generalizing w with
  | nil => exact h0
  | cons e evs ih => exact ih (w.step e) (step_backs w e k h0)

/-- In every run from a world whose machine under `k` claims of its
VirtualMachine only what the world backs (a fresh machine claims nothing), the
machine stored under `k` reports `VMProvisioned` true, a provider ID or
`BootstrapExecSucceeded` only while its VirtualMachine exists; and so does
every patch the next call for `k` issues, the in-call ones included. -/
theorem run_vmBacked (w : World) (k : ObjectKey)
    (h0 : ∀ m, w.kubevirtMachines.lookup k = some m → w.backs m) (evs : List Event) :
    (∀ m, (w.run evs).kubevirtMachines.lookup k = some m → (w.run evs).backs m) ∧
    ∀ a site m ok, .patch site m ok ∈ (reconcile a k (w.run evs)).sys.effects →
      (reconcile a k (w.run evs)).sys.world.backs m :=
  have h := run_backs w evs k h0
  ⟨h, fun a _ _ _ hp => reconcile_patch_backed a k _ h hp⟩

/-- The worker machine, fresh, through two settled calls: it then reports its
VirtualMachine, and the VirtualMachine exists. -/
theorem run_vmBacked_worker :
    ∃ m, (workerWorld.run [.reconcile (settledAnswers workerContext.cluster) ⟨"default", "worker-0"⟩,
        .reconcile (settledAnswers workerContext.cluster) ⟨"default", "worker-0"⟩]
      ).kubevirtMachines.lookup ⟨"default", "worker-0"⟩ = some m ∧ m.claimsVM = true ∧
      (workerWorld.run [.reconcile (settledAnswers workerContext.cluster) ⟨"default", "worker-0"⟩,
        .reconcile (settledAnswers workerContext.cluster) ⟨"default", "worker-0"⟩]).backs m := by
  obtain ⟨m, hm⟩ := Option.isSome_iff_exists.mp (by decide :
    ((workerWorld.run [.reconcile (settledAnswers workerContext.cluster) ⟨"default", "worker-0"⟩,
        .reconcile (settledAnswers workerContext.cluster) ⟨"default", "worker-0"⟩]
      ).kubevirtMachines.lookup ⟨"default", "worker-0"⟩).isSome = true)
  have hcm : ((workerWorld.run [.reconcile (settledAnswers workerContext.cluster) ⟨"default", "worker-0"⟩,
        .reconcile (settledAnswers workerContext.cluster) ⟨"default", "worker-0"⟩]
      ).kubevirtMachines.lookup ⟨"default", "worker-0"⟩).map KubevirtMachine.claimsVM = some true := by decide
  rw [hm] at hcm
  replace hcm : m.claimsVM = true := Option.some.inj hcm
  refine ⟨m, hm, hcm, (run_vmBacked workerWorld ⟨"default", "worker-0"⟩ (fun m h => ?_) _).1 m hm⟩
  rw [show workerWorld.kubevirtMachines.lookup _ = some workerKubevirtMachine by decide] at h
  cases h
  intro hc
  exact absurd hc (by decide)

end CapkReconciler
