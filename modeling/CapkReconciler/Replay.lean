import CapkReconciler.Status

/-!
# Running `reconcileNormal` a second time

Each stage of `reconcileNormal`, run again on the machine it produced and
the world it left, makes the same decisions. Conditions it set read back with
the state it set them to, the VM it created now exists, and the Secret the
existence check found is still there. So it returns the same `Result`, error
and machine (`Repeats`). Its only provisioning effects are writes the first
run issued and saw refused (`Reissued`).

- `reconcileNormal_replay`: this holds for the whole pass, with two
  exceptions. The first is a first run whose bootstrap-secret stage created
  the derived Secret. That create lands, and the stage still fails
  (`reconcileKubevirtBootstrapSecret_fresh`), so the second run finds the
  Secret and goes on to provision. The second is a first run whose patch
  before bootstrapping (lines 241–246) was refused: the second run finds
  `BootstrapExecSucceeded` set in memory and skips that patch.
- `reconcileNormal_replay_fresh`: on a fresh store the first run stops at the
  bootstrap-secret stage and the second creates the VM.
-/

namespace CapkReconciler

/-- Whether the API refused a write. -/
def Effect.refused : Effect → Bool
  | .patch _ _ ok | .createSecret _ ok | .updateSecret _ ok | .createVM _ ok | .setProviderID ok => !ok
  | .newMachine _ => false

/-- A second run `o'` that repeats a first run `o`: the same `Result`, error
and machine. -/
structure Repeats (o o' : Outcome) : Prop where
  result : o'.result = o.result
  err : o'.err = o.err
  machine : o'.machine = o.machine

/-- An effect a run repeating `o` may issue: no provisioning effect, except
one that `o` issued and saw refused. -/
def Reissued (o : Outcome) (e : Effect) : Prop :=
  e.isProvisioning = true → e ∈ o.sys.effects ∧ e.refused = true

theorem Reissued.of_mem {o : Outcome} {e : Effect} (h : e ∈ o.sys.effects) (hr : e.refused = true) :
    Reissued o e := fun _ => ⟨h, hr⟩

theorem Reissued.newMachine (o : Outcome) (vm : ObjectKey) : Reissued o (.newMachine vm) :=
  fun h => nomatch h

/-! ## Marks that are already in place -/

theorem KubevirtMachine.markTrue_markTrue (m : KubevirtMachine) (now : Nat) (t : String) :
    (m.markTrue now t).markTrue now t = m.markTrue now t := by
  simp only [KubevirtMachine.markTrue, Conditions.markTrue, Conditions.set_set]

theorem KubevirtMachine.markFalse_markFalse (m : KubevirtMachine) (now : Nat) (t r : String)
    (sv : ConditionSeverity) (msg : String) :
    (m.markFalse now t r sv msg).markFalse now t r sv msg = m.markFalse now t r sv msg := by
  simp only [KubevirtMachine.markFalse, Conditions.markFalse, Conditions.set_set]

/-- A condition set true reads back true; marking it true again changes
nothing. -/
theorem KubevirtMachine.markTrue_of_get {m : KubevirtMachine} {now τ : Nat} {t : String}
    (h : m.condition t = some { Conditions.trueCondition t with lastTransitionTime := τ }) :
    m.markTrue now t = m := by
  have h' : Conditions.get (Conditions.trueCondition t).type m.conditions = _ := h
  simp only [KubevirtMachine.markTrue, Conditions.markTrue,
    Conditions.set_of_sameState now _ h' (Conditions.hasSameState_iff.mpr rfl)]

theorem KubevirtMachine.condition_markTrue_self (m : KubevirtMachine) (now : Nat) (t : String) :
    ∃ τ, (m.markTrue now t).condition t = some { Conditions.trueCondition t with lastTransitionTime := τ } :=
  Conditions.get_set_self now (Conditions.trueCondition t) m.conditions

theorem KubevirtMachine.condition_markTrue_of_ne (m : KubevirtMachine) (now : Nat) {t t' : String}
    (h : t ≠ t') : (m.markTrue now t).condition t' = m.condition t' :=
  Conditions.get_markTrue_of_ne now h m.conditions

theorem KubevirtMachine.condition_markFalse_of_ne (m : KubevirtMachine) (now : Nat) {t t' r : String}
    {sv : ConditionSeverity} {msg : String} (h : t ≠ t') :
    (m.markFalse now t r sv msg).condition t' = m.condition t' :=
  Conditions.get_markFalse_of_ne now r sv msg h m.conditions

/-! ## The world between the two runs -/

/-- The effects a stage issues to the workload cluster change no API object. -/
theorem patchNodeProviderID_world (a : Answers) (c : MachineContext) (km : KubevirtMachine) (s : Sys) :
    (patchNodeProviderID a c km s).sys.world = s.world := by
  unfold patchNodeProviderID
  split
  · rfl
  · split <;> rfl

theorem waitForBootstrap_world (a : Answers) (c : MachineContext) (km : KubevirtMachine)
    (exec : VMCommandExecutor) (s : Sys) : (waitForBootstrap a c km exec s).sys.world = s.world := by
  unfold waitForBootstrap
  split
  · rfl
  · exact patchNodeProviderID_world a c _ s

/-! ## Each stage repeats itself -/

/-- A `patchNodeProviderID` that leaves no provider ID changed nothing. -/
theorem patchNodeProviderID_machine_of_none {a : Answers} {c : MachineContext} {km : KubevirtMachine}
    {s : Sys} (hp : (patchNodeProviderID a c km s).machine.providerID = none) :
    (patchNodeProviderID a c km s).machine = km := by
  revert hp
  unfold patchNodeProviderID
  split
  · exact fun _ => rfl
  split
  · exact fun _ => rfl
  · intro hp
    cases hp

theorem patchNodeProviderID_replay (a : Answers) (c : MachineContext) (km : KubevirtMachine)
    (s s' : Sys) (hs' : s'.world = s.world)
    (hp : (patchNodeProviderID a c km s).machine.providerID = none) :
    Repeats (patchNodeProviderID a c km s) (patchNodeProviderID a c (patchNodeProviderID a c km s).machine s') ∧
    Extends (Reissued (patchNodeProviderID a c km s)) s'
      (patchNodeProviderID a c (patchNodeProviderID a c km s).machine s').sys := by
  revert hp
  unfold patchNodeProviderID
  rw [hs']
  split
  · exact fun _ => ⟨⟨rfl, rfl, rfl⟩, .refl _ _⟩
  split
  · exact fun _ => ⟨⟨rfl, rfl, rfl⟩, .emit (.of_mem (by simp) rfl)⟩
  · intro hp
    cases hp

/-- The machine lines 266–279 leave: bootstrapped, `BootstrapExecSucceeded`
true, and the VM's addresses recorded. -/
def KubevirtMachine.withBootstrap (m : KubevirtMachine) (now : Nat) (ip : String) : KubevirtMachine :=
  { ({ m with bootstrapped := true }.markTrue now bootstrapExecSucceededCondition) with
    addresses := [⟨.hostName, m.name⟩, ⟨.internalIP, ip⟩, ⟨.externalIP, ip⟩] }

@[simp] theorem KubevirtMachine.withBootstrap_bootstrapped (m : KubevirtMachine) (now : Nat)
    (ip : String) : (m.withBootstrap now ip).bootstrapped = true := rfl

@[simp] theorem KubevirtMachine.withBootstrap_providerID (m : KubevirtMachine) (now : Nat)
    (ip : String) : (m.withBootstrap now ip).providerID = m.providerID := rfl

/-- Lines 266–279 run on a machine they already ran on change nothing. -/
theorem KubevirtMachine.withBootstrap_withBootstrap (m : KubevirtMachine) (now : Nat) (ip : String) :
    (m.withBootstrap now ip).withBootstrap now ip = m.withBootstrap now ip := by
  simp only [withBootstrap, markTrue, Conditions.markTrue, Conditions.set_set]

theorem KubevirtMachine.condition_withBootstrap_of_ne (m : KubevirtMachine) (now : Nat) (ip : String)
    {t : String} (h : bootstrapExecSucceededCondition ≠ t) :
    (m.withBootstrap now ip).condition t = m.condition t :=
  Conditions.get_markTrue_of_ne now h m.conditions

theorem KubevirtMachine.has_withBootstrap (m : KubevirtMachine) (now : Nat) (ip : String) :
    Conditions.has bootstrapExecSucceededCondition (m.withBootstrap now ip).conditions = true := by
  obtain ⟨τ, h⟩ := (KubevirtMachine.condition_markTrue_self
    { m with bootstrapped := true } now bootstrapExecSucceededCondition)
  exact (Conditions.has_iff_get _ _).mpr ⟨_, h⟩

theorem waitForBootstrap_waiting {a : Answers} {c : MachineContext} {km : KubevirtMachine}
    {exec : VMCommandExecutor} (s : Sys) (hw : (!km.bootstrapped && !a.isBootstrapped exec) = true) :
    waitForBootstrap a c km exec s = ⟨{ requeueAfter := 10 }, none, km.markFalse a.now
      bootstrapExecSucceededCondition bootstrapFailedReason .warning "VM not bootstrapped yet", s⟩ := by
  simp only [waitForBootstrap, hw]
  rfl

theorem waitForBootstrap_ready {a : Answers} {c : MachineContext} {km : KubevirtMachine}
    {exec : VMCommandExecutor} (s : Sys) (hw : (!km.bootstrapped && !a.isBootstrapped exec) = false) :
    waitForBootstrap a c km exec s = patchNodeProviderID a c (km.withBootstrap a.now a.address) s := by
  simp only [waitForBootstrap, hw]
  rfl

theorem waitForBootstrap_replay (a : Answers) (c : MachineContext) (km : KubevirtMachine)
    (exec : VMCommandExecutor) (s s' : Sys) (hs' : s'.world = s.world)
    (hp : (waitForBootstrap a c km exec s).machine.providerID = none) :
    Repeats (waitForBootstrap a c km exec s)
      (waitForBootstrap a c (waitForBootstrap a c km exec s).machine exec s') ∧
    Extends (Reissued (waitForBootstrap a c km exec s)) s'
      (waitForBootstrap a c (waitForBootstrap a c km exec s).machine exec s').sys := by
  cases hw : (!km.bootstrapped && !a.isBootstrapped exec)
  · rw [waitForBootstrap_ready s hw] at hp ⊢
    have hm := patchNodeProviderID_machine_of_none hp
    have h := patchNodeProviderID_replay a c _ s s' hs' hp
    rw [hm] at h
    rwa [hm, waitForBootstrap_ready s' (by simp), KubevirtMachine.withBootstrap_withBootstrap]
  · rw [waitForBootstrap_waiting s hw, waitForBootstrap_waiting s' (by simpa using hw),
      KubevirtMachine.markFalse_markFalse]
    exact ⟨⟨rfl, rfl, rfl⟩, .refl _ _⟩

/-- What a `waitForBootstrap` that set no provider ID leaves of the
conditions: `VMProvisioned` as it came, and `BootstrapExecSucceeded` set. -/
theorem waitForBootstrap_conditions {a : Answers} {c : MachineContext} {km : KubevirtMachine}
    {exec : VMCommandExecutor} {s : Sys}
    (hp : (waitForBootstrap a c km exec s).machine.providerID = none) :
    (waitForBootstrap a c km exec s).machine.condition vmProvisionedCondition =
      km.condition vmProvisionedCondition ∧
    Conditions.has bootstrapExecSucceededCondition (waitForBootstrap a c km exec s).machine.conditions = true := by
  cases hw : (!km.bootstrapped && !a.isBootstrapped exec)
  · rw [waitForBootstrap_ready s hw] at hp ⊢
    rw [patchNodeProviderID_machine_of_none hp]
    exact ⟨KubevirtMachine.condition_withBootstrap_of_ne _ _ _
      (Ne.symm vmProvisioned_ne_bootstrapExecSucceeded), KubevirtMachine.has_withBootstrap _ _ _⟩
  · rw [waitForBootstrap_waiting s hw]
    refine ⟨KubevirtMachine.condition_markFalse_of_ne _ _ (Ne.symm vmProvisioned_ne_bootstrapExecSucceeded), ?_⟩
    obtain ⟨τ, h⟩ := Conditions.get_set_self a.now (Conditions.falseCondition bootstrapExecSucceededCondition
      bootstrapFailedReason .warning "VM not bootstrapped yet") km.conditions
    exact (Conditions.has_iff_get _ _).mpr ⟨_, h⟩

theorem markProvisioned_helperFailed {a : Answers} {e : GoError} (c : MachineContext)
    (km : KubevirtMachine) (exec : VMCommandExecutor) (s : Sys)
    (hn : a.newHelper .reconcileNormal = some e) :
    markProvisioned a c km exec s = ⟨{}, some e, km, s⟩ := by
  simp only [markProvisioned, hn]

theorem markProvisioned_present {a : Answers} (c : MachineContext) (km : KubevirtMachine)
    (exec : VMCommandExecutor) (s : Sys) (hn : a.newHelper .reconcileNormal = none)
    (hb : Conditions.has bootstrapExecSucceededCondition
      (km.markTrue a.now vmProvisionedCondition).conditions = true) :
    markProvisioned a c km exec s = waitForBootstrap a c (km.markTrue a.now vmProvisionedCondition) exec s := by
  simp only [markProvisioned, hn, hb]
  rfl

theorem markProvisioned_absent {a : Answers} (c : MachineContext) (km : KubevirtMachine)
    (exec : VMCommandExecutor) (s : Sys) (hn : a.newHelper .reconcileNormal = none)
    (hb : Conditions.has bootstrapExecSucceededCondition
      (km.markTrue a.now vmProvisionedCondition).conditions = false) :
    markProvisioned a c km exec s =
      match a.patch .reconcileNormal with
      | some e => ⟨{}, some (.wrap "failed to patch KubevirtMachine" e),
          (km.markTrue a.now vmProvisionedCondition).markFalse a.now bootstrapExecSucceededCondition
            bootstrappingReason .info "",
          s.emit (.patch .reconcileNormal ((km.markTrue a.now vmProvisionedCondition).markFalse a.now
            bootstrapExecSucceededCondition bootstrappingReason .info "") false)⟩
      | none => waitForBootstrap a c ((km.markTrue a.now vmProvisionedCondition).markFalse a.now
          bootstrapExecSucceededCondition bootstrappingReason .info "") exec
          (s.emit (.patch .reconcileNormal ((km.markTrue a.now vmProvisionedCondition).markFalse a.now
            bootstrapExecSucceededCondition bootstrappingReason .info "") true)) := by
  simp only [markProvisioned, hn, hb, patchKubevirtMachine_eq]
  cases a.patch .reconcileNormal <;> rfl

/-- The second `markProvisioned` after a first one that reached
`waitForBootstrap` with `VMProvisioned` true: it finds both conditions in
place and goes straight to `waitForBootstrap`. -/
theorem markProvisioned_replay_of_wait {a : Answers} {c : MachineContext} {m : KubevirtMachine}
    {exec : VMCommandExecutor} {s₁ s' : Sys}
    (hv : ∃ τ, m.condition vmProvisionedCondition =
      some { Conditions.trueCondition vmProvisionedCondition with lastTransitionTime := τ })
    (hn : a.newHelper .reconcileNormal = none) (hs' : s'.world = s₁.world)
    (hp : (waitForBootstrap a c m exec s₁).machine.providerID = none) :
    Repeats (waitForBootstrap a c m exec s₁)
      (markProvisioned a c (waitForBootstrap a c m exec s₁).machine exec s') ∧
    Extends (Reissued (waitForBootstrap a c m exec s₁)) s'
      (markProvisioned a c (waitForBootstrap a c m exec s₁).machine exec s').sys := by
  obtain ⟨hcv, hcb⟩ := waitForBootstrap_conditions hp
  obtain ⟨τ, hτ⟩ := hv
  have hm : (waitForBootstrap a c m exec s₁).machine.markTrue a.now vmProvisionedCondition =
      (waitForBootstrap a c m exec s₁).machine := KubevirtMachine.markTrue_of_get (hcv.trans hτ)
  rw [markProvisioned_present _ _ _ _ hn (by rw [hm]; exact hcb), hm]
  exact waitForBootstrap_replay a c m exec s₁ s' hs' hp

theorem markProvisioned_replay (a : Answers) (c : MachineContext) (km : KubevirtMachine)
    (exec : VMCommandExecutor) (s s' : Sys)
    (hs' : s'.world = (markProvisioned a c km exec s).sys.world)
    (hp : (markProvisioned a c km exec s).machine.providerID = none)
    (hpatch : ∀ m, .patch .reconcileNormal m false ∉ (markProvisioned a c km exec s).sys.effects) :
    Repeats (markProvisioned a c km exec s)
      (markProvisioned a c (markProvisioned a c km exec s).machine exec s') ∧
    Extends (Reissued (markProvisioned a c km exec s)) s'
      (markProvisioned a c (markProvisioned a c km exec s).machine exec s').sys := by
  rcases hn : a.newHelper .reconcileNormal with _ | e
  · cases hb : Conditions.has bootstrapExecSucceededCondition
        (km.markTrue a.now vmProvisionedCondition).conditions
    · rw [markProvisioned_absent c km exec s hn hb] at hs' hp hpatch ⊢
      rcases hpt : a.patch .reconcileNormal with _ | e
      · simp only [hpt] at hs' hp hpatch ⊢
        rw [waitForBootstrap_world] at hs'
        refine markProvisioned_replay_of_wait ?_ hn hs' hp
        rw [KubevirtMachine.condition_markFalse_of_ne _ _
          (Ne.symm vmProvisioned_ne_bootstrapExecSucceeded)]
        exact KubevirtMachine.condition_markTrue_self _ _ _
      · refine absurd ?_ (hpatch ((km.markTrue a.now vmProvisionedCondition).markFalse a.now
          bootstrapExecSucceededCondition bootstrappingReason .info ""))
        simp [hpt]
    · rw [markProvisioned_present c km exec s hn hb] at hs' hp ⊢
      rw [waitForBootstrap_world] at hs'
      exact markProvisioned_replay_of_wait (KubevirtMachine.condition_markTrue_self _ _ _) hn hs' hp
  · rw [markProvisioned_helperFailed c km exec s hn, markProvisioned_helperFailed c km exec s' hn]
    exact ⟨⟨rfl, rfl, rfl⟩, .refl _ _⟩

/-! ## The VM -/

/-- No effect deletes a VM. -/
theorem Effect.virtualMachines_apply (e : Effect) (w : World) {k : ObjectKey}
    (h : w.virtualMachines k = true) : (e.apply w).virtualMachines k = true := by
  cases e with
  | createVM vm ok => cases ok <;> simp [Effect.apply, h]
  | patch _ _ ok => cases ok <;> exact h
  | createSecret _ ok => cases ok <;> exact h
  | updateSecret _ ok => cases ok <;> exact h
  | newMachine _ => exact h
  | setProviderID _ => exact h

theorem Extends.virtualMachines {Q : Effect → Prop} {s s' : Sys} (h : Extends Q s s') {k : ObjectKey}
    (hk : s.world.virtualMachines k = true) : s'.world.virtualMachines k = true := by
  obtain ⟨es, rfl, -⟩ := h
  induction es generalizing s with
  | nil => exact hk
  | cons e es ih => exact ih (Effect.virtualMachines_apply e _ hk)

/-- `provisionVM` when the VM exists: probe the boot, then `markProvisioned`. -/
theorem provisionVM_of_vm {a : Answers} (c : MachineContext) {km : KubevirtMachine} (keys : SshKeys)
    {s : Sys} (hnm : a.newMachine = none) (hv : s.world.virtualMachines km.key = true) :
    provisionVM a c km keys s =
      if !a.isBooted ⟨a.address, keys.publicKey, keys.privateKey⟩ then
        ⟨{ requeueAfter := 20 }, none, km, s.emit (.newMachine km.key)⟩
      else markProvisioned a c km ⟨a.address, keys.publicKey, keys.privateKey⟩ (s.emit (.newMachine km.key)) := by
  simp only [provisionVM, hnm, ensureVM, Sys.emit_world, Effect.apply, hv, if_true]

/-- `provisionVM` when the VM is missing: create it, then as above. -/
theorem provisionVM_of_novm {a : Answers} (c : MachineContext) {km : KubevirtMachine} (keys : SshKeys)
    {s : Sys} (hnm : a.newMachine = none) (hv : s.world.virtualMachines km.key = false) :
    provisionVM a c km keys s =
      match a.createVM with
      | some e => ⟨{}, some (.wrap "failed to create VM instance" e), km,
          (s.emit (.newMachine km.key)).emit (.createVM km.key false)⟩
      | none =>
        if !a.isBooted ⟨a.address, keys.publicKey, keys.privateKey⟩ then
          ⟨{ requeueAfter := 20 }, none, km, (s.emit (.newMachine km.key)).emit (.createVM km.key true)⟩
        else markProvisioned a c km ⟨a.address, keys.publicKey, keys.privateKey⟩
          ((s.emit (.newMachine km.key)).emit (.createVM km.key true)) := by
  simp only [provisionVM, hnm, ensureVM, Sys.emit_world, Effect.apply, hv, createVM_eq]
  cases a.createVM <;> rfl

/-- A first `provisionVM` that probed a booted VM and went on to
`markProvisioned`: the second finds the VM and does the same. -/
theorem provisionVM_replay_mark {a : Answers} {c : MachineContext} {km : KubevirtMachine}
    {keys : SshKeys} {s₂ s' : Sys} (hkp : km.providerID = none) (hnm : a.newMachine = none)
    (hv : s₂.world.virtualMachines km.key = true)
    (hs' : s'.world = (markProvisioned a c km ⟨a.address, keys.publicKey, keys.privateKey⟩ s₂).sys.world)
    (hp : (markProvisioned a c km ⟨a.address, keys.publicKey, keys.privateKey⟩ s₂).machine.providerID = none)
    (hpatch : ∀ m, .patch .reconcileNormal m false ∉
      (markProvisioned a c km ⟨a.address, keys.publicKey, keys.privateKey⟩ s₂).sys.effects)
    (hb : a.isBooted ⟨a.address, keys.publicKey, keys.privateKey⟩ = true) :
    Repeats (markProvisioned a c km ⟨a.address, keys.publicKey, keys.privateKey⟩ s₂)
      (provisionVM a c (markProvisioned a c km ⟨a.address, keys.publicKey, keys.privateKey⟩ s₂).machine
        keys s') ∧
    Extends (Reissued (markProvisioned a c km ⟨a.address, keys.publicKey, keys.privateKey⟩ s₂)) s'
      (provisionVM a c (markProvisioned a c km ⟨a.address, keys.publicKey, keys.privateKey⟩ s₂).machine
        keys s').sys := by
  have hkey := KubevirtMachine.key_eq_of_meta (markProvisioned_meta a c km
    ⟨a.address, keys.publicKey, keys.privateKey⟩ s₂)
  have hv' : s'.world.virtualMachines
      (markProvisioned a c km ⟨a.address, keys.publicKey, keys.privateKey⟩ s₂).machine.key = true := by
    rw [hs', hkey]
    exact (markProvisioned_extends a c km _ s₂ hkp).virtualMachines hv
  rw [provisionVM_of_vm c keys hnm hv', if_neg (by simp [hb])]
  obtain ⟨hr, he⟩ := markProvisioned_replay a c km _ s₂ (s'.emit (.newMachine _))
    (by simp [Effect.apply, hs']) hp hpatch
  exact ⟨hr, (Extends.emit (Reissued.newMachine _ _)).trans he⟩

theorem provisionVM_replay (a : Answers) (c : MachineContext) (km : KubevirtMachine) (keys : SshKeys)
    (s s' : Sys) (hkp : km.providerID = none)
    (hs' : s'.world = (provisionVM a c km keys s).sys.world)
    (hp : (provisionVM a c km keys s).machine.providerID = none)
    (hpatch : ∀ m, .patch .reconcileNormal m false ∉ (provisionVM a c km keys s).sys.effects) :
    Repeats (provisionVM a c km keys s) (provisionVM a c (provisionVM a c km keys s).machine keys s') ∧
    Extends (Reissued (provisionVM a c km keys s)) s'
      (provisionVM a c (provisionVM a c km keys s).machine keys s').sys := by
  rcases hnm : a.newMachine with _ | e
  swap
  · have h : ∀ m t, provisionVM a c m keys t = ⟨{}, some (.wrap
        "failed to create helper for managing the externalMachine" e), m, t.emit (.newMachine m.key)⟩ :=
      fun m t => by simp only [provisionVM, hnm]
    simp only [h]
    exact ⟨⟨rfl, rfl, rfl⟩, .emit (Reissued.newMachine _ _)⟩
  cases hv : s.world.virtualMachines km.key
  · rw [provisionVM_of_novm c keys hnm hv] at hs' hp hpatch ⊢
    rcases hc : a.createVM with _ | e
    · simp only [hc] at hs' hp hpatch ⊢
      have hv₂ : ((s.emit (.newMachine km.key)).emit (.createVM km.key true)).world.virtualMachines
          km.key = true := by simp [Effect.apply]
      cases hb : a.isBooted ⟨a.address, keys.publicKey, keys.privateKey⟩
      · simp only [hb, Bool.not_false, if_true] at hs' ⊢
        rw [provisionVM_of_vm c keys hnm (by rw [hs']; exact hv₂), if_pos (by simp [hb])]
        exact ⟨⟨rfl, rfl, rfl⟩, .emit (Reissued.newMachine _ _)⟩
      · simp only [hb, Bool.not_true, if_false] at hs' hp hpatch ⊢
        exact provisionVM_replay_mark hkp hnm hv₂ hs' hp hpatch hb
    · simp only [hc] at hs' ⊢
      rw [provisionVM_of_novm c keys hnm (by simpa [Effect.apply] using hs' ▸ hv), hc]
      exact ⟨⟨rfl, rfl, rfl⟩, (Extends.emit (Reissued.newMachine _ _)).trans
        (.emit (.of_mem (by simp) rfl))⟩
  · have hv₂ : (s.emit (.newMachine km.key)).world.virtualMachines km.key = true := hv
    rw [provisionVM_of_vm c keys hnm hv] at hs' hp hpatch ⊢
    cases hb : a.isBooted ⟨a.address, keys.publicKey, keys.privateKey⟩
    · simp only [hb, Bool.not_false, if_true] at hs' ⊢
      rw [provisionVM_of_vm c keys hnm (by rw [hs']; exact hv₂), if_pos (by simp [hb])]
      exact ⟨⟨rfl, rfl, rfl⟩, .emit (Reissued.newMachine _ _)⟩
    · simp only [hb, Bool.not_true, if_false] at hs' hp hpatch ⊢
      exact provisionVM_replay_mark hkp hnm hv₂ hs' hp hpatch hb

/-! ## A pass that registers the provider ID -/

theorem patchNodeProviderID_registered {a : Answers} {c : MachineContext} {km : KubevirtMachine}
    {s : Sys} (h : (patchNodeProviderID a c km s).machine.providerID.isSome = true)
    (hkp : km.providerID = none) :
    (patchNodeProviderID a c km s).result = {} ∧ (patchNodeProviderID a c km s).err = none ∧
      ∃ m : KubevirtMachine, m.ready = true ∧
        (patchNodeProviderID a c km s).machine = m.markTrue a.now vmProvisionedCondition := by
  revert h
  unfold patchNodeProviderID
  split
  · simp [hkp]
  split
  · simp [hkp]
  · exact fun _ => ⟨rfl, rfl, _, rfl, rfl⟩

theorem waitForBootstrap_registered {a : Answers} {c : MachineContext} {km : KubevirtMachine}
    {exec : VMCommandExecutor} {s : Sys}
    (h : (waitForBootstrap a c km exec s).machine.providerID.isSome = true) (hkp : km.providerID = none) :
    (waitForBootstrap a c km exec s).result = {} ∧ (waitForBootstrap a c km exec s).err = none ∧
      ∃ m : KubevirtMachine, m.ready = true ∧
        (waitForBootstrap a c km exec s).machine = m.markTrue a.now vmProvisionedCondition := by
  cases hw : (!km.bootstrapped && !a.isBootstrapped exec)
  · rw [waitForBootstrap_ready s hw] at h ⊢
    exact patchNodeProviderID_registered h hkp
  · rw [waitForBootstrap_waiting s hw] at h
    simp [hkp] at h

theorem markProvisioned_registered {a : Answers} {c : MachineContext} {km : KubevirtMachine}
    {exec : VMCommandExecutor} {s : Sys}
    (h : (markProvisioned a c km exec s).machine.providerID.isSome = true) (hkp : km.providerID = none) :
    (markProvisioned a c km exec s).result = {} ∧ (markProvisioned a c km exec s).err = none ∧
      ∃ m : KubevirtMachine, m.ready = true ∧
        (markProvisioned a c km exec s).machine = m.markTrue a.now vmProvisionedCondition := by
  rcases hn : a.newHelper .reconcileNormal with _ | e
  · cases hb : Conditions.has bootstrapExecSucceededCondition
        (km.markTrue a.now vmProvisionedCondition).conditions
    · rw [markProvisioned_absent c km exec s hn hb] at h ⊢
      cases hpt : a.patch .reconcileNormal
      · simp only [hpt] at h ⊢
        exact waitForBootstrap_registered h (by simp [hkp])
      · simp [hpt, hkp] at h
    · rw [markProvisioned_present c km exec s hn hb] at h ⊢
      exact waitForBootstrap_registered h (by simp [hkp])
  · rw [markProvisioned_helperFailed c km exec s hn] at h
    simp [hkp] at h

/-- A provisioning pass that ends with a provider ID returns an empty
`Result` and no error, with the machine ready and `VMProvisioned` just marked
true. -/
theorem provisionVM_registered {a : Answers} {c : MachineContext} {km : KubevirtMachine}
    {keys : SshKeys} {s : Sys} (h : (provisionVM a c km keys s).machine.providerID.isSome = true)
    (hkp : km.providerID = none) :
    (provisionVM a c km keys s).result = {} ∧ (provisionVM a c km keys s).err = none ∧
      ∃ m : KubevirtMachine, m.ready = true ∧
        (provisionVM a c km keys s).machine = m.markTrue a.now vmProvisionedCondition := by
  revert h
  unfold provisionVM
  dsimp only
  split
  · simp [hkp]
  split
  · simp [hkp]
  split
  · simp [hkp]
  · exact fun h => markProvisioned_registered h hkp

/-! ## Secrets between the two runs -/

/-- Provisioning writes no Secret. -/
theorem provisionVM_secrets (a : Answers) (c : MachineContext) (km : KubevirtMachine) (keys : SshKeys)
    (s : Sys) : (provisionVM a c km keys s).sys.world.secrets = s.world.secrets := by
  have hmark : ∀ m exec (t : Sys), (markProvisioned a c m exec t).sys.world.secrets = t.world.secrets := by
    intro m exec t
    unfold markProvisioned
    split
    · rfl
    dsimp only
    split
    · rw [patchKubevirtMachine_eq]
      cases a.patch .reconcileNormal
      · rw [waitForBootstrap_world]
        rfl
      · rfl
    · rw [waitForBootstrap_world]
  rcases hnm : a.newMachine with _ | e
  · cases hv : s.world.virtualMachines km.key
    · rw [provisionVM_of_novm c keys hnm hv]
      rcases hc : a.createVM with _ | e
      · simp only [hc]
        split
        · rfl
        · exact hmark _ _ _
      · rfl
    · rw [provisionVM_of_vm c keys hnm hv]
      split
      · rfl
      · exact hmark _ _ _
  · simp only [provisionVM, hnm]
    rfl

/-- The stage reads the KubevirtMachine only for its owner reference. -/
theorem reconcileKubevirtBootstrapSecret_ownerRef (fl : SecretFaults) (c : MachineContext)
    {km km' : KubevirtMachine} (s : Sys) (h : km.ownerRef = km'.ownerRef) :
    reconcileKubevirtBootstrapSecret fl c km s = reconcileKubevirtBootstrapSecret fl c km' s := by
  unfold reconcileKubevirtBootstrapSecret setUserdata setOwnerRef
  rw [h]

/-- The stage returns at once when the existence check finds the derived
Secret (lines 400–405). -/
theorem reconcileKubevirtBootstrapSecret_of_found {fl : SecretFaults} {c : MachineContext}
    (km : KubevirtMachine) {s : Sys} {dsn : String} {x : Secret}
    (hdsn : c.machine.dataSecretName = some dsn)
    (hK : getSecret fl s.world (userdataKey c.machine dsn) = .ok x) :
    reconcileKubevirtBootstrapSecret fl c km s = (none, s) := by
  simp only [reconcileKubevirtBootstrapSecret, hdsn, hK]

theorem getSecret_congr {fl : SecretFaults} {w w' : World} (h : w'.secrets = w.secrets) (k : ObjectKey) :
    getSecret fl w' k = getSecret fl w k := by
  simp only [getSecret, h]

/-! ## The whole pass -/

section Branches

variable {a : Answers} {c : MachineContext} {km : KubevirtMachine} (s : Sys)

theorem reconcileNormal_of_providerID {pid : String} (hp : km.providerID = some pid) :
    reconcileNormal a c km s = ⟨{}, none, { km with ready := true }.markTrue a.now vmProvisionedCondition, s⟩ := by
  simp only [reconcileNormal, hp]

theorem reconcileNormal_of_noData (hp : km.providerID = none) (hd : c.machine.dataSecretName = none) :
    reconcileNormal a c km s = ⟨{}, none, km.markFalse a.now vmProvisionedCondition
      (if (!isControlPlaneMachine c.machine &&
          !Conditions.isTrue controlPlaneInitializedCondition c.cluster.conditions) = true
        then waitingForControlPlaneAvailableReason else waitingForBootstrapDataReason) .info "", s⟩ := by
  simp only [reconcileNormal, hp, hd]
  split <;> rfl

theorem reconcileNormal_of_noKeys {dsn : String} (hp : km.providerID = none)
    (hd : c.machine.dataSecretName = some dsn) (hk : a.sshKeysPersisted = false) :
    reconcileNormal a c km s = ⟨{ requeueAfter := 10 }, none, km, s⟩ := by
  simp only [reconcileNormal, hp, hd, hk]
  rfl

theorem reconcileNormal_of_keysFailed {dsn : String} {e : GoError} (hp : km.providerID = none)
    (hd : c.machine.dataSecretName = some dsn) (hk : a.sshKeysPersisted = true)
    (hkeys : a.sshKeys = .error e) :
    reconcileNormal a c km s =
      ⟨{}, some (.wrap "failed to fetch ssh keys for cluster nodes" e), km, s⟩ := by
  simp only [reconcileNormal, hp, hd, hk, hkeys]
  rfl

theorem reconcileNormal_of_keys {dsn : String} {keys : SshKeys} (hp : km.providerID = none)
    (hd : c.machine.dataSecretName = some dsn) (hk : a.sshKeysPersisted = true)
    (hkeys : a.sshKeys = .ok keys) :
    reconcileNormal a c km s =
      match reconcileKubevirtBootstrapSecret a.secrets c km s with
      | (some _, s) => ⟨{}, none, km.markFalse a.now vmProvisionedCondition waitingForBootstrapDataReason
          .info "", s⟩
      | (none, s) => provisionVM a c km keys s := by
  simp only [reconcileNormal, hp, hd, hk, hkeys]
  rfl

end Branches

/-- Marking `VMProvisioned` true and the machine ready, on a machine already
marked so, changes nothing. -/
theorem KubevirtMachine.markTrue_ready_again {m : KubevirtMachine} (h : m.ready = true) (now : Nat)
    (t : String) : { (m.markTrue now t) with ready := true }.markTrue now t = m.markTrue now t := by
  obtain ⟨_, _, _, _, _, _, _, _, _, ready, _, _⟩ := m
  subst h
  simp only [KubevirtMachine.markTrue, Conditions.markTrue, Conditions.set_set]

/-- The second pass repeats the first, as `Repeats` and `Reissued` say,
unless the first created the derived Secret or saw its patch before
bootstrapping refused. -/
theorem reconcileNormal_repeats (a : Answers) (c : MachineContext) (km : KubevirtMachine) (w : World)
    (hsecret : ∀ sec, .createSecret sec true ∉ (reconcileNormal a c km ⟨w, []⟩).sys.effects)
    (hpatch : ∀ m, .patch .reconcileNormal m false ∉ (reconcileNormal a c km ⟨w, []⟩).sys.effects) :
    Repeats (reconcileNormal a c km ⟨w, []⟩) (reconcileNormal a c (reconcileNormal a c km ⟨w, []⟩).machine
      ⟨(reconcileNormal a c km ⟨w, []⟩).sys.world, []⟩) ∧
    Extends (Reissued (reconcileNormal a c km ⟨w, []⟩)) ⟨(reconcileNormal a c km ⟨w, []⟩).sys.world, []⟩
      (reconcileNormal a c (reconcileNormal a c km ⟨w, []⟩).machine
        ⟨(reconcileNormal a c km ⟨w, []⟩).sys.world, []⟩).sys := by
  rcases hp : km.providerID with _ | pid
  swap
  · rw [reconcileNormal_of_providerID _ hp, reconcileNormal_of_providerID _ (by simpa using hp),
      KubevirtMachine.markTrue_ready_again rfl]
    exact ⟨⟨rfl, rfl, rfl⟩, .refl _ _⟩
  rcases hd : c.machine.dataSecretName with _ | dsn
  · rw [reconcileNormal_of_noData _ hp hd, reconcileNormal_of_noData _ (by simpa using hp) hd,
      KubevirtMachine.markFalse_markFalse]
    exact ⟨⟨rfl, rfl, rfl⟩, .refl _ _⟩
  cases hk : a.sshKeysPersisted
  · rw [reconcileNormal_of_noKeys _ hp hd hk, reconcileNormal_of_noKeys _ hp hd hk]
    exact ⟨⟨rfl, rfl, rfl⟩, .refl _ _⟩
  rcases hkeys : a.sshKeys with e | keys
  · rw [reconcileNormal_of_keysFailed _ hp hd hk hkeys, reconcileNormal_of_keysFailed _ hp hd hk hkeys]
    exact ⟨⟨rfl, rfl, rfl⟩, .refl _ _⟩
  rw [reconcileNormal_of_keys _ hp hd hk hkeys] at hsecret hpatch ⊢
  have hwait : ∀ {e : GoError} {s₁ : Sys}, s₁.world = w →
      reconcileKubevirtBootstrapSecret a.secrets c km ⟨w, []⟩ = (some e, s₁) →
      reconcileNormal a c (km.markFalse a.now vmProvisionedCondition waitingForBootstrapDataReason .info "")
        ⟨s₁.world, []⟩ =
      ⟨{}, none, km.markFalse a.now vmProvisionedCondition waitingForBootstrapDataReason .info "", s₁⟩ := by
    intro e s₁ hw h
    rw [reconcileNormal_of_keys _ (by simpa using hp) hd hk hkeys, hw,
      reconcileKubevirtBootstrapSecret_ownerRef a.secrets c _ (show (km.markFalse a.now
        vmProvisionedCondition waitingForBootstrapDataReason .info "").ownerRef = km.ownerRef from rfl),
      h, KubevirtMachine.markFalse_markFalse]
  rcases reconcileKubevirtBootstrapSecret_cases a.secrets c km ⟨w, []⟩ with
    ⟨dsn', x, hdsn', hK, h⟩ | ⟨e, h⟩ | ⟨dsn', v, e, -, h | ⟨-, h⟩⟩
  · simp only [h] at hsecret hpatch ⊢
    rcases hreg : (provisionVM a c km keys ⟨w, []⟩).machine.providerID with _ | pid
    · have hK' : getSecret a.secrets (provisionVM a c km keys ⟨w, []⟩).sys.world
          (userdataKey c.machine dsn') = .ok x := by
        rw [getSecret_congr (provisionVM_secrets a c km keys _)]
        exact hK
      rw [reconcileNormal_of_keys _ hreg hd hk hkeys, reconcileKubevirtBootstrapSecret_of_found (s := ⟨_, []⟩) _ hdsn' hK']
      exact provisionVM_replay a c km keys _ _ hp rfl hreg hpatch
    · obtain ⟨hr, he, m, hm, hmach⟩ :=
        provisionVM_registered (show (provisionVM a c km keys ⟨w, []⟩).machine.providerID.isSome from by
          rw [hreg]; rfl) hp
      rw [reconcileNormal_of_providerID _ hreg, hmach, KubevirtMachine.markTrue_ready_again hm]
      exact ⟨⟨hr.symm, he.symm, hmach.symm⟩, .refl _ _⟩
  · simp only [h]
    rw [hwait rfl h]
    exact ⟨⟨rfl, rfl, rfl⟩, .refl _ _⟩
  · simp only [h]
    rw [hwait rfl h]
    exact ⟨⟨rfl, rfl, rfl⟩, .emit (.of_mem (by simp) rfl)⟩
  · simp only [h] at hsecret
    exact absurd (by simp [Sys.emit]) (hsecret (userdataSecret c.machine km dsn' v))

/-- Running `reconcileNormal` a second time, on the machine the first run
produced and in the world it left, under the same answers: unless the first
run created the derived Secret, or saw its patch before bootstrapping
refused, the second returns the same `Result` and error and leaves the same
machine, and every provisioning effect it issues is one the first run issued
and saw refused. -/
theorem reconcileNormal_replay (a : Answers) (c : MachineContext) (km : KubevirtMachine) (w : World)
    (hsecret : ∀ sec, .createSecret sec true ∉ (reconcileNormal a c km ⟨w, []⟩).sys.effects)
    (hpatch : ∀ m, .patch .reconcileNormal m false ∉ (reconcileNormal a c km ⟨w, []⟩).sys.effects) :
    (reconcileNormal a c (reconcileNormal a c km ⟨w, []⟩).machine
        ⟨(reconcileNormal a c km ⟨w, []⟩).sys.world, []⟩).result = (reconcileNormal a c km ⟨w, []⟩).result ∧
    (reconcileNormal a c (reconcileNormal a c km ⟨w, []⟩).machine
        ⟨(reconcileNormal a c km ⟨w, []⟩).sys.world, []⟩).err = (reconcileNormal a c km ⟨w, []⟩).err ∧
    (reconcileNormal a c (reconcileNormal a c km ⟨w, []⟩).machine
        ⟨(reconcileNormal a c km ⟨w, []⟩).sys.world, []⟩).machine = (reconcileNormal a c km ⟨w, []⟩).machine ∧
    ∀ e ∈ (reconcileNormal a c (reconcileNormal a c km ⟨w, []⟩).machine
        ⟨(reconcileNormal a c km ⟨w, []⟩).sys.world, []⟩).sys.effects, e.isProvisioning = true →
      e ∈ (reconcileNormal a c km ⟨w, []⟩).sys.effects ∧ e.refused = true := by
  obtain ⟨⟨hr, he, hm⟩, es, hes, hQ⟩ := reconcileNormal_repeats a c km w hsecret hpatch
  refine ⟨hr, he, hm, fun e hmem => hQ e ?_⟩
  rw [hes] at hmem
  simpa using hmem

/-- An effect that a list's check rules out is not in the list. -/
theorem Effect.not_mem_of_all {p : Effect → Bool} {l : List Effect} {e : Effect} (h : l.all p = true)
    (he : p e = false) : e ∉ l :=
  fun hm => by simpa [he] using List.all_eq_true.mp h e hm

/-- The worker's store once the derived Secret exists. -/
def bootstrapWorld : World := ⟨Store.empty, Store.ofList [genericBootstrapSecret,
  userdataSecret workerMachine workerKubevirtMachine "worker-0-bootstrap" [35]], fun _ => false⟩

/-- The worker's first call on `bootstrapWorld`: it creates the VM, patches
`Bootstrapping` and requeues, as the workload cluster has no kubeconfig. -/
def bootstrapRun : Outcome :=
  reconcileNormal (settledAnswers workerContext.cluster) workerContext workerKubevirtMachine
    ⟨bootstrapWorld, []⟩

theorem reconcileNormal_replay_bootstrapped :
    (reconcileNormal (settledAnswers workerContext.cluster) workerContext bootstrapRun.machine
        ⟨bootstrapRun.sys.world, []⟩).result = bootstrapRun.result ∧
    (reconcileNormal (settledAnswers workerContext.cluster) workerContext bootstrapRun.machine
        ⟨bootstrapRun.sys.world, []⟩).err = bootstrapRun.err ∧
    (reconcileNormal (settledAnswers workerContext.cluster) workerContext bootstrapRun.machine
        ⟨bootstrapRun.sys.world, []⟩).machine = bootstrapRun.machine ∧
    ∀ e ∈ (reconcileNormal (settledAnswers workerContext.cluster) workerContext bootstrapRun.machine
        ⟨bootstrapRun.sys.world, []⟩).sys.effects, e.isProvisioning = true →
      e ∈ bootstrapRun.sys.effects ∧ e.refused = true :=
  reconcileNormal_replay (settledAnswers workerContext.cluster) workerContext workerKubevirtMachine
    bootstrapWorld
    (fun _ => Effect.not_mem_of_all (p := fun e => !(e matches .createSecret _ true)) (by decide) rfl)
    (fun _ => Effect.not_mem_of_all (p := fun e => !(e matches .patch .reconcileNormal _ false))
      (by decide) rfl)

/-- The worker's first call on `freshWorld`: the bootstrap-secret stage
creates the derived Secret and fails. -/
def freshRun : Outcome :=
  reconcileNormal (settledAnswers workerContext.cluster) workerContext workerKubevirtMachine
    ⟨freshWorld, []⟩

/-- The second call after `freshRun` returns another `Result` and creates
the VM. -/
theorem reconcileNormal_replay_fresh :
    (reconcileNormal (settledAnswers workerContext.cluster) workerContext freshRun.machine
        ⟨freshRun.sys.world, []⟩).result ≠ freshRun.result ∧
    Effect.createVM ⟨"default", "worker-0"⟩ true ∈
      (reconcileNormal (settledAnswers workerContext.cluster) workerContext freshRun.machine
        ⟨freshRun.sys.world, []⟩).sys.effects := by
  decide

end CapkReconciler
