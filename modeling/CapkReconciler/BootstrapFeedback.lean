import Mathlib.Data.Bool.Basic
import CapkReconciler.OwnedConditions
import CapkReconciler.VirtualMachines

/-!
# The `Bootstrapping` feedback lands at most once

Lines 243–252 patch the machine at once, before the bootstrap starts, so that
users see `BootstrapExecSucceeded` go to `False`, `Bootstrapping`. The patch
is sent only when the loaded machine has no such condition. Once it lands,
the call leaves the condition stored: the deferred patch writes a machine
that still carries it, since no stage removes a condition
(`OwnedChange.has`). So over a run the patch lands at most once per machine.

- `Effect.landsBootstrapping k`: a landed patch of lines 249–251 to the
  machine under `k`.
- `World.bootstrapNoted w k`: the machine under `k` carries
  `BootstrapExecSucceeded`, or no machine is stored under `k`. It never goes
  back to false (`bootstrapNoted_step`).
- `BootstrappingKept s o`: a stage that sent the patch ends holding a machine
  that carries the condition. Each stage gets one lemma
  (`*_bootstrappingKept`).
- `reconcile_bootstrapping`, `log_bootstrapping`: the landed patches for `k`
  plus the flag at the start are no more than the flag at the end, for a call
  and then for a run.
- `run_bootstrapping_once`: over every run, from every world, the patch lands
  at most once for each machine, not at all when the machine carried the
  condition at the start, and a run that landed it ends with the condition
  stored.
-/

namespace CapkReconciler

open Conditions

/-- A landed patch of lines 249–251, the `Bootstrapping` feedback, to the
machine under `k`. -/
def Effect.landsBootstrapping (k : ObjectKey) : Effect → Bool
  | .patch .reconcileNormal m true => m.key == k
  | _ => false

theorem Effect.landsBootstrapping_iff {k : ObjectKey} {e : Effect} :
    e.landsBootstrapping k = true ↔ ∃ m, e = .patch .reconcileNormal m true ∧ m.key = k := by
  constructor
  · intro h
    match e, h with
    | .patch .reconcileNormal m true, h => exact ⟨m, rfl, by simpa [Effect.landsBootstrapping] using h⟩
  · rintro ⟨m, rfl, rfl⟩
    simp [Effect.landsBootstrapping]

/-- The machine under `k` carries `BootstrapExecSucceeded`, or no machine is
stored under `k`. -/
def World.bootstrapNoted (w : World) (k : ObjectKey) : Bool :=
  match w.kubevirtMachines.lookup k with
  | some m => has bootstrapExecSucceededCondition m.conditions
  | none => true

/-- No event clears the flag: a stored machine keeps its conditions' types. -/
theorem bootstrapNoted_step (w : World) (e : Event) (k : ObjectKey) (h : w.bootstrapNoted k = true) :
    (w.step e).bootstrapNoted k = true := by
  unfold World.bootstrapNoted at h ⊢
  split
  · rename_i m' hm'
    obtain ⟨m, hm, hc⟩ := step_ownedChange w e k hm'
    simp only [hm] at h
    exact hc.has _ h
  · rfl

theorem Conditions.has_set_self (now : Nat) (c : Condition) (cs : List Condition) :
    has c.type (set now c cs) = true := by
  obtain ⟨τ, h⟩ := get_set_self now c cs
  exact (has_iff_get _ _).mpr ⟨_, h⟩

/-- After effects among which a patch to the machine under `k` landed, the
machine stored under `k` is one such patch. -/
theorem lookup_emitAll_of_landed {P : KubevirtMachine → Prop} {k : ObjectKey} (s : Sys)
    (es : List Effect) (hes : ∀ site m, Effect.patch site m true ∈ es → m.key = k → P m)
    (hl : ∃ site m, Effect.patch site m true ∈ es ∧ m.key = k) :
    ∀ m, (s.emitAll es).world.kubevirtMachines.lookup k = some m → P m := by
  induction es generalizing s with
  | nil =>
    obtain ⟨_, _, h, -⟩ := hl
    cases h
  | cons e es ih =>
    have hes' : ∀ site m, Effect.patch site m true ∈ es → m.key = k → P m :=
      fun site m h => hes site m (List.mem_cons_of_mem _ h)
    by_cases he : ∃ site m, e = .patch site m true ∧ m.key = k
    · -- the first landed patch puts a machine with the property
      obtain ⟨site, m, rfl, hk⟩ := he
      refine lookup_emitAll_of (s.emit _) es hes' fun m' hm' => ?_
      simp only [Sys.emit_world, Effect.apply, Store.lookup_put, Keyed.key_kubevirtMachine, hk,
        if_true, Option.some.injEq] at hm'
      exact hm' ▸ hes site m (List.mem_cons_self _ _) hk
    · obtain ⟨site, m, hm, hk⟩ := hl
      rcases List.mem_cons.mp hm with rfl | hm
      · exact absurd ⟨site, m, rfl, hk⟩ he
      · exact ih (s.emit e) hes' ⟨site, m, hm, hk⟩

/-! ## A stage that sent the patch keeps the condition -/

/-- An effect that is no patch of lines 249–251. -/
def NotBootstrappingPatch (e : Effect) : Prop := ∀ m ok, e ≠ .patch .reconcileNormal m ok

theorem mem_of_extends {s s' : Sys} (hx : Extends NotBootstrappingPatch s s') {m : KubevirtMachine}
    {ok : Bool} (hp : .patch .reconcileNormal m ok ∈ s'.effects) : .patch .reconcileNormal m ok ∈ s.effects := by
  obtain ⟨es, hes, hQes⟩ := hx.effects_eq
  rw [hes, List.mem_append] at hp
  exact hp.resolve_right fun hp => hQes _ hp m ok rfl

/-- From `s`, a stage that sent a `Bootstrapping` patch ends holding a machine
that carries `BootstrapExecSucceeded`. -/
def BootstrappingKept (s : Sys) (o : Outcome) : Prop :=
  ∀ m ok, .patch .reconcileNormal m ok ∈ o.sys.effects →
    .patch .reconcileNormal m ok ∈ s.effects ∨ has bootstrapExecSucceededCondition o.machine.conditions = true

namespace BootstrappingKept

variable {s s' : Sys} {o : Outcome}

/-- A stage that sent none. -/
theorem of_extends (hx : Extends NotBootstrappingPatch s o.sys) : BootstrappingKept s o :=
  fun _ _ hp => .inl (mem_of_extends hx hp)

/-- A stage that ends holding a machine with the condition. -/
theorem of_has (h : has bootstrapExecSucceededCondition o.machine.conditions = true) :
    BootstrappingKept s o := fun _ _ _ => .inr h

/-- Requests that are no such patch, then a stage that keeps the condition. -/
theorem mono (h : BootstrappingKept s' o) (hx : Extends NotBootstrappingPatch s s') :
    BootstrappingKept s o := fun m ok hp => (h m ok hp).imp_left (mem_of_extends hx)

end BootstrappingKept

section Stages

variable (a : Answers) (c : MachineContext)

theorem waitForBootstrap_bootstrappingKept (km : KubevirtMachine) (exec : VMCommandExecutor) (s : Sys) :
    BootstrappingKept s (waitForBootstrap a c km exec s) :=
  .of_extends ((waitForBootstrap_extends a c km exec s).mono (by rintro _ ⟨_, rfl⟩ _ _ h; cases h))

/-- The patch of lines 247–252 is sent on a machine just given the condition,
which the wait for bootstrap keeps. -/
theorem markProvisioned_bootstrappingKept (km : KubevirtMachine) (exec : VMCommandExecutor) (s : Sys) :
    BootstrappingKept s (markProvisioned a c km exec s) := by
  unfold markProvisioned
  split
  · exact fun _ _ => .inl
  dsimp only
  split
  · have hb := has_set_self a.now (falseCondition bootstrapExecSucceededCondition bootstrappingReason .info "")
      (km.markTrue a.now vmProvisionedCondition).conditions
    rw [patchKubevirtMachine_eq]
    cases a.patch .reconcileNormal with
    | some e => exact .of_has hb
    | none => exact .of_has ((waitForBootstrap_ownedChange a c _ exec _).has _ hb)
  · exact waitForBootstrap_bootstrappingKept a c _ exec s

theorem provisionVM_bootstrappingKept (km : KubevirtMachine) (keys : SshKeys) (s : Sys) :
    BootstrappingKept s (provisionVM a c km keys s) := by
  have h₁ : Extends NotBootstrappingPatch s (s.emit (.newMachine km.key)) := .emit fun _ _ h => nomatch h
  rcases hnm : a.newMachine with _ | e
  swap
  · simp only [provisionVM, hnm]
    exact .of_extends h₁
  have hbooted : ∀ s', Extends NotBootstrappingPatch s s' →
      BootstrappingKept s (if !a.isBooted ⟨a.address, keys.publicKey, keys.privateKey⟩ then
        ⟨{ requeueAfter := 20 }, none, km, s'⟩
      else markProvisioned a c km ⟨a.address, keys.publicKey, keys.privateKey⟩ s') := fun s' hx => by
    split
    · exact .of_extends hx
    · exact (markProvisioned_bootstrappingKept a c km _ s').mono hx
  cases hv : s.world.virtualMachines km.key
  · rw [provisionVM_of_novm c keys hnm hv]
    have h₂ : ∀ ok, Extends NotBootstrappingPatch s ((s.emit (.newMachine km.key)).emit (.createVM km.key ok)) :=
      fun _ => h₁.trans (.emit fun _ _ h => nomatch h)
    cases a.createVM with
    | some e => exact .of_extends (h₂ false)
    | none => exact hbooted _ (h₂ true)
  · rw [provisionVM_of_vm c keys hnm hv]
    exact hbooted _ h₁

theorem reconcileNormal_bootstrappingKept (km : KubevirtMachine) (s : Sys) :
    BootstrappingKept s (reconcileNormal a c km s) := by
  have hsame : ∀ o : Outcome, o.sys = s → BootstrappingKept s o := fun o h _ _ hp => .inl (h ▸ hp)
  unfold reconcileNormal
  split
  · exact hsame _ rfl
  split
  · split <;> exact hsame _ rfl
  split
  · exact hsame _ rfl
  split
  · exact hsame _ rfl
  rename_i keys _
  -- the bootstrap-secret stage only creates Secrets
  have hsecret : Extends NotBootstrappingPatch s (reconcileKubevirtBootstrapSecret a.secrets c km s).2 := by
    have hcreate : ∀ sec ok, NotBootstrappingPatch (.createSecret sec ok) := fun _ _ _ _ h => nomatch h
    rcases reconcileKubevirtBootstrapSecret_cases a.secrets c km s with
      ⟨_, _, _, _, h⟩ | ⟨_, h⟩ | ⟨_, _, _, _, h | ⟨-, h⟩⟩ <;> rw [h]
    · exact .refl _ _
    · exact .refl _ _
    · exact .emit (hcreate _ _)
    · exact (Extends.emit (hcreate _ _)).trans (.emit (hcreate _ _))
  split <;> rename_i heq <;> rw [heq] at hsecret
  · exact .of_extends hsecret
  · exact (provisionVM_bootstrappingKept a c km keys _).mono hsecret

end Stages

/-! ## Calls and runs -/

/-- A call sends the patch of lines 249–251 at most once: the normal path sends
the requests of `normalRequests`, each at most once, and the delete path sends
none of them. -/
theorem reconcile_countP_bootstrapping (a : Answers) (req : ObjectKey) (w : World) (k : ObjectKey) :
    (reconcile a req w).sys.effects.countP (Effect.landsBootstrapping k) ≤ 1 := by
  have hle : ∀ es : List Effect, (es.map Effect.request).Sublist normalRequests →
      es.countP (Effect.landsBootstrapping k) ≤ 1 := fun es hes =>
    calc es.countP (Effect.landsBootstrapping k)
        ≤ es.countP (fun e => e.request == .patch .reconcileNormal) :=
          List.countP_mono_left fun e _ he => by
            obtain ⟨m, rfl, -⟩ := Effect.landsBootstrapping_iff.mp he
            rfl
      _ = (es.map Effect.request).count (.patch .reconcileNormal) := by simp [List.count, Function.comp_def]
      _ ≤ normalRequests.count (.patch .reconcileNormal) := hes.count_le _
      _ = 1 := by decide
  rcases reconcile_sys_shape a req w with h | ⟨m, ok, s, h, hs⟩ <;> rw [h]
  · simp
  have hd : [Effect.patch .reconcile m ok].countP (Effect.landsBootstrapping k) = 0 := rfl
  rw [Sys.emit_effects, List.countP_append, hd, Nat.add_zero]
  rcases hs with rfl | ⟨m', ok', rfl⟩ | ⟨c, km, rfl⟩
  · simp
  · simp [Effect.landsBootstrapping]
  · obtain ⟨es, hes, hsub⟩ := reconcileNormal_issues a c km ⟨w, []⟩
    rw [hes, Sys.emitAll_effects, List.nil_append]
    exact hle es hsub

/-- A call whose normal path sent the patch leaves the machine stored under
its key carrying the condition: the patch carries it, and so does the
deferred patch. -/
theorem reconcile_noted_of_sent {a : Answers} {req : ObjectKey} {w : World} {km : KubevirtMachine}
    {c : MachineContext} (heq : reconcile a req w = deferredPatch a (reconcileBranch a c km ⟨w, []⟩))
    (hb : reconcileBranch a c km ⟨w, []⟩ = reconcileNormal a c km ⟨w, []⟩) {m : KubevirtMachine}
    (he : .patch .reconcileNormal m true ∈ (reconcileNormal a c km ⟨w, []⟩).sys.effects) :
    (reconcile a req w).sys.world.bootstrapNoted m.key = true := by
  have heff := reconcile_effects_of_loaded heq
  rw [hb] at heff
  have hfinal : has bootstrapExecSucceededCondition (reconcileNormal a c km ⟨w, []⟩).machine.conditions = true :=
    (reconcileNormal_bootstrappingKept a c km ⟨w, []⟩ _ true he).resolve_left (List.not_mem_nil _)
  obtain ⟨es, hes, hQ⟩ := normal_effects a c km w
  rw [hes] at he heff
  unfold World.bootstrapNoted
  split
  · rename_i m' hm'
    rw [reconcile_sys, heff] at hm'
    refine lookup_emitAll_of_landed (P := fun m => has bootstrapExecSucceededCondition m.conditions = true)
      _ _ (fun site m'' hm'' _ => ?_) ⟨_, _, List.mem_append_left _ he, rfl⟩ m' hm'
    rcases List.mem_append.mp hm'' with hm'' | hm''
    · obtain ⟨-, -, -, rfl⟩ := hQ _ hm''
      exact has_set_self _ (falseCondition bootstrapExecSucceededCondition bootstrappingReason .info "") _
    · obtain ⟨-, rfl, -⟩ := Effect.patch.inj (List.mem_singleton.mp hm'')
      exact hfinal
  · rfl

/-- **Call lemma**: a call lands the patch for `k` only on a loaded machine
without the condition, at most once, and then leaves the condition stored;
and it never clears the flag. -/
theorem reconcile_bootstrapping (a : Answers) (req : ObjectKey) (w : World) (k : ObjectKey) :
    (reconcile a req w).sys.effects.countP (Effect.landsBootstrapping k) + (w.bootstrapNoted k).toNat ≤
      ((reconcile a req w).sys.world.bootstrapNoted k).toNat := by
  rcases Nat.eq_zero_or_pos ((reconcile a req w).sys.effects.countP (Effect.landsBootstrapping k)) with
    h0 | hpos
  · rw [h0, Nat.zero_add]
    exact Bool.toNat_le_toNat (Bool.le_iff_imp.mpr (bootstrapNoted_step w (.reconcile a req) k))
  obtain ⟨e, he, hl⟩ := List.countP_pos_iff.mp hpos
  obtain ⟨m, rfl, hk⟩ := Effect.landsBootstrapping_iff.mp hl
  rcases reconcile_cases a req w with ⟨-, h0⟩ | ⟨km, c, -, hkm, -, -, -, -, heq⟩
  · rw [h0] at he
    cases he
  rw [reconcile_effects_of_loaded heq, List.mem_append, List.mem_singleton] at he
  replace he := he.resolve_right fun h => by cases h
  rcases reconcileBranch_cases a c km ⟨w, []⟩ with
    ⟨-, hb⟩ | ⟨-, -, hb⟩ | ⟨-, -, -, hb⟩ | ⟨-, -, -, hb⟩ <;> rw [hb] at he
  · cases he
  · cases he
  · rw [reconcileDelete_eq] at he
    split at he <;> simp at he
  -- the normal path sent it, on the machine under `k`, which had no condition
  obtain ⟨es, hes, hQ⟩ := normal_effects a c km w
  obtain ⟨-, -, hnb, rfl⟩ := hQ _ (hes ▸ he)
  have hreq : req = k := by
    rw [← hk]
    exact (w.kubevirtMachines.lookup_key hkm).symm
  subst hreq
  have hbefore : w.bootstrapNoted req = false := by
    simp only [World.bootstrapNoted, hkm, hnb]
  have hafter := reconcile_noted_of_sent heq hb he
  rw [hk] at hafter
  rw [hbefore, hafter]
  simpa using reconcile_countP_bootstrapping a req w req

/-- **Step lemma**: an event lands the patch for `k` at most once, only when
the flag is down, and raises it when it does. -/
theorem step_bootstrapping (w : World) (e : Event) (k : ObjectKey) :
    (w.issued e).countP (Effect.landsBootstrapping k) + (w.bootstrapNoted k).toNat ≤
      ((w.step e).bootstrapNoted k).toNat := by
  cases e with
  | reconcile a req => exact reconcile_bootstrapping a req w k
  | delete _ _ | purge _ =>
    rw [World.issued, List.countP_nil, Nat.zero_add]
    exact Bool.toNat_le_toNat (Bool.le_iff_imp.mpr (bootstrapNoted_step w _ k))

/-- **Run lemma**: over a run, the landed patches for `k` plus the flag at the
start are no more than the flag at the end. -/
theorem log_bootstrapping (w : World) (evs : List Event) (k : ObjectKey) :
    (w.log evs).countP (Effect.landsBootstrapping k) + (w.bootstrapNoted k).toNat ≤
      ((w.run evs).bootstrapNoted k).toNat := by
  induction evs generalizing w with
  | nil => simp [World.log, World.run]
  | cons e evs ih =>
    have h₁ := step_bootstrapping w e k
    have h₂ := ih (w.step e)
    simp only [World.log, List.countP_append, World.run, List.foldl_cons] at h₂ ⊢
    omega

/-- Over every run, from every world, the `Bootstrapping` feedback patch of
lines 247–252 lands at most once for the machine under `k`; not at all when
that machine carried `BootstrapExecSucceeded` at the start; and a run that
landed it ends with the machine under `k`, if any, carrying the condition. -/
theorem run_bootstrapping_once (w : World) (evs : List Event) (k : ObjectKey) :
    (w.log evs).countP (Effect.landsBootstrapping k) ≤ 1 ∧
    (∀ m, w.kubevirtMachines.lookup k = some m → has bootstrapExecSucceededCondition m.conditions = true →
      (w.log evs).countP (Effect.landsBootstrapping k) = 0) ∧
    (0 < (w.log evs).countP (Effect.landsBootstrapping k) →
      ∀ m, (w.run evs).kubevirtMachines.lookup k = some m → has bootstrapExecSucceededCondition m.conditions = true) := by
  have h := log_bootstrapping w evs k
  have hend := Bool.toNat_le ((w.run evs).bootstrapNoted k)
  refine ⟨by omega, fun m hm hb => ?_, fun hpos m hm => ?_⟩
  · have hstart : (w.bootstrapNoted k).toNat = 1 := by simp [World.bootstrapNoted, hm, hb]
    omega
  · have hnoted : (w.run evs).bootstrapNoted k = true := by
      cases hn : (w.run evs).bootstrapNoted k
      · simp only [hn, Bool.toNat_false] at h
        omega
      · rfl
    simpa [World.bootstrapNoted, hm] using hnoted

/-- The worker machine, fresh, through two settled calls: the second lands
the `Bootstrapping` patch, and the machine then carries the condition. -/
theorem run_bootstrapping_once_worker :
    (workerWorld.log [.reconcile (settledAnswers workerContext.cluster) ⟨"default", "worker-0"⟩,
        .reconcile (settledAnswers workerContext.cluster) ⟨"default", "worker-0"⟩]).countP
        (Effect.landsBootstrapping ⟨"default", "worker-0"⟩) = 1 ∧
    ∀ m, (workerWorld.run [.reconcile (settledAnswers workerContext.cluster) ⟨"default", "worker-0"⟩,
        .reconcile (settledAnswers workerContext.cluster) ⟨"default", "worker-0"⟩]
      ).kubevirtMachines.lookup ⟨"default", "worker-0"⟩ = some m →
      has bootstrapExecSucceededCondition m.conditions = true :=
  have h : (workerWorld.log [.reconcile (settledAnswers workerContext.cluster) ⟨"default", "worker-0"⟩,
      .reconcile (settledAnswers workerContext.cluster) ⟨"default", "worker-0"⟩]).countP
      (Effect.landsBootstrapping ⟨"default", "worker-0"⟩) = 1 := by decide
  ⟨h, (run_bootstrapping_once _ _ _).2.2 (by rw [h]; decide)⟩

end CapkReconciler
