import CapkReconciler.Replay

/-!
# Owner references of the derived Secrets

The bootstrap-secret stage lets a call through to the VM handle once its
existence check finds a Secret under `<dataSecretName>-userdata` (lines
400–405). It never reads that Secret's owner references. So the guarantee
that a call reaching the VM handle finds its Secret owned by its own
KubevirtMachine is a property of the whole run: it holds because the only
Secrets the reconciler ever writes are derived Secrets, each owned by the
KubevirtMachine whose call wrote it.

- `reconcile_effect_normal`: every effect of a call other than a patch is an
  effect of `reconcileNormal` on the loaded machine and its Machine.
- `reconcile_handle`: a call that reaches the VM handle found the derived
  Secret of its Machine in the store it started from.
- `step_userdataOwned`, `run_userdataOwned`: where no two stored
  KubevirtMachines' Machines derive the same Secret key, every event keeps
  each derived Secret owned by the KubevirtMachine it belongs to.
- `reconcile_userdata_owned`: from a store with no derived Secrets, every call
  of any interleaving that reaches the VM handle finds its derived Secret
  owned by its KubevirtMachine.
- `reconcile_sharedDataSecretName`: two Machines with one `DataSecretName`
  break this. The first one's call creates the Secret, and the second one's
  call passes the stage on a Secret owned by the first.
- `run_secret_kept`: no run changes or removes a Secret that is in the
  store. The one Secret a call may create lands on a key that held nothing.
-/

namespace CapkReconciler

/-! ## Reads and writes of Secrets -/

theorem getSecret_ok {fl : SecretFaults} {w : World} {k : ObjectKey} {sec : Secret}
    (h : getSecret fl w k = .ok sec) : w.secrets.lookup k = some sec := by
  unfold getSecret at h
  split at h
  · cases h
  · split at h
    · cases h; assumption
    · cases h

/-- A property that every Secret landed under `k` by the effects `es` has,
and the one there before has, holds of the one there after. -/
theorem secrets_lookup_emitAll_of {P : Secret → Prop} {k : ObjectKey} (s : Sys) (es : List Effect)
    (hc : ∀ sec, Effect.createSecret sec true ∈ es → sec.key = k → P sec)
    (hu : ∀ sec, Effect.updateSecret sec true ∈ es → sec.key = k → P sec)
    (h0 : ∀ sec, s.world.secrets.lookup k = some sec → P sec) :
    ∀ sec, (s.emitAll es).world.secrets.lookup k = some sec → P sec := by
  induction es generalizing s with
  | nil => exact h0
  | cons e es ih =>
    refine ih (s.emit e) (fun sec h => hc sec (List.mem_cons_of_mem _ h))
      (fun sec h => hu sec (List.mem_cons_of_mem _ h)) fun sec hsec => ?_
    cases e with
    | createSecret x ok =>
      cases ok
      · exact h0 sec hsec
      simp only [Sys.emit_world, Effect.apply, Store.lookup_put, Keyed.key_secret] at hsec
      split at hsec
      · cases hsec
        exact hc _ (List.mem_cons_self _ _) ‹_›
      · exact h0 sec hsec
    | updateSecret x ok =>
      cases ok
      · exact h0 sec hsec
      simp only [Sys.emit_world, Effect.apply, Store.lookup_put, Keyed.key_secret] at hsec
      split at hsec
      · cases hsec
        exact hu _ (List.mem_cons_self _ _) ‹_›
      · exact h0 sec hsec
    | patch _ _ ok => cases ok <;> exact h0 sec hsec
    | newMachine _ => exact h0 sec hsec
    | createVM _ ok => cases ok <;> exact h0 sec hsec
    | setProviderID _ => exact h0 sec hsec

/-! ## What one call writes -/

/-- **Inversion lemma**: an effect of a call other than a patch comes from
`reconcileNormal` on the loaded machine and the Machine the call resolved. -/
theorem reconcile_effect_normal {a : Answers} {req : ObjectKey} {w : World} {e : Effect}
    (he : e ∈ (reconcile a req w).sys.effects) (hp : ∀ site m ok, e ≠ .patch site m ok) :
    ∃ km c, w.kubevirtMachines.lookup req = some km ∧ a.ownerMachine = .ok (some c.machine) ∧
      e ∈ (reconcileNormal a c km ⟨w, []⟩).sys.effects := by
  rcases reconcile_cases a req w with ⟨-, h⟩ | ⟨km, c, -, hk, hm, -, -, -, heq⟩
  · rw [h] at he
    simp at he
  refine ⟨km, c, hk, hm, ?_⟩
  rw [reconcile_effects_of_loaded heq, List.mem_append, List.mem_singleton] at he
  rcases he with he | rfl
  · rcases reconcileBranch_cases a c km ⟨w, []⟩ with
      ⟨-, h⟩ | ⟨-, -, h⟩ | ⟨-, -, -, h⟩ | ⟨-, -, -, h⟩ <;> rw [h] at he
    · simp at he
    · simp at he
    · rw [reconcileDelete_eq] at he
      split at he <;> simp at he <;> exact absurd he (hp _ _ _)
    · exact he
  · exact absurd rfl (hp _ _ _)

/-- Every Secret a call creates is the derived Secret of the loaded machine and
its Machine. -/
theorem reconcile_createSecret {a : Answers} {req : ObjectKey} {w : World} {sec : Secret}
    {ok : Bool} (he : .createSecret sec ok ∈ (reconcile a req w).sys.effects) :
    ∃ (km : KubevirtMachine) (c : MachineContext) (dsn : String) (v : Bytes),
      w.kubevirtMachines.lookup req = some km ∧ a.ownerMachine = .ok (some c.machine) ∧
      c.machine.dataSecretName = some dsn ∧ sec = userdataSecret c.machine km dsn v := by
  obtain ⟨km, c, hk, hm, he⟩ := reconcile_effect_normal he (fun _ _ _ h => nomatch h)
  obtain ⟨es, hes, hQ⟩ := normal_effects a c km w
  obtain ⟨dsn, v, hd, rfl⟩ := hQ _ (hes ▸ he)
  exact ⟨km, c, dsn, v, hk, hm, hd, rfl⟩

/-- No call updates a Secret. -/
theorem reconcile_not_updateSecret (a : Answers) (req : ObjectKey) (w : World) (sec : Secret)
    (ok : Bool) : .updateSecret sec ok ∉ (reconcile a req w).sys.effects := fun he => by
  obtain ⟨km, c, -, -, he⟩ := reconcile_effect_normal he (fun _ _ _ h => nomatch h)
  obtain ⟨es, hes, hQ⟩ := normal_effects a c km w
  exact hQ _ (hes ▸ he)

/-- `reconcileNormal` reaches the VM handle only after the existence check
found the derived Secret: the stage lets nothing else through. -/
theorem reconcileNormal_handle {a : Answers} {c : MachineContext} {km : KubevirtMachine}
    {w : World} {vm : ObjectKey} (h : .newMachine vm ∈ (reconcileNormal a c km ⟨w, []⟩).sys.effects) :
    ∃ dsn x, c.machine.dataSecretName = some dsn ∧
      getSecret a.secrets w (userdataKey c.machine dsn) = .ok x := by
  unfold reconcileNormal at h
  split at h
  · simp at h
  split at h
  · split at h <;> simp at h
  split at h
  · simp at h
  split at h
  · simp at h
  rcases reconcileKubevirtBootstrapSecret_cases a.secrets c km ⟨w, []⟩ with
    ⟨dsn, x, hd, hK, -⟩ | ⟨e, hs⟩ | ⟨dsn, v, e, -, hs | ⟨-, hs⟩⟩
  · exact ⟨dsn, x, hd, hK⟩
  all_goals simp [hs] at h

/-- A call that reaches the VM handle found the derived Secret of the Machine
it resolved, in the store it started from. -/
theorem reconcile_handle {a : Answers} {req : ObjectKey} {w : World} {vm : ObjectKey}
    (h : .newMachine vm ∈ (reconcile a req w).sys.effects) :
    ∃ (km : KubevirtMachine) (c : MachineContext) (dsn : String) (x : Secret),
      w.kubevirtMachines.lookup req = some km ∧ a.ownerMachine = .ok (some c.machine) ∧
      c.machine.dataSecretName = some dsn ∧ w.secrets.lookup (userdataKey c.machine dsn) = some x := by
  obtain ⟨km, c, hk, hm, h⟩ := reconcile_effect_normal h (fun _ _ _ h => nomatch h)
  obtain ⟨dsn, x, hd, hK⟩ := reconcileNormal_handle h
  exact ⟨km, c, dsn, x, hk, hm, hd, getSecret_ok hK⟩

/-! ## The invariant over runs

`machineOf` assigns each KubevirtMachine key the Machine that owns it, the one
`util.GetOwnerMachine` resolves for it. -/

section Runs

variable (machineOf : ObjectKey → Machine)

/-- No KubevirtMachine stored in `w` finds its derived Secret there. -/
def NoUserdata (w : World) : Prop :=
  ∀ req km dsn, w.kubevirtMachines.lookup req = some km → (machineOf req).dataSecretName = some dsn →
    w.secrets.lookup (userdataKey (machineOf req) dsn) = none

/-- The Machines of the KubevirtMachines stored in `w` derive distinct
Secret keys. -/
def DistinctUserdata (w : World) : Prop :=
  ∀ r r' km km' d d', w.kubevirtMachines.lookup r = some km → w.kubevirtMachines.lookup r' = some km' →
    (machineOf r).dataSecretName = some d → (machineOf r').dataSecretName = some d' →
    userdataKey (machineOf r) d = userdataKey (machineOf r') d' → r = r'

/-- Every derived Secret in `w` is owned by the KubevirtMachine stored under
the key it derives from. -/
def UserdataOwned (w : World) : Prop :=
  ∀ req km dsn sec, w.kubevirtMachines.lookup req = some km → (machineOf req).dataSecretName = some dsn →
    w.secrets.lookup (userdataKey (machineOf req) dsn) = some sec → km.ownerRef ∈ sec.ownerReferences

/-- An event whose call, if any, resolves its KubevirtMachine's Machine as
`machineOf` does. -/
def Event.ownerAs : Event → Prop
  | .reconcile a req => ∀ m, a.ownerMachine = .ok (some m) → m = machineOf req
  | .delete _ _ | .purge _ => True

variable {machineOf}

theorem NoUserdata.userdataOwned {w : World} (h : NoUserdata machineOf w) :
    UserdataOwned machineOf w := fun req km dsn sec hk hd hs => by
  simp [h req km dsn hk hd] at hs

/-- Deleting and purging KubevirtMachines leave the Secrets alone. -/
theorem step_secrets_of_not_reconcile (w : World) {e : Event}
    (he : ∀ a req, e ≠ .reconcile a req) : (w.step e).secrets = w.secrets := by
  cases e with
  | reconcile a req => exact absurd rfl (he a req)
  | delete k t =>
    simp only [World.step]
    split
    · split <;> rfl
    · rfl
  | purge k =>
    simp only [World.step]
    split
    · split <;> rfl
    · rfl

theorem DistinctUserdata.step {w : World} (h : DistinctUserdata machineOf w) (e : Event) :
    DistinctUserdata machineOf (w.step e) := fun r r' km km' d d' hk hk' => by
  obtain ⟨_, h₀, -⟩ := step_evolves w e r hk
  obtain ⟨_, h₀', -⟩ := step_evolves w e r' hk'
  exact h r r' _ _ d d' h₀ h₀'

/-- **Step lemma**: under distinct derived keys, an event keeps every derived
Secret owned by its KubevirtMachine. A call creates only its own machine's
derived Secret, owned by that machine; a patch, a delete or a purge keeps the
owner reference a stored machine yields. -/
theorem step_userdataOwned {w : World} {e : Event} (hd : DistinctUserdata machineOf w)
    (he : e.ownerAs machineOf) (h : UserdataOwned machineOf w) :
    UserdataOwned machineOf (w.step e) := fun req km' dsn sec hk' hdsn hsec => by
  obtain ⟨km, hk, hev⟩ := step_evolves w e req hk'
  rw [hev.ownerRef]
  cases e with
  | reconcile a r =>
    have hsec : (Sys.emitAll ⟨w, []⟩ (reconcile a r w).sys.effects).world.secrets.lookup
        (userdataKey (machineOf req) dsn) = some sec := by rw [← reconcile_sys]; exact hsec
    refine secrets_lookup_emitAll_of (P := fun sec => km.ownerRef ∈ sec.ownerReferences) _ _
      (fun x hx hkey => ?_) (fun x hx => absurd hx (reconcile_not_updateSecret a r w x true))
      (fun x hx => h req km dsn x hk hdsn hx) sec hsec
    obtain ⟨km'', c, dsn', v, hk'', hm, hd', rfl⟩ := reconcile_createSecret hx
    have hc : c.machine = machineOf r := he _ hm
    rw [hc] at hd' hkey
    obtain rfl := hd r req km'' km dsn' dsn hk'' hk hd' hdsn hkey
    obtain rfl : km'' = km := Option.some.inj (hk''.symm.trans hk)
    simp [userdataSecret]
  | delete k t =>
    rw [step_secrets_of_not_reconcile w (e := .delete k t) (fun _ _ h => nomatch h)] at hsec
    exact h req km dsn sec hk hdsn hsec
  | purge k =>
    rw [step_secrets_of_not_reconcile w (e := .purge k) (fun _ _ h => nomatch h)] at hsec
    exact h req km dsn sec hk hdsn hsec

/-- **Run lemma**: from a store where the invariant holds and the stored
KubevirtMachines' Machines derive distinct keys, every run of events that
resolve Machines as `machineOf` does keeps it. -/
theorem run_userdataOwned {w : World} (hd : DistinctUserdata machineOf w)
    (h : UserdataOwned machineOf w) (evs : List Event) (hevs : ∀ e ∈ evs, e.ownerAs machineOf) :
    UserdataOwned machineOf (w.run evs) ∧ DistinctUserdata machineOf (w.run evs) := by
  induction evs generalizing w with
  | nil => exact ⟨h, hd⟩
  | cons e evs ih =>
    exact ih (hd.step e) (step_userdataOwned hd (hevs e (List.mem_cons_self _ _)) h)
      (fun e' he' => hevs e' (List.mem_cons_of_mem _ he'))

end Runs

/-- Start from a store with no derived Secret of any stored KubevirtMachine,
whose Machines derive distinct Secret keys, and run any interleaving of
events that resolve each KubevirtMachine's Machine as `machineOf` does.
Every further call that reaches the VM handle finds, under its Machine's
derived key, a Secret that carries an owner reference to the KubevirtMachine
it loaded. -/
theorem reconcile_userdata_owned (machineOf : ObjectKey → Machine) (w : World) (evs : List Event)
    (hfresh : NoUserdata machineOf w) (hdistinct : DistinctUserdata machineOf w)
    (hevs : ∀ e ∈ evs, e.ownerAs machineOf) (a : Answers) (req vm : ObjectKey)
    (ha : (Event.reconcile a req).ownerAs machineOf)
    (hvm : .newMachine vm ∈ (reconcile a req (w.run evs)).sys.effects) :
    ∃ km dsn sec, (w.run evs).kubevirtMachines.lookup req = some km ∧
      (machineOf req).dataSecretName = some dsn ∧
      (w.run evs).secrets.lookup (userdataKey (machineOf req) dsn) = some sec ∧
      km.ownerRef ∈ sec.ownerReferences := by
  obtain ⟨km, c, dsn, x, hk, hm, hd, hx⟩ := reconcile_handle hvm
  have hc : c.machine = machineOf req := ha _ hm
  rw [hc] at hd hx
  exact ⟨km, dsn, x, hk, hd, hx,
    (run_userdataOwned hdistinct hfresh.userdataOwned evs hevs).1 req km dsn x hk hd hx⟩

/-- The worker's call under settled answers. -/
def workerCall : Event := .reconcile (settledAnswers workerContext.cluster) ⟨"default", "worker-0"⟩

/-- After the worker's first call created its derived Secret, the second call
reaches the VM handle and finds the Secret owned by the worker. -/
theorem reconcile_userdata_owned_worker :
    ∃ km dsn sec, (workerWorld.run [workerCall]).kubevirtMachines.lookup ⟨"default", "worker-0"⟩ = some km ∧
      workerMachine.dataSecretName = some dsn ∧
      (workerWorld.run [workerCall]).secrets.lookup (userdataKey workerMachine dsn) = some sec ∧
      km.ownerRef ∈ sec.ownerReferences :=
  reconcile_userdata_owned (fun _ => workerMachine) workerWorld [workerCall]
    (fun _ _ dsn _ hd => by
      obtain rfl : "worker-0-bootstrap" = dsn := Option.some.inj hd
      exact (by decide : workerWorld.secrets.lookup (userdataKey workerMachine "worker-0-bootstrap") = none))
    (fun r r' _ _ _ _ hk hk' _ _ _ => by
      simp [workerWorld, Store.ofList, KubevirtMachine.key] at hk hk'
      rw [← hk.1, ← hk'.1])
    (by simp [workerCall, Event.ownerAs, settledAnswers]) (settledAnswers workerContext.cluster)
    ⟨"default", "worker-0"⟩ ⟨"default", "worker-0"⟩ (by simp [Event.ownerAs, settledAnswers]) (by decide)

/-- A second KubevirtMachine of the worker's cluster. -/
def secondKubevirtMachine : KubevirtMachine :=
  { workerKubevirtMachine with name := "worker-1", uid := "uid-1" }

/-- Its Machine, which names the worker's bootstrap data Secret too. -/
def secondMachine : Machine := { workerMachine with name := "worker-1", infrastructureRefName := "worker-1" }

/-- Both KubevirtMachines, and the generic bootstrap Secret. -/
def sharedWorld : World :=
  ⟨Store.ofList [workerKubevirtMachine, secondKubevirtMachine], Store.ofList [genericBootstrapSecret],
    fun _ => false⟩

/-- After the worker's call created `worker-0-bootstrap-userdata`, owned by the
worker alone, the second machine's call reaches the VM handle. -/
theorem reconcile_sharedDataSecretName :
    .newMachine ⟨"default", "worker-1"⟩ ∈
      (reconcile { settledAnswers workerContext.cluster with ownerMachine := .ok (some secondMachine) }
        ⟨"default", "worker-1"⟩ (sharedWorld.run [workerCall])).sys.effects ∧
    ((sharedWorld.run [workerCall]).secrets.lookup ⟨"default", "worker-0-bootstrap-userdata"⟩).map
      (·.ownerReferences) = some [workerKubevirtMachine.ownerRef] ∧
    secondKubevirtMachine.ownerRef ≠ workerKubevirtMachine.ownerRef := by
  decide

/-! ## Secrets already in the store -/

/-- The bootstrap-secret stage changes no Secret it finds: the one Secret it
may create lands on a key that held nothing. -/
theorem reconcileKubevirtBootstrapSecret_kept (fl : SecretFaults) (c : MachineContext)
    (km : KubevirtMachine) (s : Sys) {k : ObjectKey} {sec : Secret}
    (h : s.world.secrets.lookup k = some sec) :
    (reconcileKubevirtBootstrapSecret fl c km s).2.world.secrets.lookup k = some sec := by
  rcases reconcileKubevirtBootstrapSecret_cases fl c km s with
    ⟨_, _, _, _, hs⟩ | ⟨_, hs⟩ | ⟨dsn, v, _, _, hs | ⟨hl, hs⟩⟩ <;> rw [hs]
  · exact h
  · exact h
  · exact h
  · have hk : userdataKey c.machine dsn ≠ k := fun hk => by simp [hk, h] at hl
    simpa [Effect.apply, hk] using h

theorem Effect.secrets_apply_patch (site : PatchSite) (m : KubevirtMachine) (ok : Bool) (w : World) :
    (Effect.apply (.patch site m ok) w).secrets = w.secrets := by
  cases ok <;> rfl

theorem reconcileNormal_secrets_kept (a : Answers) (c : MachineContext) (km : KubevirtMachine)
    (w : World) {k : ObjectKey} {sec : Secret} (h : w.secrets.lookup k = some sec) :
    (reconcileNormal a c km ⟨w, []⟩).sys.world.secrets.lookup k = some sec := by
  have hs := reconcileKubevirtBootstrapSecret_kept a.secrets c km ⟨w, []⟩ h
  unfold reconcileNormal
  split
  · exact h
  split
  · split <;> exact h
  split
  · exact h
  split
  · exact h
  split <;> rename_i heq <;> rw [heq] at hs
  · exact hs
  · rw [provisionVM_secrets]
    exact hs

/-- A call changes no Secret that was in the store when it started. -/
theorem reconcile_secrets_kept (a : Answers) (req : ObjectKey) (w : World) {k : ObjectKey}
    {sec : Secret} (h : w.secrets.lookup k = some sec) :
    (reconcile a req w).sys.world.secrets.lookup k = some sec := by
  rcases reconcile_cases a req w with ⟨-, hr⟩ | ⟨km, c, -, -, -, -, -, -, heq⟩
  · rw [hr]
    exact h
  rw [heq, deferredPatch_eq, Sys.emit_world, Effect.secrets_apply_patch]
  rcases reconcileBranch_cases a c km ⟨w, []⟩ with
    ⟨-, hb⟩ | ⟨-, -, hb⟩ | ⟨-, -, -, hb⟩ | ⟨-, -, -, hb⟩ <;> rw [hb]
  · exact h
  · exact h
  · rw [reconcileDelete_eq]
    split <;> simp only [Sys.emit_world, Effect.secrets_apply_patch] <;> exact h
  · exact reconcileNormal_secrets_kept a c km w h

end CapkReconciler
