import CapkReconciler.Finalizer

/-!
# The requests a call sends, in order

Each stage of `Reconcile` sends its API requests straight down the source,
and no stage loops or runs twice in one call. So every call sends at most one
request of each kind the source writes, in the order the source writes them.
The one kind sent twice is the create of the derived Secret: the nested
`CreateOrUpdate` of lines 430–453 creates it, then creates it again.

- `reconcile_sys_shape`, `reconcileNormal_sys`: what a call, and its normal
  path, can leave behind, stage by stage; invariants of a call's effects are
  proved over these shapes.
- `Issues L s s'`: `s'` is `s` after requests whose kinds form a sublist of
  `L`. It composes by `++` (`Issues.trans`), and each stage gets one lemma
  (`*_issues`).
- `reconcile_requests`: every call sends a sublist of the normal sequence (the
  two Secret creates, the VM handle, the VM create, the patch before
  bootstrapping, the provider ID, the deferred patch) or of the delete
  sequence (the `Deleting` patch, the deferred patch).
-/

namespace CapkReconciler

/-- The kind of an API request: what an effect asks of the API server or of
the VM handle, whatever the object and the answer. -/
inductive Request
  | patch (site : PatchSite)
  | createSecret
  | updateSecret
  | newMachine
  | createVM
  | setProviderID
deriving DecidableEq, Repr

/-- The kind of request an effect is. -/
def Effect.request : Effect → Request
  | .patch site _ _ => .patch site
  | .createSecret _ _ => .createSecret
  | .updateSecret _ _ => .updateSecret
  | .newMachine _ => .newMachine
  | .createVM _ _ => .createVM
  | .setProviderID _ => .setProviderID

/-- `s'` is `s` after requests whose kinds, in order, form a sublist of `L`. -/
def Issues (L : List Request) (s s' : Sys) : Prop :=
  ∃ es, s' = s.emitAll es ∧ (es.map Effect.request).Sublist L

namespace Issues

variable {L L' : List Request} {s s' s'' : Sys}

theorem refl (L : List Request) (s : Sys) : Issues L s s := ⟨[], rfl, List.nil_sublist L⟩

theorem emit (e : Effect) : Issues [e.request] s (s.emit e) := ⟨[e], rfl, List.Sublist.refl _⟩

theorem mono (h : Issues L s s') (hL : L.Sublist L') : Issues L' s s' := by
  obtain ⟨es, rfl, hes⟩ := h
  exact ⟨es, rfl, hes.trans hL⟩

theorem trans (h : Issues L s s') (h' : Issues L' s' s'') : Issues (L ++ L') s s'' := by
  obtain ⟨es, rfl, hes⟩ := h
  obtain ⟨fs, rfl, hfs⟩ := h'
  exact ⟨es ++ fs, (Sys.emitAll_append _ _ _).symm, by simpa using hes.append hfs⟩

/-- One request whose kind is in `L`. -/
theorem emit_mem (e : Effect) (h : e.request ∈ L) : Issues L s (s.emit e) :=
  (emit e).mono (List.singleton_sublist.mpr h)

end Issues

/-! ## The shape of a call -/

/-- `reconcileNormal` leaves its system as it was, as the bootstrap-secret stage
left it, or as `provisionVM` left it after that stage. -/
theorem reconcileNormal_sys (a : Answers) (c : MachineContext) (km : KubevirtMachine) (s : Sys) :
    (reconcileNormal a c km s).sys = s ∨
      (reconcileNormal a c km s).sys = (reconcileKubevirtBootstrapSecret a.secrets c km s).2 ∨
      ∃ keys, (reconcileNormal a c km s).sys =
        (provisionVM a c km keys (reconcileKubevirtBootstrapSecret a.secrets c km s).2).sys := by
  unfold reconcileNormal
  split
  · exact .inl rfl
  split
  · split <;> exact .inl rfl
  split
  · exact .inl rfl
  split
  · exact .inl rfl
  split <;> rename_i heq <;> rw [heq]
  · exact .inr (.inl rfl)
  · exact .inr (.inr ⟨_, rfl⟩)

/-- What a call issues: nothing, or what its branch issues and then the
deferred patch. The branch issues nothing, the one `Deleting` patch, or what
`reconcileNormal` issues. -/
theorem reconcile_sys_shape (a : Answers) (req : ObjectKey) (w : World) :
    (reconcile a req w).sys = ⟨w, []⟩ ∨
      ∃ m ok s, (reconcile a req w).sys = s.emit (.patch .reconcile m ok) ∧
        (s = ⟨w, []⟩ ∨ (∃ m' ok', s = (⟨w, []⟩ : Sys).emit (.patch .reconcileDelete m' ok')) ∨
          ∃ c km, s = (reconcileNormal a c km ⟨w, []⟩).sys) := by
  rcases reconcile_cases a req w with ⟨-, h⟩ | ⟨km, c, -, -, -, -, -, -, h⟩
  · exact .inl h
  rw [h, deferredPatch_eq]
  refine .inr ⟨_, _, _, rfl, ?_⟩
  rcases reconcileBranch_cases a c km ⟨w, []⟩ with ⟨-, hb⟩ | ⟨-, -, hb⟩ | ⟨-, -, -, hb⟩ | ⟨-, -, -, hb⟩ <;>
    rw [hb]
  · exact .inl rfl
  · exact .inl rfl
  · rw [reconcileDelete_eq]
    split
    · exact .inl rfl
    · exact .inr (.inl ⟨_, _, rfl⟩)
    · exact .inr (.inl ⟨_, _, rfl⟩)
  · exact .inr (.inr ⟨c, km, rfl⟩)

/-! ## The stages -/

section Stages

variable (a : Answers) (c : MachineContext)

theorem patchNodeProviderID_issues (km : KubevirtMachine) (s : Sys) :
    Issues [.setProviderID] s (patchNodeProviderID a c km s).sys := by
  unfold patchNodeProviderID
  split
  · exact .refl _ s
  · split <;> exact .emit _

theorem waitForBootstrap_issues (km : KubevirtMachine) (exec : VMCommandExecutor) (s : Sys) :
    Issues [.setProviderID] s (waitForBootstrap a c km exec s).sys := by
  unfold waitForBootstrap
  split
  · exact .refl _ s
  · exact patchNodeProviderID_issues a c _ s

/-- The patch before bootstrapping (lines 247–252), then the provider ID. -/
theorem markProvisioned_issues (km : KubevirtMachine) (exec : VMCommandExecutor) (s : Sys) :
    Issues [.patch .reconcileNormal, .setProviderID] s (markProvisioned a c km exec s).sys := by
  unfold markProvisioned
  split
  · exact .refl _ s
  dsimp only
  split
  · rw [patchKubevirtMachine_eq]
    cases a.patch .reconcileNormal with
    | some e => exact .emit_mem _ (by simp [Effect.request])
    | none => exact (Issues.emit _).trans (waitForBootstrap_issues a c _ exec _)
  · exact (waitForBootstrap_issues a c _ exec s).mono (by decide)

theorem ensureVM_issues (km : KubevirtMachine) (s : Sys) : Issues [.createVM] s (ensureVM a km s).2 := by
  unfold ensureVM
  split
  · exact .refl _ s
  · rw [createVM_eq]
    exact .emit _

/-- The VM handle, the create of lines 215–220, then `markProvisioned`. -/
theorem provisionVM_issues (km : KubevirtMachine) (keys : SshKeys) (s : Sys) :
    Issues [.newMachine, .createVM, .patch .reconcileNormal, .setProviderID] s
      (provisionVM a c km keys s).sys := by
  have h₁ : Issues [.newMachine] s (s.emit (.newMachine km.key)) := .emit _
  unfold provisionVM
  dsimp only
  split
  · exact h₁.mono (by decide)
  have h₂ := h₁.trans (ensureVM_issues a km (s.emit (.newMachine km.key)))
  split
  · rename_i heq
    rw [heq] at h₂
    exact h₂.mono (by decide)
  · rename_i heq
    rw [heq] at h₂
    split
    · exact h₂.mono (by decide)
    · exact h₂.trans (markProvisioned_issues a c km _ _)

/-- The bootstrap-secret stage sends at most the two creates of the derived
Secret. -/
theorem reconcileKubevirtBootstrapSecret_issues (km : KubevirtMachine) (s : Sys) :
    Issues [.createSecret, .createSecret] s (reconcileKubevirtBootstrapSecret a.secrets c km s).2 := by
  rcases reconcileKubevirtBootstrapSecret_cases a.secrets c km s with
    ⟨_, _, _, _, h⟩ | ⟨_, h⟩ | ⟨_, _, _, _, h | ⟨-, h⟩⟩ <;> rw [h]
  · exact .refl _ s
  · exact .refl _ s
  · exact .emit_mem _ (by simp [Effect.request])
  · exact (Issues.emit _).trans (.emit _)

/-- The requests of the normal path, in the order of the source. -/
def normalRequests : List Request :=
  [.createSecret, .createSecret, .newMachine, .createVM, .patch .reconcileNormal, .setProviderID]

theorem reconcileNormal_issues (km : KubevirtMachine) (s : Sys) :
    Issues normalRequests s (reconcileNormal a c km s).sys := by
  have hsecret := reconcileKubevirtBootstrapSecret_issues a c km s
  rcases reconcileNormal_sys a c km s with h | h | ⟨keys, h⟩ <;> rw [h]
  · exact .refl _ s
  · exact hsecret.mono (by decide)
  · exact hsecret.trans (provisionVM_issues a c km keys _)

end Stages

end CapkReconciler
