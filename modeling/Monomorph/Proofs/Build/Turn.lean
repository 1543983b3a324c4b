import Monomorph.Proofs.Build.Isolation
import Monomorph.Proofs.Build.Ledger

/-!
Turns and ledgers. Every turn of a source can be taken. A source whose outputs are entered in the ledger is
the only one that has them.
-/

namespace Monomorph

namespace Build

variable {c : Config} {write : Bool} {enter : Ledger → Path → Product → Except BuildError Ledger}
  {l l₁ : Ledger} {v w w₁ : Workspace} {source : Path} {o : Outcome}

/-- Such a turn can be taken. -/
theorem Turn.exists_run (h : Turn c write enter l w source o l₁ w₁) :
    ∃ v, w.run (processWith c write enter l source) = ((.ok o, l₁), v) ∧ v.Agrees w₁ := by
  have hkept := (onlyReads_prepare c source).keepsFiles w
  rw [processWith, Workspace.run_bind]
  cases h with
  | @rejected e _ prepared kept =>
    rw [prepared]
    exact ⟨_, rfl, (((onlyReads_failed source e).keepsFiles _).trans hkept).trans kept.symm⟩
  | @refused p e _ prepared refuses kept =>
    rw [prepared]
    dsimp only
    rw [refuses]
    exact ⟨_, rfl, (((onlyReads_failed source e).keepsFiles _).trans hkept).trans kept.symm⟩
  | rendered prepared enters dry kept =>
    subst dry
    rw [prepared]
    dsimp only
    rw [enters]
    exact ⟨_, rfl, hkept.trans kept.symm⟩
  | @written p _ _ _ _ prepared enters wet committed kept =>
    subst wet
    obtain ⟨answer, v', w', hrun, hrun', hagrees⟩ := exists_run_commit (c := c) hkept p.artifacts
    rw [committed] at hrun'
    cases hrun'
    rw [prepared]
    dsimp only
    rw [enters]
    dsimp only
    rw [Workspace.run_bind, Workspace.run_pure, settle, if_pos rfl, Workspace.run_bind, hrun]
    exact ⟨_, rfl, hagrees.trans kept.symm⟩
  | @unwritable p _ e _ _ prepared enters wet committed kept =>
    subst wet
    obtain ⟨answer, v', w', hrun, hrun', hagrees⟩ := exists_run_commit (c := c) hkept p.artifacts
    rw [committed] at hrun'
    cases hrun'
    rw [prepared]
    dsimp only
    rw [enters]
    dsimp only
    rw [Workspace.run_bind, Workspace.run_pure, settle, if_pos rfl, Workspace.run_bind, hrun]
    exact ⟨_, rfl, (((onlyReads_failed source e).keepsFiles _).trans hagrees).trans kept.symm⟩

end Build

/-- A ledger takes a product only if all its outputs are new, and has them from then on. -/
def Ledger.TakesNew (enter : Ledger → Path → Product → Except BuildError Ledger) : Prop :=
  ∀ l source p l', enter l source p = .ok l' →
    (∀ a ∈ p.artifacts, a.path ∉ l.paths) ∧ l'.paths = l.paths ++ p.artifacts.map (·.path)

theorem Ledger.takesNew_claim : TakesNew fun l source p => l.claim source p.artifacts := by
  intro l source p l' h
  change l.claim source p.artifacts = .ok l' at h
  rcases l.claim_cases source p.artifacts with ⟨hnew, hclaim⟩ | ⟨-, output, owner, hclaim⟩
  · rw [hclaim] at h
    cases h
    exact ⟨hnew, by simp [paths]⟩
  · rw [hclaim] at h
    cases h

theorem Ledger.takesNew_define : TakesNew Ledger.define := by
  intro l source p l' h
  rcases l.define_cases source p with ⟨-, _, h'⟩ | ⟨-, -, _, _, h'⟩ | ⟨-, hnew, _, h', -, hpaths⟩
  · rw [h] at h'
    cases h'
  · rw [h] at h'
    cases h'
  · rw [h] at h'
    cases h'
    exact ⟨hnew, hpaths⟩

namespace Build

variable {c : Config} {write : Bool} {enter : Ledger → Path → Product → Except BuildError Ledger}
  {l l₁ : Ledger} {w w₁ : Workspace} {source : Path} {sources : List Path} {o : Outcome}
  {outcomes : List Outcome}

/-- What the ledger has it keeps. -/
theorem Turn.mem_paths (henter : Ledger.TakesNew enter) (h : Turn c write enter l w source o l₁ w₁)
    {path : Path} (hpath : path ∈ l.paths) : path ∈ l₁.paths := by
  cases h with
  | rejected | refused => exact hpath
  | rendered _ enters | written _ enters | unwritable _ enters =>
    rw [(henter _ _ _ _ enters).2]
    exact List.mem_append_left _ hpath

/-- What has a product or could not be written is entered. -/
theorem Turn.mem_paths_of_enters (henter : Ledger.TakesNew enter) {p : Product}
    (enters : enter l source p = .ok l₁) {a : Artifact} (ha : a ∈ p.artifacts) : a.path ∈ l₁.paths := by
  rw [(henter _ _ _ _ enters).2]
  exact List.mem_append_right _ (List.mem_map_of_mem ha)

end Build

end Monomorph
