import Monomorph.Proofs.Build.Notices

/-!
Builds as runs over their sources. A source is rejected before it has all its artifacts, or refused by
the ledger, and then the ledger and the files stay as they are; or it is entered, and then its artifacts
are committed. Only a commit touches the files; what is done before it reads, and the notices do not matter.
What a build does to a list of sources is a run of such turns.
-/

namespace Monomorph

/-- The outcome of a source whose product has been entered: it is there, or it could not be written. -/
def Outcome.Commits (o : Outcome) (p : Product) : Prop :=
  o.result = .ok p ∨ ∃ target fault, o.result = .error (.unwritable target fault)

namespace Build

variable {c : Config} {write : Bool} {enter : Ledger → Path → Product → Except BuildError Ledger}
  {l l₁ l₂ : Ledger} {v w w₁ w₂ : Workspace} {source : Path} {sources rest : List Path} {o : Outcome}
  {outcomes : List Outcome}

/-- What becomes of a source when its turn comes, with the ledger and the workspace after it. -/
inductive Turn (c : Config) (write : Bool) (enter : Ledger → Path → Product → Except BuildError Ledger)
    (l : Ledger) (w : Workspace) (source : Path) : Outcome → Ledger → Workspace → Prop
  | rejected {e : BuildError} {w' : Workspace} (prepared : (w.run (prepare c source)).1 = .ok (.error e))
    (kept : w'.Agrees w) : Turn c write enter l w source ⟨source, .error e, []⟩ l w'
  | refused {p : Product} {e : BuildError} {w' : Workspace}
    (prepared : (w.run (prepare c source)).1 = .ok (.ok p)) (refuses : enter l source p = .error e)
    (kept : w'.Agrees w) : Turn c write enter l w source ⟨source, .error e, []⟩ l w'
  | rendered {p : Product} {l' : Ledger} {w' : Workspace}
    (prepared : (w.run (prepare c source)).1 = .ok (.ok p)) (enters : enter l source p = .ok l')
    (dry : write = false) (kept : w'.Agrees w) : Turn c write enter l w source ⟨source, .ok p, []⟩ l' w'
  | written {p : Product} {l' : Ledger} {written : List Path} {v w' : Workspace}
    (prepared : (w.run (prepare c source)).1 = .ok (.ok p)) (enters : enter l source p = .ok l')
    (wet : write = true) (committed : w.run (commit c p.artifacts) = (.ok (.ok written), v))
    (kept : w'.Agrees v) : Turn c write enter l w source ⟨source, .ok p, written⟩ l' w'
  | unwritable {p : Product} {l' : Ledger} {e : BuildError} {v w' : Workspace}
    (prepared : (w.run (prepare c source)).1 = .ok (.ok p)) (enters : enter l source p = .ok l')
    (wet : write = true) (committed : w.run (commit c p.artifacts) = (.ok (.error e), v))
    (kept : w'.Agrees v) : Turn c write enter l w source ⟨source, .error e, []⟩ l' w'

/-- A commit does the same after a source has been prepared. -/
theorem exists_run_commit (hagrees : v.Agrees w) (artifacts : List Artifact) :
    ∃ answer v' w', v.run (commit c artifacts) = (answer, v') ∧ w.run (commit c artifacts) = (answer, w') ∧
      v'.Agrees w' := by
  obtain ⟨hanswer, hafter⟩ := ignoresNotices_commit c artifacts v w hagrees
  rcases hv : v.run (commit c artifacts) with ⟨answer, v'⟩
  rcases hw : w.run (commit c artifacts) with ⟨answer', w'⟩
  rw [hv, hw] at hanswer hafter
  obtain rfl : answer = answer' := hanswer
  exact ⟨answer, v', w', rfl, rfl, hafter⟩

/-- Building a source is such a turn. -/
theorem turn_of_processWith (h : w.run (processWith c write enter l source) = ((.ok o, l₁), w₁)) :
    Turn c write enter l w source o l₁ w₁ := by
  have hkept := (onlyReads_prepare c source).keepsFiles w
  rw [processWith, Workspace.run_bind] at h
  cases hprepare : (w.run (prepare c source)).1 with
  | error fault => rw [hprepare] at h; cases h
  | ok answer =>
    rw [hprepare] at h
    cases answer with
    | error e =>
      cases h
      exact .rejected hprepare (((onlyReads_failed source e).keepsFiles _).trans hkept)
    | ok p =>
      dsimp only at h
      cases henter : enter l source p with
      | error e =>
        rw [henter] at h
        cases h
        exact .refused hprepare henter (((onlyReads_failed source e).keepsFiles _).trans hkept)
      | ok l' =>
        rw [henter] at h
        dsimp only at h
        rw [Workspace.run_bind, Workspace.run_pure, settle] at h
        cases write with
        | false =>
          cases h
          exact .rendered hprepare henter rfl hkept
        | true =>
          obtain ⟨answer, v', w', hrun, hrun', hagrees⟩ := exists_run_commit (c := c) hkept p.artifacts
          rw [if_pos rfl, Workspace.run_bind, hrun] at h
          rcases answer with fault | (e | written)
          · cases h
          · cases h
            exact .unwritable hprepare henter rfl hrun'
              (((onlyReads_failed source e).keepsFiles _).trans hagrees)
          · cases h
            exact .written hprepare henter rfl hrun' hagrees

/-- What can become of a source, with the ledger and the workspace after it. -/
inductive Fate (c : Config) (enter : Ledger → Path → Product → Except BuildError Ledger) (l : Ledger)
    (w : Workspace) (source : Path) : Outcome → Ledger → Workspace → Prop
  | rejected {e : BuildError} {w' : Workspace} (prepared : (w.run (prepare c source)).1 = .ok (.error e))
    (kept : w'.Agrees w) : Fate c enter l w source ⟨source, .error e, []⟩ l w'
  | refused {p : Product} {e : BuildError} {w' : Workspace}
    (prepared : (w.run (prepare c source)).1 = .ok (.ok p)) (refuses : enter l source p = .error e)
    (kept : w'.Agrees w) : Fate c enter l w source ⟨source, .error e, []⟩ l w'
  | entered {p : Product} {o : Outcome} {l' : Ledger} {w' : Workspace}
    (prepared : (w.run (prepare c source)).1 = .ok (.ok p)) (enters : enter l source p = .ok l')
    (same : o.source = source) (commits : o.Commits p) : Fate c enter l w source o l' w'

/-- Committing fails in one way only: an artifact cannot be written. -/
theorem unwritable_of_commit {artifacts : List Artifact} {e : BuildError}
    (h : (w.run (commit c artifacts)).1 = .ok (.error e)) : ∃ target fault, e = .unwritable target fault := by
  rw [commit, Workspace.run_bind] at h
  split at h
  · cases h
  · next staged target fault _ _ =>
    rw [Workspace.run_bind, Workspace.run_pure] at h
    generalize (Workspace.run _ (discard staged)).1 = discarded at h
    cases discarded with
    | error _ => cases h
    | ok _ => exact ⟨target, fault, (Except.error.inj (Except.ok.inj h)).symm⟩
  · next staged _ =>
    rw [Workspace.run_bind, Workspace.run_pure] at h
    generalize (Workspace.run _ (publish staged)).1 = published at h
    cases published <;> cases h

/-- Building a source has one of three fates. -/
theorem fate_of_processWith (h : w.run (processWith c write enter l source) = ((.ok o, l₁), w₁)) :
    Fate c enter l w source o l₁ w₁ := by
  cases turn_of_processWith h with
  | rejected prepared kept => exact .rejected prepared kept
  | refused prepared refuses kept => exact .refused prepared refuses kept
  | rendered prepared enters => exact .entered prepared enters rfl (.inl rfl)
  | written prepared enters => exact .entered prepared enters rfl (.inl rfl)
  | unwritable prepared enters _ committed =>
    obtain ⟨target, fault, rfl⟩ := unwritable_of_commit (congrArg Prod.fst committed)
    exact .entered prepared enters rfl (.inr ⟨target, fault, rfl⟩)

/-- A source that fails otherwise than in writing leaves no trace. -/
theorem Fate.eq_of_not_commits (h : Fate c enter l w source o l₁ w₁) (hfail : ∀ p, ¬ o.Commits p) :
    l₁ = l ∧ w₁.Agrees w := by
  cases h with
  | rejected _ kept => exact ⟨rfl, kept⟩
  | refused _ _ kept => exact ⟨rfl, kept⟩
  | entered _ _ _ commits => exact absurd commits (hfail _)

/-! ### Runs -/

/-- A run over some sources, with their outcomes, the ledger and the workspace after it. -/
inductive Run (c : Config) (write : Bool)
    (enter : Ledger → Path → Product → Except BuildError Ledger) :
    Ledger → Workspace → List Path → List Outcome → Ledger → Workspace → Prop
  | nil {l : Ledger} {w : Workspace} : Run c write enter l w [] [] l w
  | cons {l l₁ l₂ : Ledger} {w w₁ w₂ : Workspace} {source : Path} {rest : List Path} {o : Outcome}
    {outcomes : List Outcome}
    (step : w.run (processWith c write enter l source) = ((.ok o, l₁), w₁))
    (next : Run c write enter l₁ w₁ rest outcomes l₂ w₂) :
    Run c write enter l w (source :: rest) (o :: outcomes) l₂ w₂

/-- A build answers outcomes exactly if there is a run to them. -/
theorem processAll_eq_ok_iff : w.run (processAll c write enter l sources) = (.ok outcomes, w₁) ↔
    ∃ l₁, Run c write enter l w sources outcomes l₁ w₁ := by
  induction sources generalizing l w outcomes with
  | nil =>
    rw [processAll, Workspace.run_pure]
    constructor
    · intro h
      cases h
      exact ⟨l, .nil⟩
    · rintro ⟨_, ⟨⟩⟩
      rfl
  | cons source rest ih =>
    rw [processAll, Workspace.run_bind]
    constructor
    · intro h
      rcases hstep : w.run (processWith c write enter l source) with ⟨⟨answer, l'⟩, w'⟩
      rw [hstep] at h
      cases answer with
      | error fault => cases h
      | ok o =>
        dsimp only at h
        rw [Workspace.run_bind, Workspace.run_pure] at h
        rcases hrest : w'.run (processAll c write enter l' rest) with ⟨answer, w''⟩
        rw [hrest] at h
        cases answer with
        | error fault => cases h
        | ok later =>
          cases h
          obtain ⟨l'', hrun⟩ := ih.1 hrest
          exact ⟨l'', .cons hstep hrun⟩
    · rintro ⟨l₁, h⟩
      cases h with
      | cons step next =>
        rw [step]
        dsimp only
        rw [Workspace.run_bind, ih.2 ⟨_, next⟩, Workspace.run_pure]
        rfl

/-- The run can be repeated with other notices. -/
theorem Run.congr (h : Run c write enter l w sources outcomes l₁ w₁) (hagrees : v.Agrees w) :
    ∃ v₁, Run c write enter l v sources outcomes l₁ v₁ ∧ v₁.Agrees w₁ := by
  induction h generalizing v with
  | nil => exact ⟨v, .nil, hagrees⟩
  | @cons l l₁ _ w _ _ source _ o _ step _ ih =>
    obtain ⟨hanswer, hafter⟩ := ignoresNotices_processWith l source v w hagrees
    rcases hstep : v.run (processWith c write enter l source) with ⟨answer, v'⟩
    rw [hstep, step] at hanswer hafter
    obtain rfl : answer = (.ok o, l₁) := hanswer
    obtain ⟨v₁, hrun, hv₁⟩ := ih hafter
    exact ⟨v₁, .cons hstep hrun, hv₁⟩

/-! ### Modules -/

/-- Writing the fragment of a module, unless nothing is to be written. -/
def commitFragment (c : Config) (write : Bool) (fragment : Artifact) :
    StateM Workspace (Except FileFault (Except BuildError (List Path))) :=
  if write then commit c [fragment] else pure (.ok (.ok []))

/-- The end of a module's build: its fragment is written, and the module is noted. -/
def complete (c : Config) (write : Bool) (b : ModuleBuild) :
    StateM Workspace (Except FileFault (Except BuildError ModuleBuild)) := do
  match ← commitFragment c write b.fragment with
  | .error fault => return .error fault
  | .ok (.error e) => return .ok (.error e)
  | .ok (.ok _) =>
    Files.note (.built b.name b.functions.length b.failures.length)
    return .ok (.ok b)

/-- The module of some outcomes. -/
def moduleOf (c : Config) (name : String) (outcomes : List Outcome) : ModuleBuild :=
  ⟨name, outcomes, .moduleFragment c name (outcomes.filterMap (·.function?))⟩

/-- A module with a name is built from the outcomes of its sources. -/
theorem assemble_eq {asked : Option String} (h : Text.isIdentifier (nameOf c asked) = true) :
    (assemble c write asked sources : StateM Workspace _) =
      processAll c write Ledger.define {} sources >>= fun
        | .error fault => pure (.error fault)
        | .ok outcomes => complete c write (moduleOf c (nameOf c asked) outcomes) := by
  unfold assemble
  dsimp only
  rw [h, Bool.not_true, if_neg Bool.false_ne_true]
  congr
  funext answer
  cases answer with
  | error fault => rfl
  | ok outcomes => cases write <;> rfl

theorem complete_eq_ok_iff {b b' : ModuleBuild} : w.run (complete c write b) = (.ok (.ok b'), w₁) ↔
    b' = b ∧ ∃ written w', w.run (commitFragment c write b.fragment) = (.ok (.ok written), w') ∧
      w₁ = (w'.run (Files.note (.built b.name b.functions.length b.failures.length))).2 := by
  rw [complete, Workspace.run_bind]
  rcases w.run (commitFragment c write b.fragment) with ⟨fault | (e | written), w'⟩
  · simp [Workspace.run_pure]
  · simp [Workspace.run_pure]
  · constructor
    · intro h
      cases h
      exact ⟨rfl, written, w', rfl, rfl⟩
    · rintro ⟨rfl, written', v', heq, rfl⟩
      cases heq
      rfl

/-- A module is built if it has a name, there is a run over its sources, and its fragment can be
written after that. -/
theorem assemble_eq_ok_iff {asked : Option String} {b : ModuleBuild} :
    w.run (assemble c write asked sources) = (.ok (.ok b), w₂) ↔
      Text.isIdentifier (nameOf c asked) = true ∧ ∃ outcomes l₁ w₁,
        Run c write Ledger.define {} w sources outcomes l₁ w₁ ∧
        w₁.run (complete c write (moduleOf c (nameOf c asked) outcomes)) = (.ok (.ok b), w₂) := by
  by_cases hname : Text.isIdentifier (nameOf c asked) = true
  · rw [assemble_eq hname, Workspace.run_bind]
    constructor
    · intro h
      rcases hall : w.run (processAll c write Ledger.define {} sources) with ⟨fault | outcomes, w₁⟩
      · rw [hall] at h
        cases h
      · rw [hall] at h
        obtain ⟨l₁, hrun⟩ := processAll_eq_ok_iff.1 hall
        exact ⟨hname, outcomes, l₁, w₁, hrun, h⟩
    · rintro ⟨-, outcomes, l₁, w₁, hrun, hcomplete⟩
      rw [processAll_eq_ok_iff.2 ⟨l₁, hrun⟩]
      exact hcomplete
  · unfold assemble
    dsimp only
    rw [if_pos (by simpa using hname)]
    constructor
    · intro h
      cases h
    · rintro ⟨hother, -⟩
      exact absurd hother hname

end Build

end Monomorph
