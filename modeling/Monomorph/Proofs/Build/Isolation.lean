import Monomorph.Proofs.Build.Run

/-!
Failures are isolated. A source that fails before its artifacts are committed leaves neither a claim nor
a file behind, so the build without it has the same outcomes for all other sources, the same fragment
and the same files.
-/

namespace Monomorph

/-- Is the error that an artifact cannot be written? -/
def BuildError.isUnwritable : BuildError → Bool
  | unwritable _ _ => true
  | _ => false

/-- Has the source failed, and not because an artifact could not be written? -/
def Outcome.failsBeforeCommit (o : Outcome) : Bool :=
  match o.result with
  | .ok _ => false
  | .error e => !e.isUnwritable

variable {o : Outcome}

theorem Outcome.not_commits_of_fails (h : o.failsBeforeCommit = true) (p : Product) : ¬ o.Commits p := by
  rintro (hok | ⟨target, fault, hwrite⟩)
  · simp [failsBeforeCommit, hok] at h
  · simp [failsBeforeCommit, hwrite, BuildError.isUnwritable] at h

theorem Outcome.function?_of_fails (h : o.failsBeforeCommit = true) : o.function? = none := by
  unfold failsBeforeCommit at h
  unfold function?
  cases hresult : o.result with
  | ok p => simp [hresult] at h
  | error e => rfl

namespace Build

variable {c : Config} {write : Bool} {enter : Ledger → Path → Product → Except BuildError Ledger}
  {l l₁ : Ledger} {w w₁ : Workspace} {sources : List Path} {outcomes : List Outcome} {i : Nat}

/-- A run without a source that failed before its commit ends in the same ledger and the same files. -/
theorem Run.eraseIdx (h : Run c write enter l w sources outcomes l₁ w₁) (ho : outcomes[i]? = some o)
    (hfail : o.failsBeforeCommit = true) :
    ∃ v₁, Run c write enter l w (sources.eraseIdx i) (outcomes.eraseIdx i) l₁ v₁ ∧ v₁.Agrees w₁ := by
  induction h generalizing i with
  | nil => cases ho
  | @cons l l' l₁ w w' w₁ source rest first later step next ih =>
    cases i with
    | zero =>
      obtain rfl : first = o := Option.some.inj ho
      obtain ⟨rfl, hagrees⟩ :=
        (fate_of_processWith step).eq_of_not_commits (Outcome.not_commits_of_fails hfail)
      exact next.congr hagrees.symm
    | succ i =>
      obtain ⟨v₁, hrun, hv₁⟩ := ih ho
      exact ⟨v₁, .cons step hrun, hv₁⟩

theorem filterMap_eraseIdx_function? (ho : outcomes[i]? = some o) (hfail : o.function? = none) :
    (outcomes.eraseIdx i).filterMap (·.function?) = outcomes.filterMap (·.function?) := by
  induction outcomes generalizing i with
  | nil => cases ho
  | cons first later ih =>
    cases i with
    | zero =>
      obtain rfl : first = o := Option.some.inj ho
      exact (List.filterMap_cons_none hfail).symm
    | succ i => rw [List.eraseIdx_cons_succ, List.filterMap_cons, List.filterMap_cons, ih ho]

theorem ignoresNotices_commitFragment (fragment : Artifact) :
    IgnoresNotices (commitFragment c write fragment) := by
  unfold commitFragment
  split
  · exact ignoresNotices_commit c _
  · exact .pure _

/-- A source that fails before its artifacts are committed, in whatever way, can be taken out of a build.
All other outcomes stay as they are, and so do the fragment of a module and the files. -/
theorem failures_are_isolated (c : Config) (write : Bool) (sources : List Path) (w : Workspace) (i : Nat) :
    (∀ outcomes w₁ o, w.run (generate c write sources) = (.ok outcomes, w₁) → outcomes[i]? = some o →
      o.failsBeforeCommit = true → ∃ v₁,
        w.run (generate c write (sources.eraseIdx i)) = (.ok (outcomes.eraseIdx i), v₁) ∧
        v₁.files = w₁.files) ∧
    ∀ asked b w₁ o, w.run (assemble c write asked sources) = (.ok (.ok b), w₁) →
      b.outcomes[i]? = some o → o.failsBeforeCommit = true → ∃ v₁,
        w.run (assemble c write asked (sources.eraseIdx i)) =
          (.ok (.ok { b with outcomes := b.outcomes.eraseIdx i }), v₁) ∧
        v₁.files = w₁.files := by
  constructor
  · intro outcomes w₁ o h ho hfail
    obtain ⟨l₁, hrun⟩ := processAll_eq_ok_iff.1 h
    obtain ⟨v₁, hrun', hagrees⟩ := hrun.eraseIdx ho hfail
    exact ⟨v₁, processAll_eq_ok_iff.2 ⟨l₁, hrun'⟩, hagrees.files⟩
  · intro asked b w₁ o h ho hfail
    obtain ⟨hname, outcomes, l₁, w', hrun, hcomplete⟩ := assemble_eq_ok_iff.1 h
    obtain ⟨rfl, written, w'', hcommit, rfl⟩ := complete_eq_ok_iff.1 hcomplete
    change outcomes[i]? = some o at ho
    obtain ⟨v', hrun', hagrees⟩ := hrun.eraseIdx ho hfail
    have hfragment : (moduleOf c (nameOf c asked) (outcomes.eraseIdx i)).fragment =
        (moduleOf c (nameOf c asked) outcomes).fragment := by
      simp only [moduleOf, filterMap_eraseIdx_function? ho (Outcome.function?_of_fails hfail)]
    have hbuild : moduleOf c (nameOf c asked) (outcomes.eraseIdx i) =
        { moduleOf c (nameOf c asked) outcomes with outcomes := outcomes.eraseIdx i } :=
      congrArg (ModuleBuild.mk _ _) hfragment
    rw [← hfragment] at hcommit
    obtain ⟨hanswer, hafter⟩ := ignoresNotices_commitFragment
      (moduleOf c (nameOf c asked) (outcomes.eraseIdx i)).fragment v' w' hagrees
    rcases hcommit' : v'.run (commitFragment c write
      (moduleOf c (nameOf c asked) (outcomes.eraseIdx i)).fragment) with ⟨answer, v''⟩
    rw [hcommit', hcommit] at hanswer hafter
    obtain rfl : answer = .ok (.ok written) := hanswer
    have hbuilt := assemble_eq_ok_iff.2 ⟨hname, _, l₁, v', hrun',
      complete_eq_ok_iff.2 ⟨rfl, written, v'', hcommit', rfl⟩⟩
    rw [hbuild] at hbuilt
    exact ⟨_, hbuilt, hafter.files⟩

/-- A source that is missing, between two that are there and claim the same outputs. -/
theorem failures_are_isolated_missing :
    ∃ (c : Config) (w : Workspace) (good missing : Path) (outcomes : List Outcome) (b : ModuleBuild)
      (w₁ w₂ v₁ v₂ : Workspace),
      w.run (generate c true [good, missing, good]) = (.ok outcomes, w₁) ∧
      outcomes.map (·.isOk) = [true, false, false] ∧
      w.run (generate c true [good, good]) = (.ok (outcomes.eraseIdx 1), v₁) ∧ v₁.files = w₁.files ∧
      w.run (assemble c true none [good, missing, good]) = (.ok (.ok b), w₂) ∧
      b.outcomes.map (·.isOk) = [true, false, false] ∧
      w.run (assemble c true none [good, good]) =
        (.ok (.ok { b with outcomes := b.outcomes.eraseIdx 1 }), v₂) ∧ v₂.files = w₂.files := by
  obtain ⟨c, hc⟩ : ∃ c : Config, c = { projectRoot := ⟨.relative, []⟩ } := ⟨_, rfl⟩
  obtain ⟨good, hgood⟩ : ∃ good : Path, good = ⟨.relative, ["a.cpp"]⟩ := ⟨_, rfl⟩
  obtain ⟨missing, hmissing⟩ : ∃ missing : Path, missing = ⟨.relative, ["b.cpp"]⟩ := ⟨_, rfl⟩
  obtain ⟨w, hw⟩ : ∃ w : Workspace, w = { here := [], files := ⟨[(["a.cpp"], .file (Text.Utf8.encode
      "npe_function(f)npe_arg(x, csr_f64)npe_begin_code()return x;"))]⟩ } := ⟨_, rfl⟩
  have hruns : (w.run (generate c true [good, missing, good])).1.toOption.map (fun os =>
        (os.map (·.isOk), os[1]?.map (·.failsBeforeCommit))) = some ([true, false, false], some true) ∧
      ((w.run (assemble c true none [good, missing, good])).1.toOption.bind (·.toOption)).map (fun b =>
        (b.outcomes.map (·.isOk), b.outcomes[1]?.map (·.failsBeforeCommit))) =
      some ([true, false, false], some true) := by
    rw [hw, hc, hgood, hmissing]
    decide +kernel
  obtain ⟨hgenerate, hassemble⟩ := hruns
  obtain ⟨hfirst, hsecond⟩ := failures_are_isolated c true [good, missing, good] w 1
  rcases hall : w.run (generate c true [good, missing, good]) with ⟨fault | outcomes, w₁⟩
  · simp [hall, Except.toOption] at hgenerate
  rcases hmodule : w.run (assemble c true none [good, missing, good]) with ⟨fault | (e | b), w₂⟩
  · simp [hmodule, Except.toOption] at hassemble
  · simp [hmodule, Except.toOption] at hassemble
  rw [hall] at hgenerate
  rw [hmodule] at hassemble
  obtain ⟨hok, hsource⟩ := Prod.mk.inj (Option.some.inj hgenerate)
  obtain ⟨hok', hsource'⟩ := Prod.mk.inj (Option.some.inj hassemble)
  obtain ⟨o, ho, hfail⟩ := Option.map_eq_some_iff.1 hsource
  obtain ⟨o', ho', hfail'⟩ := Option.map_eq_some_iff.1 hsource'
  obtain ⟨v₁, hrun, hfiles⟩ := hfirst outcomes w₁ o hall ho hfail
  obtain ⟨v₂, hrun', hfiles'⟩ := hsecond none b w₂ o' hmodule ho' hfail'
  exact ⟨c, w, good, missing, outcomes, b, w₁, w₂, v₁, v₂, hall, hok, hrun, hfiles, hmodule, hok', hrun',
    hfiles'⟩

end Build

end Monomorph
