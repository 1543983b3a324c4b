import Monomorph.Proofs.Build.Frame
import Monomorph.Proofs.Build.Module

/-!
What builds leave alone. The frames of the commits of a build come together to one frame of the whole
build, because no two of its sources have an output in common. A source that fails before its commit adds
nothing to it.
-/

namespace Monomorph.Build

open FileSystem

variable {c : Config} {write : Bool} {enter : Ledger → Path → Product → Except BuildError Ledger}
  {l l₁ : Ledger} {w w₁ : Workspace} {source : Path} {sources rest : List Path} {o : Outcome}
  {outcomes : List Outcome} {p : Product} {i : Nat} {a : Artifact}

/-- The artifact of a source that some outcomes say was written. -/
def Written (outcomes : List Outcome) (a : Artifact) : Prop :=
  ∃ o ∈ outcomes, a ∈ o.artifacts ∧ a.path ∈ o.written

/-- The source has come to its commit with this artifact. -/
def Attempts (c : Config) (write : Bool) (w : Workspace) (source : Path) (o : Outcome) (a : Artifact) : Prop :=
  write = true ∧ ∃ p, (w.run (prepare c source)).1 = .ok (.ok p) ∧ o.Commits p ∧ a ∈ p.artifacts

/-- Some source has come to its commit with this artifact. -/
def Attempted (c : Config) (write : Bool) (enter : Ledger → Path → Product → Except BuildError Ledger)
    (l : Ledger) (w : Workspace) (sources : List Path) (outcomes : List Outcome) (a : Artifact) : Prop :=
  write = true ∧ ∃ (i : Nat) (o : Outcome) (p : Product), outcomes[i]? = some o ∧
    preparedAt? c write enter l w sources i = some p ∧ o.Commits p ∧ a ∈ p.artifacts

theorem written_cons : Written (o :: outcomes) a ↔
    (a ∈ o.artifacts ∧ a.path ∈ o.written) ∨ Written outcomes a := by
  simp [Written]

theorem attempted_cons (step : w.run (processWith c write enter l source) = ((.ok o, l₁), w₁)) :
    Attempted c write enter l w (source :: rest) (o :: outcomes) a ↔
      Attempts c write w source o a ∨ Attempted c write enter l₁ w₁ rest outcomes a := by
  constructor
  · rintro ⟨hwrite, i | i, o', p, ho, hp, hcommits, ha⟩
    · obtain rfl : o = o' := Option.some.inj ho
      exact .inl ⟨hwrite, p, preparedAt?_zero.1 hp, hcommits, ha⟩
    · rw [preparedAt?_succ step] at hp
      exact .inr ⟨hwrite, i, o', p, ho, hp, hcommits, ha⟩
  · rintro (⟨hwrite, p, hp, hcommits, ha⟩ | ⟨hwrite, i, o', p, ho, hp, hcommits, ha⟩)
    · exact ⟨hwrite, 0, o, p, rfl, preparedAt?_zero.2 hp, hcommits, ha⟩
    · exact ⟨hwrite, i + 1, o', p, ho, (preparedAt?_succ step).trans hp, hcommits, ha⟩

/-! ### One source -/

/-- What is written belongs to the product, and is entered in the ledger. -/
theorem Turn.written_entered (h : Turn c write enter l w source o l₁ w₁) (henter : Ledger.TakesNew enter)
    (hproper : source.IsProper) : ∀ path ∈ o.written,
      path ∉ l.paths ∧ path ∈ l₁.paths ∧ ∃ a ∈ o.artifacts, a.path = path := by
  cases h with
  | rejected | refused | rendered | unwritable => simp
  | written prepared enters wet committed kept =>
    intro path hpath
    obtain ⟨hrendered, hpaths⟩ := isRendered_of_prepare hproper prepared
    have hs := siblings_of_rendered hrendered hpaths
    cases committed_of_commit (fun a ha => hs.parent ha) committed with
    | published _ stages _ moved =>
      rw [paths_of_publish moved] at hpath
      obtain ⟨a, ha, rfl⟩ := List.mem_map.1 hpath
      have hmem := stages.sublist.subset ha
      exact ⟨(henter _ _ _ _ enters).1 a hmem, Turn.mem_paths_of_enters henter enters hmem, a, hmem, rfl⟩

/-- The frame of one source. -/
theorem Turn.frame (h : Turn c write enter l w source o l₁ w₁) (hproper : source.IsProper)
    (htree : IsTree w.files) (hhere : w.files.node? w.here = some .directory) :
    w₁.here = w.here ∧ Frame c w.here w.files w₁.files (fun a => a ∈ o.artifacts ∧ a.path ∈ o.written)
      (Attempts c write w source o) := by
  have hattempts : ∀ a, Attempts c write w source o a → a.IsRendered c := by
    rintro a ⟨-, p, hp, -, ha⟩
    exact (isRendered_of_prepare hproper hp).1 a ha
  have hidle : ∀ {w' : Workspace}, w'.Agrees w → o.written = [] → w'.here = w.here ∧ Frame c w.here w.files w'.files
      (fun a => a ∈ o.artifacts ∧ a.path ∈ o.written) (Attempts c write w source o) := by
    intro w' hkept hnothing
    rw [hkept.files, hnothing]
    exact ⟨hkept.here, ((Frame.refl c w.here w.files).congr (by simp) fun _ => Iff.rfl).attempt
      (fun _ h => h.elim) hattempts⟩
  cases h with
  | rejected _ kept => exact hidle kept rfl
  | refused _ _ kept => exact hidle kept rfl
  | rendered _ _ _ kept => exact hidle kept rfl
  | @written p _ written _ _ prepared enters wet committed kept =>
    obtain ⟨hrendered, hpaths⟩ := isRendered_of_prepare hproper prepared
    obtain ⟨hhere', hframe⟩ := frame_of_commit hrendered hpaths htree hhere committed
    rw [kept.files]
    refine ⟨kept.here.trans hhere', (hframe.congr (fun a => ?_) fun _ => Iff.rfl).attempt ?_ hattempts⟩
    · simp [Outcome.artifacts]
    · exact fun a ha => ⟨wet, p, prepared, .inl rfl, ha⟩
  | @unwritable p _ e _ _ prepared enters wet committed kept =>
    obtain ⟨hrendered, hpaths⟩ := isRendered_of_prepare hproper prepared
    obtain ⟨hhere', hframe⟩ := frame_of_commit hrendered hpaths htree hhere committed
    obtain ⟨target, fault, rfl⟩ := unwritable_of_commit (congrArg Prod.fst committed)
    rw [kept.files]
    refine ⟨kept.here.trans hhere', (hframe.congr (fun a => ?_) fun _ => Iff.rfl).attempt ?_ hattempts⟩
    · simp
    · exact fun a ha => ⟨wet, p, prepared, .inr ⟨target, fault, rfl⟩, ha⟩

/-! ### Runs -/

/-- What a run writes is not in the ledger before, and belongs to the product of its source. -/
theorem Run.written_entered (h : Run c write enter l w sources outcomes l₁ w₁)
    (henter : Ledger.TakesNew enter) (hproper : ∀ s ∈ sources, s.IsProper) :
    ∀ o ∈ outcomes, ∀ path ∈ o.written, path ∉ l.paths ∧ ∃ a ∈ o.artifacts, a.path = path := by
  induction h with
  | nil => simp
  | @cons l l' _ w w' _ source rest o later step _ ih =>
    obtain ⟨hfirst, hrest⟩ := List.forall_mem_cons.1 hproper
    have hturn := turn_of_processWith step
    refine List.forall_mem_cons.2 ⟨fun path hpath => ?_, fun o ho path hpath => ?_⟩
    · obtain ⟨hnew, -, hmem⟩ := hturn.written_entered henter hfirst path hpath
      exact ⟨hnew, hmem⟩
    · obtain ⟨hnew, hmem⟩ := ih hrest o ho path hpath
      exact ⟨fun hold => hnew (hturn.mem_paths henter hold), hmem⟩

/-- The frame of a run. -/
theorem Run.frame (h : Run c write enter l w sources outcomes l₁ w₁) (henter : Ledger.TakesNew enter)
    (hproper : ∀ s ∈ sources, s.IsProper) (htree : IsTree w.files)
    (hhere : w.files.node? w.here = some .directory) :
    w₁.here = w.here ∧ Frame c w.here w.files w₁.files (Written outcomes)
      (Attempted c write enter l w sources outcomes) := by
  induction h with
  | @nil l w =>
    refine ⟨rfl, (Frame.refl c w.here w.files).congr (by simp [Written]) fun a => ?_⟩
    simp [Attempted]
  | @cons l l' _ w w' _ source rest o later step next ih =>
    obtain ⟨hfirst, hrest⟩ := List.forall_mem_cons.1 hproper
    have hturn := turn_of_processWith step
    obtain ⟨hhere', hframe⟩ := hturn.frame hfirst htree hhere
    obtain ⟨hhere'', hframe'⟩ := ih hrest (hframe.reached.isTree htree) (hframe.directory hhere' hhere)
    rw [hhere'] at hframe'
    refine ⟨hhere''.trans hhere', (hframe.append hframe' ?_).congr (fun _ => written_cons)
      fun _ => attempted_cons step⟩
    rintro a b ⟨-, ha⟩ ⟨o', ho', -, hb⟩ heq
    obtain ⟨-, hentered, -⟩ := hturn.written_entered henter hfirst _ ha
    exact (next.written_entered henter hrest o' ho' _ hb).1 (heq ▸ hentered)

/-- A source that has failed before its commit has left the files as they were. -/
theorem Run.files_take (h : Run c write enter l w sources outcomes l₁ w₁) (ho : outcomes[i]? = some o)
    (hfail : o.failsBeforeCommit = true) :
    (w.run (processAll c write enter l (sources.take (i + 1)))).2.files =
      (w.run (processAll c write enter l (sources.take i))).2.files := by
  induction h generalizing i with
  | nil => cases ho
  | @cons l l' l₁ w w' w₁ source rest first later step next ih =>
    cases i with
    | zero =>
      obtain rfl : first = o := Option.some.inj ho
      obtain ⟨-, hagrees⟩ :=
        (fate_of_processWith step).eq_of_not_commits (Outcome.not_commits_of_fails hfail)
      rw [run_processAll_take_succ step]
      exact hagrees.files
    | succ i =>
      rw [run_processAll_take_succ step, run_processAll_take_succ step]
      exact ih ho

/-! ### Builds -/

/-- What a build that has answered some outcomes has done to the files, given which artifacts may have been
written, and which may have been staged. Everything is accounted for; what may not be overwritten is as it
was, if its path found it, or did not lead up out of a missing directory; and what the outcomes say was
written is there. -/
structure BuildFrame (c : Config) (here : Place) (before after : FileSystem) (outcomes : List Outcome)
    (written attempted : Artifact → Prop) : Prop where
  accounted : ∀ q, Accounted c.output here before after written attempted q
  kept : c.overwrite.isTrue = false → ∀ a : Artifact, a.IsRendered c →
    before.node? (targetPlace here a) ≠ none →
    before.Finds here a.path ∨ ¬ Climbs before (c.output.start here) c.output.parts →
    after.node? (targetPlace here a) = before.node? (targetPlace here a)
  written : ∀ o ∈ outcomes, ∀ path ∈ o.written, ∃ a ∈ o.artifacts, a.path = path ∧
    after.read here path = .ok (Text.Utf8.encode a.content)

theorem Frame.buildFrame {here : Place} {before after : FileSystem}
    {written attempted written' attempted' : Artifact → Prop}
    (h : Frame c here before after written attempted) (htree : IsTree before)
    (howned : ∀ o ∈ outcomes, ∀ path ∈ o.written, ∃ a ∈ o.artifacts, a.path = path)
    (hall : ∀ a, Written outcomes a → written a) (hwritten : ∀ a, written a → written' a)
    (hattempted : ∀ a, attempted a → attempted' a) :
    BuildFrame c here before after outcomes written' attempted' where
  accounted q := (h.accounted q).mono hwritten hattempted
  kept hkeep _ ha hnode hfound := h.node?_eq htree hkeep ha hnode hfound
  written o ho path hpath := by
    obtain ⟨a, ha, rfl⟩ := howned o ho path hpath
    exact ⟨a, ha, rfl, h.reads a (hall a ⟨o, ho, ha, hpath⟩)⟩

theorem isRendered_fragment {name : String} (hname : Text.isIdentifier name = true)
    (fs : List ExpandedFunction) : (Artifact.moduleFragment c name fs).IsRendered c :=
  .fragment fs (Text.not_mem_of_isIdentifier_of_part (by decide) hname)

/-- The frame of the fragment of a module. -/
theorem frame_of_commitFragment {fragment : Artifact} {written : List Path}
    (hrendered : fragment.IsRendered c) (htree : IsTree w.files)
    (hhere : w.files.node? w.here = some .directory)
    (h : w.run (commitFragment c write fragment) = (.ok (.ok written), w₁)) :
    Frame c w.here w.files w₁.files (fun a => write = true ∧ a = fragment ∧ a.path ∈ written)
      (fun a => write = true ∧ a = fragment) := by
  cases write with
  | false =>
    cases h
    exact (Frame.refl c w.here w.files).congr (by simp) (by simp)
  | true =>
    obtain ⟨-, hframe⟩ :=
      frame_of_commit (List.forall_mem_singleton.2 hrendered) (List.nodup_singleton _) htree hhere h
    exact hframe.congr (by simp) (by simp)

/-- A build touches its outputs only. Everything else is as it was, but for directories on the way to them,
and no temporary file is left. Artifacts that may not be overwritten are kept, and those that were written
are there at the end. A source that fails before its commit contributes nothing. -/
theorem builds_touch_outputs_only (c : Config) (write : Bool) (sources : List Path) (w : Workspace)
    (htree : IsTree w.files) (hhere : w.files.node? w.here = some .directory)
    (hproper : ∀ s ∈ sources, s.IsProper) :
    (∀ outcomes w₁, w.run (generate c write sources) = (.ok outcomes, w₁) →
      BuildFrame c w.here w.files w₁.files outcomes (Written outcomes)
        (Attempted c write (fun l source p => l.claim source p.artifacts) {} w sources outcomes) ∧
      ∀ i o, outcomes[i]? = some o → o.failsBeforeCommit = true →
        (w.run (generate c write (sources.take (i + 1)))).2.files =
          (w.run (generate c write (sources.take i))).2.files) ∧
    ∀ asked b w₁, w.run (assemble c write asked sources) = (.ok (.ok b), w₁) →
      BuildFrame c w.here w.files w₁.files b.outcomes
        (fun a => Written b.outcomes a ∨ write = true ∧ a = b.fragment)
        (fun a => Attempted c write Ledger.define {} w sources b.outcomes a ∨ write = true ∧ a = b.fragment) ∧
      ∀ i o, b.outcomes[i]? = some o → o.failsBeforeCommit = true →
        (w.run (processAll c write Ledger.define {} (sources.take (i + 1)))).2.files =
          (w.run (processAll c write Ledger.define {} (sources.take i))).2.files := by
  have howned : ∀ {enter l₁ outcomes w₁}, Ledger.TakesNew enter →
      Run c write enter {} w sources outcomes l₁ w₁ →
      ∀ o ∈ outcomes, ∀ path ∈ o.written, ∃ a ∈ o.artifacts, a.path = path :=
    fun henter hrun o ho path hpath => (hrun.written_entered henter hproper o ho path hpath).2
  constructor
  · intro outcomes w₁ h
    obtain ⟨l₁, hrun⟩ := processAll_eq_ok_iff.1 h
    obtain ⟨-, hframe⟩ := hrun.frame Ledger.takesNew_claim hproper htree hhere
    exact ⟨hframe.buildFrame htree (howned Ledger.takesNew_claim hrun) (fun _ => id) (fun _ => id)
      fun _ => id, fun i o ho hfail => hrun.files_take ho hfail⟩
  · intro asked b w₁ h
    obtain ⟨hname, outcomes, l₁, w', hrun, hcomplete⟩ := assemble_eq_ok_iff.1 h
    obtain ⟨rfl, written, w'', hcommit, rfl⟩ := complete_eq_ok_iff.1 hcomplete
    refine ⟨?_, fun i o ho hfail => hrun.files_take ho hfail⟩
    obtain ⟨hhere', hframe⟩ := hrun.frame Ledger.takesNew_define hproper htree hhere
    have hfragment := frame_of_commitFragment (isRendered_fragment hname _) (hframe.reached.isTree htree)
      (by rw [hhere']; exact hframe.reached.node?_of_directory hhere) hcommit
    rw [hhere'] at hfragment
    refine (hframe.append hfragment ?_).buildFrame htree (howned Ledger.takesNew_define hrun)
      (fun _ => .inl) (fun a => Or.imp_right fun ha => ⟨ha.1, ha.2.1⟩) fun _ => id
    rintro a _ ⟨o, ho, ha, -⟩ ⟨-, rfl, -⟩ heq
    exact artifacts_ne_fragment hrun.isBuilt.2 _ _ a (List.mem_flatMap.2 ⟨o, ho, ha⟩) heq.symm

/-- A stub that is there already is kept, between a source that is missing and one whose outputs are taken. -/
theorem builds_touch_outputs_only_kept :
    ∃ (c : Config) (w : Workspace) (sources : List Path) (outcomes : List Outcome) (b : ModuleBuild)
      (w₁ w₂ : Workspace), IsTree w.files ∧ w.files.node? w.here = some .directory ∧
      (∀ s ∈ sources, s.IsProper) ∧ c.overwrite.isTrue = false ∧
      w.run (generate c true sources) = (.ok outcomes, w₁) ∧ outcomes.map (·.isOk) = [true, false, false] ∧
      outcomes.map (fun o => (o.artifacts.length, o.written.length)) = [(3, 2), (0, 0), (0, 0)] ∧
      BuildFrame c w.here w.files w₁.files outcomes (Written outcomes)
        (Attempted c true (fun l source p => l.claim source p.artifacts) {} w sources outcomes) ∧
      w.run (assemble c true none sources) = (.ok (.ok b), w₂) ∧
      BuildFrame c w.here w.files w₂.files b.outcomes
        (fun a => Written b.outcomes a ∨ true = true ∧ a = b.fragment)
        (fun a => Attempted c true Ledger.define {} w sources b.outcomes a ∨ true = true ∧ a = b.fragment) := by
  obtain ⟨c, hc⟩ : ∃ c : Config, c =
      { projectRoot := ⟨.relative, []⟩, outputDir := ⟨.relative, ["out"]⟩, overwrite := .bool false } :=
    ⟨_, rfl⟩
  obtain ⟨sources, hsources⟩ : ∃ sources : List Path,
    sources = [⟨.relative, ["a.cpp"]⟩, ⟨.relative, ["b.cpp"]⟩, ⟨.relative, ["a.cpp"]⟩] := ⟨_, rfl⟩
  obtain ⟨w, hw⟩ : ∃ w : Workspace, w = { here := [], files := ⟨[(["a.cpp"], .file (Text.Utf8.encode
      "npe_function(f)npe_arg(x, csr_f64)npe_begin_code()return x;")), (["out"], .directory),
      (["out", "a.pyi"], .file ⟨#[]⟩)]⟩ } := ⟨_, rfl⟩
  obtain ⟨hnodes, hproper, hkeep, hgenerate, hassemble⟩ :
      (∀ p ∈ w.files.nodes, w.files.node? p.1.dropLast = some .directory) ∧
      (∀ s ∈ sources, s.IsProper) ∧ c.overwrite.isTrue = false ∧
      (w.run (generate c true sources)).1.toOption.map (fun os => (os.map (·.isOk),
        os.map (fun o => (o.artifacts.length, o.written.length)))) =
        some ([true, false, false], [(3, 2), (0, 0), (0, 0)]) ∧
      ((w.run (assemble c true none sources)).1.toOption.bind (·.toOption)).isSome = true := by
    rw [hw, hc, hsources]
    decide +kernel
  have htree : IsTree w.files := isTree_of_nodes hnodes
  have hhere : w.files.node? w.here = some .directory := by rw [hw]; rfl
  obtain ⟨hfirst, hsecond⟩ := builds_touch_outputs_only c true sources w htree hhere hproper
  rcases hall : w.run (generate c true sources) with ⟨fault | outcomes, w₁⟩
  · simp [hall, Except.toOption] at hgenerate
  rcases hmodule : w.run (assemble c true none sources) with ⟨fault | (e | b), w₂⟩
  · simp [hmodule, Except.toOption] at hassemble
  · simp [hmodule, Except.toOption] at hassemble
  rw [hall] at hgenerate
  obtain ⟨hok, hlengths⟩ := Prod.mk.inj (Option.some.inj hgenerate)
  exact ⟨c, w, sources, outcomes, b, w₁, w₂, htree, hhere, hproper, hkeep, hall, hok, hlengths,
    (hfirst outcomes w₁ hall).1, hmodule, (hsecond none b w₂ hmodule).1⟩

/-- The output path leads up out of a directory that is missing. So an artifact that is there is not found,
and once the directory has been made it is overwritten, although it should be kept. -/
theorem build_overwrites_unfound :
    ∃ (c : Config) (w w₁ : Workspace) (source : Path) (outcomes : List Outcome) (o : Outcome) (a : Artifact)
      (content : ByteArray), IsTree w.files ∧ w.files.node? w.here = some .directory ∧ source.IsProper ∧
      c.overwrite.isTrue = false ∧ w.run (generate c true [source]) = (.ok outcomes, w₁) ∧ o ∈ outcomes ∧
      a ∈ o.artifacts ∧ w.files.node? (targetPlace w.here a) = some (.file content) ∧
      w₁.files.node? (targetPlace w.here a) ≠ some (.file content) := by
  obtain ⟨c, hc⟩ : ∃ c : Config, c = { projectRoot := ⟨.relative, []⟩
                                       outputDir := ⟨.relative, ["gen", "..", "out"]⟩
                                       overwrite := .bool false } := ⟨_, rfl⟩
  obtain ⟨source, hsource⟩ : ∃ source : Path, source = ⟨.relative, ["foo.cpp"]⟩ := ⟨_, rfl⟩
  obtain ⟨content, hcontent⟩ : ∃ content, content = Text.Utf8.encode "mine" := ⟨_, rfl⟩
  obtain ⟨w, hw⟩ : ∃ w : Workspace, w = { here := [], files := ⟨[(["foo.cpp"], .file (Text.Utf8.encode
      "npe_function(f)npe_begin_code()npe_end_code()")), (["out"], .directory),
      (["out", "foo.npe.cpp"], .file content)]⟩ } := ⟨_, rfl⟩
  obtain ⟨hnodes, hproper, hkeep, hvalue⟩ :
      (∀ p ∈ w.files.nodes, w.files.node? p.1.dropLast = some .directory) ∧ source.IsProper ∧
      c.overwrite.isTrue = false ∧
      ((w.run (generate c true [source])).1.toOption.bind (·[0]?)).bind (fun o => o.artifacts[0]?.map fun a =>
        (decide (w.files.node? (targetPlace w.here a) = some (.file content)),
        decide ((w.run (generate c true [source])).2.files.node? (targetPlace w.here a) =
          some (.file content)))) = some (true, false) := by
    rw [hw, hc, hsource, hcontent]
    decide +kernel
  rcases hrun : w.run (generate c true [source]) with ⟨fault | outcomes, w₁⟩
  · simp [hrun, Except.toOption] at hvalue
  rw [hrun] at hvalue
  obtain ⟨o, ho, hvalue⟩ := Option.bind_eq_some_iff.1 hvalue
  obtain ⟨a, ha, hvalue⟩ := Option.map_eq_some_iff.1 hvalue
  obtain ⟨hbefore, hafter⟩ := Prod.mk.inj hvalue
  exact ⟨c, w, w₁, source, outcomes, o, a, content, isTree_of_nodes hnodes, by rw [hw]; rfl, hproper, hkeep,
    hrun, List.mem_of_getElem? ho, List.mem_of_getElem? ha, of_decide_eq_true hbefore,
    of_decide_eq_false hafter⟩

end Monomorph.Build
