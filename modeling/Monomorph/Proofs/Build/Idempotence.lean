import Monomorph.Proofs.Build.Sources

/-!
Building twice. The second build of the sources below a directory finds everything as the first has left
it, and leaves it so. It answers the same, and it would find the same sources.
-/

namespace Monomorph.Build

open FileSystem

variable {c : Config} {write : Bool} {v v' w w' w₁ : Workspace} {directory : Path} {sources : List Path}
  {outcomes outcomes' : List Outcome} {fragment : Artifact} {paths : List Path} {o o' : Outcome}
  {written attempted : Artifact → Prop} {as : List Artifact} {before fs : FileSystem} {here : Place}
  {result : Except BuildError (List Path)}

/-- The sources below a directory are as they were: each reads the same, and the same ones are found,
unless the path of the directory strays. -/
structure KeepsSources (w w' : Workspace) (directory : Path) (sources : List Path) : Prop where
  read : ∀ source ∈ sources, w'.files.read w'.here source = w.files.read w.here source
  found : ¬ Strays w.files (directory.start w.here) directory.parts →
    (w'.run (Source.find directory)).1 = .ok sources

theorem Frame.keepsSources (h : Frame c w.here w.files w'.files written attempted)
    (hhere : w'.here = w.here) (htree : IsTree w.files) (hnamed : Named w.files)
    (hproper : directory.IsProper) (hfind : (w.run (Source.find directory)).1 = .ok sources) :
    KeepsSources w w' directory sources where
  read source hsource := by
    rw [hhere]
    exact (isProper_and_steady_of_find htree hnamed hproper hfind source hsource).2 _ h.reached
  found hstrays := h.run_find hhere htree hstrays hfind

/-! ### Modules -/

/-- Two outcomes with the same source and the same product or error. -/
def SameResult (o o' : Outcome) : Prop := o'.source = o.source ∧ o'.result = o.result

theorem filterMap_function?_congr (h : List.Forall₂ SameResult outcomes outcomes') :
    outcomes'.filterMap (·.function?) = outcomes.filterMap (·.function?) := by
  induction h with
  | nil => rfl
  | @cons o o' outcomes outcomes' hsame _ ih =>
    have hfunction : o'.function? = o.function? := by rw [Outcome.function?, hsame.2, Outcome.function?]
    rw [List.filterMap_cons, List.filterMap_cons, hfunction, ih]

/-- After something has been written, or found to be there, the output directory is there. -/
theorem Traces.not_shut (h : Traces c here before as fs (.ok paths)) (hs : Siblings c.output as)
    (hsome : as ≠ []) : ¬ Shut c.output here fs := by
  rintro ⟨fault, hshut⟩
  obtain ⟨a, ha⟩ := List.exists_mem_of_ne_nil as hsome
  refine not_opens_of_makeDirectories hshut ?_
  cases h with
  | written settled =>
    rcases settled a ha with ⟨-, hfinds⟩ | ⟨hready, -⟩
    · exact (opens_of_finds (hs.path a ha) hfinds).symm
    · have hfit := hready.fit
      rw [hs.temporaryPath_eq ha] at hfit
      exact ⟨hfit.of_child, hready.opens⟩

section Fragment

variable (hrendered : fragment.IsRendered c) (htree : IsTree w.files)
  (hhere : w.files.node? w.here = some .directory)
  (h : w.run (commitFragment c write fragment) = (.ok (.ok paths), w'))

include hrendered htree hhere h

theorem here_of_commitFragment : w'.here = w.here := by
  cases write with
  | false =>
    cases h
    rfl
  | true =>
    exact (frame_of_commit (List.forall_mem_singleton.2 hrendered) (List.nodup_singleton _) htree hhere h).1

/-- A fragment to be written comes into an output directory that can be made. -/
theorem not_shut_of_commitFragment (hwrite : write = true) : ¬ Shut c.output w.here w'.files := by
  subst hwrite
  have hs := siblings_singleton hrendered
  exact (traces_of_commit_ok (List.forall_mem_singleton.2 hrendered) hs.nodup htree hhere h).not_shut hs
    (List.cons_ne_nil _ _)

/-- Writing a fragment comes to the same once more, and leaves the files as they are. -/
theorem exists_commitFragment (hv : v.Agrees w') :
    ∃ paths' v', v.run (commitFragment c write fragment) = (.ok (.ok paths'), v') ∧ v'.Agrees v := by
  have hhere' := here_of_commitFragment hrendered htree hhere h
  cases write with
  | false => exact ⟨[], v, rfl, .refl v⟩
  | true =>
    have hs := siblings_singleton hrendered
    have htraces := traces_of_commit_ok (List.forall_mem_singleton.2 hrendered) hs.nodup htree hhere h
    rw [← hv.files, ← hhere', ← hv.here] at htraces
    obtain ⟨result, v', hrun, hhere'', hfiles, hsame⟩ := htraces.exists_commit hs htree
    rcases hsame with ⟨_, paths', -, rfl⟩ | ⟨_, _, herror, -⟩
    · exact ⟨paths', v', hrun, hfiles, hhere''⟩
    · cases herror

end Fragment

/-- Where the output directory cannot be made a fragment changes nothing. -/
theorem files_of_commitFragment_shut (hrendered : fragment.IsRendered c)
    (hshut : Shut c.output w.here w.files)
    (h : w.run (commitFragment c write fragment) = (.ok (.ok paths), w')) : w'.files = w.files := by
  cases write with
  | false =>
    cases h
    rfl
  | true => exact (files_of_commit_shut (siblings_singleton hrendered) hshut h).1

/-! ### Twice -/

/-- Generation is idempotent. After a build of the sources below a directory these are as they were, and the
same build once more leaves the files exactly as they are. Each source has the same product or error, but
for the fault of an output directory that cannot be made and whose path leads up out of a directory that
was missing at first; a module comes out the same. -/
theorem generation_is_idempotent (c : Config) (write : Bool) (directory : Path) (sources : List Path)
    (w : Workspace) (htree : IsTree w.files) (hnamed : Named w.files)
    (hhere : w.files.node? w.here = some .directory) (hproper : directory.IsProper)
    (hfind : (w.run (Source.find directory)).1 = .ok sources) :
    (∀ outcomes w₁, w.run (generate c write sources) = (.ok outcomes, w₁) →
      KeepsSources w w₁ directory sources ∧
      ∃ outcomes' w₂, w₁.run (generate c write sources) = (.ok outcomes', w₂) ∧ w₂.Agrees w₁ ∧
        List.Forall₂ (Repeats (write = true ∧ Unsure c w.here w.files w₁.files)) outcomes outcomes') ∧
    ∀ asked b w₁, w.run (assemble c write asked sources) = (.ok (.ok b), w₁) →
      KeepsSources w w₁ directory sources ∧
      ∃ b' w₂, w₁.run (assemble c write asked sources) = (.ok (.ok b'), w₂) ∧ w₂.Agrees w₁ ∧
        b'.name = b.name ∧ b'.fragment = b.fragment ∧
        List.Forall₂ SameResult b.outcomes b'.outcomes := by
  have hsources := isProper_and_steady_of_find htree hnamed hproper hfind
  have hpropers : ∀ s ∈ sources, s.IsProper := fun s hs => (hsources s hs).1
  have hsteady : ∀ s ∈ sources, Steady w.here w.files s := fun s hs => (hsources s hs).2
  constructor
  · intro outcomes w₁ h
    obtain ⟨l₁, hrun⟩ := processAll_eq_ok_iff.1 h
    obtain ⟨hhere₁, hframe⟩ := hrun.frame Ledger.takesNew_claim hpropers htree hhere
    refine ⟨hframe.keepsSources hhere₁ htree hnamed hproper hfind, ?_⟩
    obtain ⟨outcomes', w₂, hrun', hagrees, hall⟩ := hrun.again Ledger.takesNew_claim hpropers htree hhere
      hsteady hhere₁ (Frame.refl c w.here w₁.files) (fun _ h => h.elim) fun _ => rfl
    exact ⟨outcomes', w₂, processAll_eq_ok_iff.2 ⟨l₁, hrun'⟩, hagrees, hall⟩
  · intro asked b w₁ h
    obtain ⟨hname, outcomes, l₁, w', hrun, hcomplete⟩ := assemble_eq_ok_iff.1 h
    obtain ⟨rfl, paths, w'', hcommit, hnote⟩ := complete_eq_ok_iff.1 hcomplete
    have hagrees : w₁.Agrees w'' := by
      rw [hnote]
      exact ⟨rfl, rfl⟩
    obtain ⟨hhere', hframe⟩ := hrun.frame Ledger.takesNew_define hpropers htree hhere
    have htree' := hframe.reached.isTree htree
    have hdir' := hframe.directory hhere' hhere
    have hrendered := isRendered_fragment (c := c) hname (outcomes.filterMap (·.function?))
    have hfragment := frame_of_commitFragment hrendered htree' hdir' hcommit
    have hhere₁ : w₁.here = w.here :=
      hagrees.here.trans ((here_of_commitFragment hrendered htree' hdir' hcommit).trans hhere')
    rw [← hagrees.files, hhere'] at hfragment
    -- the fragment is no artifact of any source
    have hforeign : ∀ b, write = true ∧ b = (moduleOf c (nameOf c asked) outcomes).fragment ∧ b.path ∈ paths →
        ∀ p : Product, p.IsBuilt c → ∀ a ∈ p.artifacts, b.path ≠ a.path := by
      rintro b ⟨-, rfl, -⟩ p hbuilt a ha heq
      exact Artifact.path_ne_fragment_of_all hbuilt.artifacts ha _ _ heq.symm
    have hwhole := hframe.append hfragment (ne_of_foreign hrun.isBuilt.2 hforeign)
    refine ⟨hwhole.keepsSources hhere₁ htree hnamed hproper hfind, ?_⟩
    obtain ⟨outcomes', u, hrun', hu, hall⟩ := hrun.again Ledger.takesNew_define hpropers htree hhere hsteady
      hhere₁ hfragment hforeign fun hshut => by
        rw [← hhere'] at hshut
        exact hagrees.files.trans (files_of_commitFragment_shut hrendered hshut hcommit)
    have hsure : ¬ (write = true ∧ Unsure c w.here w.files w₁.files) := by
      rintro ⟨hwrite, hshut, -⟩
      rw [hagrees.files, ← hhere'] at hshut
      exact not_shut_of_commitFragment hrendered htree' hdir' hcommit hwrite hshut
    have hsame : List.Forall₂ SameResult outcomes outcomes' :=
      hall.imp fun o o' ho => ⟨ho.source, ho.result_eq hsure⟩
    have hfunctions := filterMap_function?_congr hsame
    obtain ⟨paths', v', hagain, hagrees'⟩ :=
      exists_commitFragment hrendered htree' hdir' hcommit (hu.trans hagrees)
    refine ⟨moduleOf c (nameOf c asked) outcomes', _, assemble_eq_ok_iff.2 ⟨hname, outcomes', l₁, u, hrun',
      complete_eq_ok_iff.2 ⟨rfl, paths', v', ?_, rfl⟩⟩, ?_, rfl, ?_, hsame⟩
    · rw [moduleOf, hfunctions]
      exact hagain
    · have hlast := hagrees'.trans hu
      exact ⟨hlast.files, hlast.here⟩
    · rw [moduleOf, hfunctions, moduleOf]

/-- The output directory lies inside the directory of the sources, and nothing may be overwritten. The first
source has a product, the second has none. -/
theorem generation_is_idempotent_inside :
    ∃ (c : Config) (directory : Path) (sources : List Path) (w : Workspace) (outcomes outcomes' : List Outcome)
      (b b' : ModuleBuild) (w₁ w₂ v₁ v₂ : Workspace), IsTree w.files ∧ Named w.files ∧
      w.files.node? w.here = some .directory ∧ directory.IsProper ∧
      (w.run (Source.find directory)).1 = .ok sources ∧
      c.overwrite.isTrue = false ∧ directory.parts <+: c.output.parts ∧
      w.run (generate c true sources) = (.ok outcomes, w₁) ∧ outcomes.map (·.isOk) = [true, false] ∧
      (w₁.run (Source.find directory)).1 = .ok sources ∧
      w₁.run (generate c true sources) = (.ok outcomes', w₂) ∧ w₂.files = w₁.files ∧
      w.run (assemble c true none sources) = (.ok (.ok b), v₁) ∧
      v₁.run (assemble c true none sources) = (.ok (.ok b'), v₂) ∧ v₂.files = v₁.files ∧
      b'.fragment = b.fragment := by
  obtain ⟨c, hc⟩ : ∃ c : Config, c = { projectRoot := ⟨.relative, []⟩
                                       outputDir := ⟨.relative, ["src", "out"]⟩
                                       overwrite := .bool false } := ⟨_, rfl⟩
  obtain ⟨directory, hdirectory⟩ : ∃ directory : Path, directory = ⟨.relative, ["src"]⟩ := ⟨_, rfl⟩
  obtain ⟨sources, hsources⟩ : ∃ sources : List Path,
    sources = [⟨.relative, ["src", "a.cpp"]⟩, ⟨.relative, ["src", "b.cpp"]⟩] := ⟨_, rfl⟩
  obtain ⟨w, hw⟩ : ∃ w : Workspace, w = { here := [], files := ⟨[(["src"], .directory),
    (["src", "a.cpp"], .file (Text.Utf8.encode "npe_function(f)npe_begin_code()npe_end_code()")),
    (["src", "b.cpp"], .file (Text.Utf8.encode "npe_"))]⟩ } := ⟨_, rfl⟩
  obtain ⟨hnodes, hnamed, hproper, hlisted, hsorted, hkeep, hinside, hgenerate, hassemble⟩ :
      (∀ p ∈ w.files.nodes, w.files.node? p.1.dropLast = some .directory) ∧ Named w.files ∧
      directory.IsProper ∧ (w.files.below w.here directory).toOption.map (fun files =>
        (files.filter (Source.Rule.admits {})).map fun names =>
          (⟨directory.root, directory.parts ++ names⟩ : Path)) = some sources ∧
      sources.Pairwise (fun p q => p.le q = true) ∧ c.overwrite.isTrue = false ∧
      directory.parts <+: c.output.parts ∧
      (w.run (generate c true sources)).1.toOption.map (·.map (·.isOk)) = some [true, false] ∧
      ((w.run (assemble c true none sources)).1.toOption.bind (·.toOption)).isSome = true := by
    rw [hw, hc, hdirectory, hsources]
    decide +kernel
  have htree : IsTree w.files := isTree_of_nodes hnodes
  have hhere : w.files.node? w.here = some .directory := by rw [hw]; rfl
  have hfind : (w.run (Source.find directory)).1 = .ok sources := by
    rw [run_find]
    cases hbelow : w.files.below w.here directory with
    | error fault => simp [hbelow, Except.toOption] at hlisted
    | ok files =>
      rw [hbelow] at hlisted
      have hsame := congrArg (·.mergeSort Path.le) (Option.some.inj hlisted)
      exact congrArg Except.ok (hsame.trans (List.mergeSort_of_pairwise hsorted))
  have hstrays : ¬ Strays w.files (directory.start w.here) directory.parts := by
    rw [hdirectory, hw]
    rintro (⟨hnone, -⟩ | hlater)
    · cases hnone
    · exact hlater
  obtain ⟨hfirst, hsecond⟩ := generation_is_idempotent c true directory sources w htree hnamed hhere hproper hfind
  rcases hall : w.run (generate c true sources) with ⟨fault | outcomes, w₁⟩
  · simp [hall, Except.toOption] at hgenerate
  rcases hmodule : w.run (assemble c true none sources) with ⟨fault | (e | b), v₁⟩
  · simp [hmodule, Except.toOption] at hassemble
  · simp [hmodule, Except.toOption] at hassemble
  rw [hall] at hgenerate
  obtain ⟨hkeeps, outcomes', w₂, hagain, hagrees, -⟩ := hfirst outcomes w₁ hall
  obtain ⟨-, b', v₂, hagain', hagrees', -, hfragment, -⟩ := hsecond none b v₁ hmodule
  exact ⟨c, directory, sources, w, outcomes, outcomes', b, b', w₁, w₂, v₁, v₂, htree, hnamed, hhere, hproper,
    hfind, hkeep, hinside, hall, Option.some.inj hgenerate, hkeeps.found hstrays, hagain, hagrees.files,
    hmodule, hagain', hagrees'.files, hfragment⟩

theorem eq_ok_of_toOption {α β : Type} {answer : Except α β} {b : β} (h : answer.toOption = some b) :
    answer = .ok b := by
  cases answer with
  | error a => cases h
  | ok b' => exact congrArg Except.ok (Option.some.inj h)

/-- Two paths lead through the directory of outputs, which is missing: one goes on by double dots, the other
by a name that is too long. Nothing is found below either, and after a build there is something below the
first one, and the second one fails. -/
theorem find_after_build :
    ∃ (c : Config) (directory long source : Path) (w w₁ : Workspace) (b : ModuleBuild), IsTree w.files ∧
      Named w.files ∧ w.files.node? w.here = some .directory ∧ directory.IsProper ∧ long.IsProper ∧
      (w.run (Source.find directory)).1 = .ok [] ∧ (w.run (Source.find long)).1 = .ok [] ∧
      w.run (assemble c true none []) = (.ok (.ok b), w₁) ∧
      (w₁.run (Source.find directory)).1 = .ok [source] ∧
      (w₁.run (Source.find long)).1 = .error .nameTooLong := by
  obtain ⟨c, hc⟩ : ∃ c : Config, c = { projectRoot := ⟨.relative, []⟩ } := ⟨_, rfl⟩
  obtain ⟨directory, hdirectory⟩ : ∃ directory : Path, directory = ⟨.relative, ["build", "..", "src"]⟩ := ⟨_, rfl⟩
  obtain ⟨long, hlong⟩ : ∃ long : Path,
    long = ⟨.relative, ["build", String.ofList (List.replicate (longestName + 1) 'a')]⟩ := ⟨_, rfl⟩
  obtain ⟨source, hsource⟩ : ∃ source : Path, source = ⟨.relative, ["build", "..", "src", "foo.cpp"]⟩ := ⟨_, rfl⟩
  obtain ⟨w, hw⟩ : ∃ w : Workspace, w = { here := [], files := ⟨[(["src"], .directory), (["src", "foo.cpp"],
    .file (Text.Utf8.encode "npe_function(f)npe_begin_code()npe_end_code()"))]⟩ } := ⟨_, rfl⟩
  obtain ⟨hnodes, hnamed, hproper, hproper', hbefore, hbefore', hassemble, hafter, hafter'⟩ :
      (∀ p ∈ w.files.nodes, w.files.node? p.1.dropLast = some .directory) ∧ Named w.files ∧
      directory.IsProper ∧ long.IsProper ∧ (w.run (Source.find directory)).1.toOption = some [] ∧
      (w.run (Source.find long)).1.toOption = some [] ∧
      ((w.run (assemble c true none [])).1.toOption.bind (·.toOption)).isSome = true ∧
      ((w.run (assemble c true none [])).2.run (Source.find directory)).1.toOption = some [source] ∧
      (w.run (assemble c true none [])).2.files.place? (w.run (assemble c true none [])).2.here long =
        .error .nameTooLong := by
    rw [hw, hc, hdirectory, hlong, hsource]
    decide +kernel
  rcases hmodule : w.run (assemble c true none []) with ⟨fault | (e | b), w₁⟩
  · simp [hmodule, Except.toOption] at hassemble
  · simp [hmodule, Except.toOption] at hassemble
  rw [hmodule] at hafter hafter'
  refine ⟨c, directory, long, source, w, w₁, b, isTree_of_nodes hnodes, hnamed, by rw [hw]; rfl, hproper,
    hproper', eq_ok_of_toOption hbefore, eq_ok_of_toOption hbefore', hmodule, eq_ok_of_toOption hafter, ?_⟩
  rw [run_find, below, kind?_tooLong hafter']
  rfl

/-- The target that could not be written, and why. -/
def fault? (o : Outcome) : Option (Path × FileFault) :=
  match o.result with
  | .error (.unwritable target fault) => some (target, fault)
  | _ => none

/-- The output path leads up out of a directory that is missing, and then through a file. The first build
makes the directory and comes to the file at its end, the second one on its way. -/
theorem fault_after_build :
    ∃ (c : Config) (directory source target : Path) (w w₁ w₂ : Workspace) (outcomes outcomes' : List Outcome),
      IsTree w.files ∧ Named w.files ∧ w.files.node? w.here = some .directory ∧ directory.IsProper ∧
      (w.run (Source.find directory)).1 = .ok [source] ∧
      w.run (generate c true [source]) = (.ok outcomes, w₁) ∧
      w₁.run (generate c true [source]) = (.ok outcomes', w₂) ∧
      outcomes.map fault? = [some (target, .alreadyExists)] ∧
      outcomes'.map fault? = [some (target, .notDirectory)] := by
  obtain ⟨c, hc⟩ : ∃ c : Config, c =
      { projectRoot := ⟨.relative, []⟩, outputDir := ⟨.relative, ["gen", "..", "file", "out"]⟩ } := ⟨_, rfl⟩
  obtain ⟨source, hsource⟩ : ∃ source : Path, source = ⟨.relative, ["foo.cpp"]⟩ := ⟨_, rfl⟩
  obtain ⟨target, htarget⟩ : ∃ target : Path,
    target = ⟨.relative, ["gen", "..", "file", "out", "foo.npe.cpp"]⟩ := ⟨_, rfl⟩
  obtain ⟨w, hw⟩ : ∃ w : Workspace, w = { here := [], files := ⟨[(["file"], .file ⟨#[]⟩), (["foo.cpp"],
    .file (Text.Utf8.encode "npe_function(f)npe_begin_code()npe_end_code()"))]⟩ } := ⟨_, rfl⟩
  obtain ⟨hnodes, hnamed, hfind, hfirst, hsecond⟩ :
      (∀ p ∈ w.files.nodes, w.files.node? p.1.dropLast = some .directory) ∧ Named w.files ∧
      (w.run (Source.find ⟨.relative, []⟩)).1.toOption = some [source] ∧
      (w.run (generate c true [source])).1.toOption.map (·.map fault?) =
        some [some (target, .alreadyExists)] ∧
      ((w.run (generate c true [source])).2.run (generate c true [source])).1.toOption.map (·.map fault?) =
        some [some (target, .notDirectory)] := by
    rw [hw, hc, hsource, htarget]
    decide +kernel
  rcases hall : w.run (generate c true [source]) with ⟨fault | outcomes, w₁⟩
  · simp [hall, Except.toOption] at hfirst
  rw [hall] at hfirst hsecond
  rcases hagain : w₁.run (generate c true [source]) with ⟨fault | outcomes', w₂⟩
  · simp [hagain, Except.toOption] at hsecond
  rw [hagain] at hsecond
  exact ⟨c, ⟨.relative, []⟩, source, target, w, w₁, w₂, outcomes, outcomes', isTree_of_nodes hnodes, hnamed,
    by rw [hw]; rfl, by decide, eq_ok_of_toOption hfind, hall, hagain, Option.some.inj hfirst,
    Option.some.inj hsecond⟩

theorem map_fault?_congr (h : List.Forall₂ SameResult outcomes outcomes') :
    outcomes'.map fault? = outcomes.map fault? := by
  induction h with
  | nil => rfl
  | cons hsame _ ih => rw [List.map_cons, List.map_cons, ih, fault?, hsame.2, fault?]

/-- Where paths go on from missing directories a second build may differ: in what it finds, and in the fault
of a source. -/
theorem second_build_differs :
    (∃ (c : Config) (directory long : Path) (w w₁ : Workspace) (b : ModuleBuild), IsTree w.files ∧
      Named w.files ∧ w.files.node? w.here = some .directory ∧ directory.IsProper ∧ long.IsProper ∧
      (w.run (Source.find directory)).1 = .ok [] ∧ (w.run (Source.find long)).1 = .ok [] ∧
      w.run (assemble c true none []) = (.ok (.ok b), w₁) ∧
      (w₁.run (Source.find directory)).1 ≠ .ok [] ∧ (w₁.run (Source.find long)).1 ≠ .ok []) ∧
    ∃ (c : Config) (directory : Path) (sources : List Path) (w w₁ w₂ : Workspace)
      (outcomes outcomes' : List Outcome), IsTree w.files ∧ Named w.files ∧
      w.files.node? w.here = some .directory ∧ directory.IsProper ∧
      (w.run (Source.find directory)).1 = .ok sources ∧ w.run (generate c true sources) = (.ok outcomes, w₁) ∧
      w₁.run (generate c true sources) = (.ok outcomes', w₂) ∧
      ¬ List.Forall₂ SameResult outcomes outcomes' := by
  constructor
  · obtain ⟨c, directory, long, source, w, w₁, b, htree, hnamed, hhere, hproper, hproper', hfind, hfind', hmodule,
      hafter, hafter'⟩ := find_after_build
    refine ⟨c, directory, long, w, w₁, b, htree, hnamed, hhere, hproper, hproper', hfind, hfind', hmodule, ?_, ?_⟩
    · rw [hafter]
      simp
    · rw [hafter']
      simp
  · obtain ⟨c, directory, source, target, w, w₁, w₂, outcomes, outcomes', htree, hnamed, hhere, hproper, hfind,
      hall, hagain, hfirst, hsecond⟩ := fault_after_build
    refine ⟨c, directory, [source], w, w₁, w₂, outcomes, outcomes', htree, hnamed, hhere, hproper, hfind, hall,
      hagain, fun hsame => ?_⟩
    rw [map_fault?_congr hsame, hfirst] at hsecond
    cases hsecond

end Monomorph.Build
