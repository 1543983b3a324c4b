import Monomorph.Command
import Monomorph.Proofs.Build.Module
import Monomorph.Proofs.Build.Sources

/-!
What becomes of the paths that a line names. They are classified and expanded before anything is built: a
file stands for itself, a directory for the sources below it, and a path at which nothing is for nothing.
So a line exits with zero exactly if all the sources that its paths stand for have been built, and there is
at least one of them; a path at which nothing is makes no difference then.
-/

namespace Monomorph

variable {α β : Type}

/-! ### Questions -/

/-- The program answers and leaves the workspace as it is. -/
def IsQuery (p : StateM Workspace α) : Prop := ∀ w : Workspace, (w.run p).2 = w

namespace IsQuery

variable {p : StateM Workspace α} {q : α → StateM Workspace β}

theorem run_eq (h : IsQuery p) (w : Workspace) : w.run p = ((w.run p).1, w) := Prod.ext rfl (h w)

/-- What comes after a question starts from the same workspace. -/
theorem run_bind (h : IsQuery p) (w : Workspace) : w.run (p >>= q) = w.run (q (w.run p).1) := by
  rw [Workspace.run_bind, h w]

theorem pure (a : α) : IsQuery (pure a : StateM Workspace α) := fun _ => rfl

theorem bind (hp : IsQuery p) (hq : ∀ a, IsQuery (q a)) : IsQuery (p >>= q) := fun w => by
  rw [hp.run_bind]
  exact hq _ w

theorem here : IsQuery (Files.here : StateM Workspace Path) := fun _ => rfl

theorem kind? (path : Path) : IsQuery (Files.kind? path) := fun _ => rfl

theorem below (path : Path) : IsQuery (Files.below path) := fun _ => rfl

theorem read (path : Path) : IsQuery (Files.read path) := fun _ => rfl

theorem find (directory : Path) : IsQuery (Source.find directory) := .bind (.below directory) fun _ => .pure _

end IsQuery

namespace Config

theorem isQuery_firstOf (directories : List Path) : IsQuery (firstOf directories) := by
  induction directories with
  | nil => exact .pure _
  | cons directory rest ih =>
    refine .bind (.kind? _) fun answer => ?_
    split
    · exact .pure _
    · exact .pure _
    · exact ih

theorem isQuery_find? (start : Path) : IsQuery (find? start) := by
  unfold find?
  split
  · exact .pure _
  · exact .bind .here fun _ => isQuery_firstOf _

theorem isQuery_ofFile (path : Path) (absent : LoadError) : IsQuery (ofFile path absent) := by
  refine .bind (.kind? path) fun answer => ?_
  split
  · exact .pure _
  · exact .pure _
  · exact .bind (.read path) fun _ => .pure _

/-- Loading a configuration writes nothing. -/
theorem isQuery_load (given : Option Path) (environment : Option String) : IsQuery (load given environment) := by
  unfold load
  split
  · exact isQuery_ofFile _ _
  · exact isQuery_ofFile _ _
  · refine .bind (isQuery_find? _) fun answer => ?_
    split
    · exact .pure _
    · exact isQuery_ofFile _ _
    · exact .bind .here fun _ => .pure _

end Config

namespace Command

open FileSystem

/-- The inputs that an action names. -/
def Action.inputs : Action → List (Option Path)
  | .generate inputs => inputs
  | .assemble sources _ => sources.map some
  | .inspect _ => []

/-- What an action builds of some sources: the outcomes, and the workspace after them. -/
inductive Builds (c : Config) (w w' : Workspace) (found : List Path) : Action → List Outcome → Prop
  | generated {inputs : List (Option Path)} {outcomes : List Outcome}
    (built : w.run (Build.generate c true found) = (.ok outcomes, w')) :
    Builds c w w' found (.generate inputs) outcomes
  | assembled {sources : List Path} {name : Option String} {build : Build.ModuleBuild}
    (built : w.run (Build.assemble c true name found) = (.ok (.ok build), w')) :
    Builds c w w' found (.assemble sources name) build.outcomes

variable {c : Config} {w w' : Workspace} {path : Path} {inputs : List (Option Path)} {found : List Path}
  {outcomes : List Outcome} {o : Output} {isVerbose : Bool} {name environment : Option String} {line : Line}
  {words : List String}

theorem exists_of_map_eq_ok {ε : Type} {x : Except ε α} {f : α → β} {b : β} (h : x.map f = .ok b) :
    ∃ a, x = .ok a ∧ f a = b := by
  cases x with
  | error e => cases h
  | ok a => exact ⟨a, rfl, Except.ok.inj h⟩

/-! ### The sources of some inputs -/

/-- Some inputs, all of them paths, stand for some sources, in order. -/
inductive Expands (w : Workspace) : List (Option Path) → List Path → Prop
  | nil : Expands w [] []
  | file {path : Path} {inputs : List (Option Path)} {found : List Path}
    (kind : w.files.kind? w.here path = .ok (some .file)) (next : Expands w inputs found) :
    Expands w (some path :: inputs) (path :: found)
  | directory {path : Path} {inputs : List (Option Path)} {listed found : List Path}
    (kind : w.files.kind? w.here path = .ok (some .directory))
    (finds : (w.run (Source.find path)).1 = .ok listed) (next : Expands w inputs found) :
    Expands w (some path :: inputs) (listed ++ found)
  | absent {path : Path} {inputs : List (Option Path)} {found : List Path}
    (kind : w.files.kind? w.here path = .ok none) (next : Expands w inputs found) :
    Expands w (some path :: inputs) found

/-- Nothing is found below a path at which nothing is. -/
theorem run_find_of_absent (h : w.files.kind? w.here path = .ok none) :
    (w.run (Source.find path)).1 = .ok [] := by
  have hbelow : w.files.below w.here path = .ok [] := by
    rw [FileSystem.below, h]
    rfl
  rw [Build.run_find, hbelow]
  simp [Except.map]

theorem run_sourcesOf (w : Workspace) (path : Path) : w.run (sourcesOf path) =
    (match w.files.kind? w.here path with
      | .error fault => .error fault
      | .ok (some .file) => .ok [path]
      | .ok _ => (w.run (Source.find path)).1, w) := by
  rw [sourcesOf, (IsQuery.kind? path).run_bind, Workspace.run_kind?]
  rcases w.files.kind? w.here path with fault | (_ | _ | _)
  · rfl
  · exact (IsQuery.find path).run_eq w
  · rfl
  · exact (IsQuery.find path).run_eq w

theorem isQuery_sourcesOf (path : Path) : IsQuery (sourcesOf path) := fun w => by rw [run_sourcesOf]

theorem isQuery_collect (inputs : List (Option Path)) : IsQuery (collect inputs) := by
  induction inputs with
  | nil => exact .pure _
  | cons input rest ih =>
    cases input with
    | none => exact .pure _
    | some path =>
      refine .bind (isQuery_sourcesOf path) fun answer => ?_
      split
      · exact .pure _
      · exact .bind ih fun _ => .pure _

/-- The first path is expanded on its own. -/
theorem run_collect_cons (w : Workspace) (path : Path) (rest : List (Option Path)) :
    (w.run (collect (some path :: rest))).1 = match (w.run (sourcesOf path)).1 with
      | .error fault => .error (.broken fault)
      | .ok found => (w.run (collect rest)).1.map (found ++ ·) := by
  rw [collect, (isQuery_sourcesOf path).run_bind]
  cases (w.run (sourcesOf path)).1 with
  | error fault => rfl
  | ok found => rfl

/-- A path at which nothing is adds nothing. -/
theorem run_collect_absent (h : w.files.kind? w.here path = .ok none) (rest : List (Option Path)) :
    (w.run (collect (some path :: rest))).1 = (w.run (collect rest)).1 := by
  rw [run_collect_cons, run_sourcesOf, h]
  dsimp only
  rw [run_find_of_absent h]
  cases (w.run (collect rest)).1 with
  | error answer => rfl
  | ok found => rfl

/-- The sources of some inputs are collected exactly if the inputs stand for them. -/
theorem collect_eq_ok_iff : (w.run (collect inputs)).1 = .ok found ↔ Expands w inputs found := by
  induction inputs generalizing found with
  | nil =>
    constructor
    · intro h
      cases h
      exact .nil
    · rintro ⟨⟩
      rfl
  | cons input rest ih =>
    constructor
    · intro h
      cases input with
      | none => cases h
      | some path =>
        rcases hkind : w.files.kind? w.here path with fault | (_ | _ | _)
        · rw [run_collect_cons, run_sourcesOf, hkind] at h
          cases h
        · rw [run_collect_absent hkind] at h
          exact .absent hkind (ih.1 h)
        · rw [run_collect_cons, run_sourcesOf, hkind] at h
          obtain ⟨later, hlater, rfl⟩ := exists_of_map_eq_ok h
          exact .file hkind (ih.1 hlater)
        · rw [run_collect_cons, run_sourcesOf, hkind] at h
          dsimp only at h
          cases hfind : (w.run (Source.find path)).1 with
          | error fault =>
            rw [hfind] at h
            cases h
          | ok sources =>
            rw [hfind] at h
            obtain ⟨later, hlater, rfl⟩ := exists_of_map_eq_ok h
            exact .directory hkind hfind (ih.1 hlater)
    · intro h
      cases h with
      | file kind next =>
        rw [run_collect_cons, run_sourcesOf, kind]
        dsimp only
        rw [ih.2 next]
        rfl
      | directory kind finds next =>
        rw [run_collect_cons, run_sourcesOf, kind]
        dsimp only
        rw [finds, ih.2 next]
        rfl
      | absent kind next =>
        rw [run_collect_absent kind]
        exact ih.2 next

/-! ### Lines and their configurations -/

/-- The configuration that a line is carried out with, given the configuration file that it names, or the
answer if there is none. -/
def Line.configuredBy (w : Workspace) (line : Line) (given : Option Path) (environment : Option String) :
    Except Answer Config :=
  match (w.run (Config.load given environment)).1.bind fun c =>
    (override line ⟨.slash, w.here⟩ c).mapError .config with
  | .ok c => if line.output.any (!·.isNameable) then .error (.broken .nameless) else .ok c
  | .error e => .error (if e.isConfiguration then .done (misconfigured e.message) else .unloaded e)

/-- The configuration that a line is carried out with, or the answer if there is none. -/
def Line.setting (w : Workspace) (line : Line) (environment : Option String) : Except Answer Config :=
  match line.config with
  | some none => .error .pathless
  | some (some path) => line.configuredBy w path environment
  | none => line.configuredBy w none environment

theorem run_runLine (w : Workspace) (line : Line) (given : Option Path) (environment : Option String) :
    w.run (runLine line given environment) = match line.configuredBy w given environment with
      | .ok c => w.run (perform line c)
      | .error answer => (answer, w) := by
  rw [runLine, IsQuery.here.run_bind, (Config.isQuery_load given environment).run_bind, Line.configuredBy]
  have hhere : (w.run (Files.here : StateM Workspace Path)).1 = ⟨.slash, w.here⟩ := rfl
  rw [hhere]
  generalize ((w.run (Config.load given environment)).1.bind fun c =>
    (override line ⟨.slash, w.here⟩ c).mapError LoadError.config) = loaded
  cases loaded with
  | error e => rfl
  | ok c =>
    dsimp only
    split
    · rfl
    · rfl

/-- A line is carried out with its configuration, in the workspace that it finds. -/
theorem run_run (hread : Line.read words = .ok line) (w : Workspace) (environment : Option String) :
    w.run (run words environment) = match line.setting w environment with
      | .ok c => w.run (perform line c)
      | .error answer => (answer, w) := by
  rw [run, hread, Line.setting]
  dsimp only
  rcases line.config with _ | (_ | path)
  · exact run_runLine w line none environment
  · rfl
  · exact run_runLine w line path environment

/-- The only output without a configuration is that the configuration is wrong. -/
theorem exit_of_configuredBy_error {given : Option Path}
    (h : line.configuredBy w given environment = .error (.done o)) : o.exit = 2 := by
  unfold Line.configuredBy at h
  split at h
  · split at h
    · cases h
    · cases h
  · split at h
    · cases h
      rfl
    · cases h

theorem exit_of_setting_error (h : line.setting w environment = .error (.done o)) : o.exit = 2 := by
  unfold Line.setting at h
  split at h
  · cases h
  · exact exit_of_configuredBy_error h
  · exact exit_of_configuredBy_error h

/-! ### Builds of the sources -/

/-- Every source has its outcome. -/
theorem Builds.map_source {action : Action} (h : Builds c w w' found action outcomes) :
    outcomes.map (·.source) = found := by
  cases h with
  | generated built =>
    obtain ⟨_, hrun⟩ := Build.processAll_eq_ok_iff.1 built
    exact hrun.isBuilt.1
  | assembled built =>
    obtain ⟨-, later, _, w₁, hrun, hcomplete⟩ := Build.assemble_eq_ok_iff.1 built
    obtain ⟨rfl, -⟩ := Build.complete_eq_ok_iff.1 hcomplete
    exact hrun.isBuilt.1

/-- The exit code is zero exactly if no outcome is a failure. -/
theorem summary_exit_eq_zero_iff : (summary isVerbose outcomes).exit = 0 ↔
    ∀ outcome ∈ outcomes, outcome.isOk = true := by
  simp only [summary, ite_eq_left_iff, one_ne_zero, imp_false, not_not, List.isEmpty_iff,
    List.filterMap_eq_nil_iff]
  refine forall₂_congr fun outcome _ => ?_
  rw [Outcome.isOk]
  cases outcome.result with
  | ok p => simp
  | error e => simp

/-- Inputs are given, so that they are expanded and the configured sources do not count. -/
theorem sources_eq_collect (h : inputs ≠ []) : (sources c inputs : StateM Workspace _) = collect inputs := by
  rw [sources, if_neg (by simpa using h)]

/-- Collecting sources never ends in output. -/
theorem collect_ne_done (w : Workspace) (inputs : List (Option Path)) (o : Output) :
    (w.run (collect inputs)).1 ≠ .error (.done o) := by
  induction inputs with
  | nil => nofun
  | cons input rest ih =>
    cases input with
    | none => nofun
    | some path =>
      rw [run_collect_cons]
      cases (w.run (sourcesOf path)).1 with
      | error fault => nofun
      | ok found =>
        cases hrest : (w.run (collect rest)).1 with
        | error answer =>
          rintro ⟨⟩
          exact ih hrest
        | ok later => nofun

/-- A command that expands its inputs first exits with zero exactly if they stand for some sources, and what
it does with these exits with zero. -/
theorem exits_zero_iff {q : Except Answer (List Path) → StateM Workspace Answer} (hinputs : inputs ≠ [])
    (hanswer : ∀ answer, q (.error answer) = pure answer) (hnone : q (.ok []) = pure nothingFound) :
    (∃ o, w.run (sources c inputs >>= q) = (.done o, w') ∧ o.exit = 0) ↔
      ∃ found, Expands w inputs found ∧ found ≠ [] ∧
        ∃ o, w.run (q (.ok found)) = (.done o, w') ∧ o.exit = 0 := by
  rw [sources_eq_collect hinputs, (isQuery_collect inputs).run_bind]
  constructor
  · rintro ⟨o, h, hexit⟩
    rcases hcollect : (w.run (collect inputs)).1 with answer | (_ | ⟨first, rest⟩)
    · rw [hcollect, hanswer] at h
      cases h
      exact absurd hcollect (collect_ne_done _ _ _)
    · rw [hcollect, hnone] at h
      cases h
      cases hexit
    · rw [hcollect] at h
      exact ⟨first :: rest, collect_eq_ok_iff.1 hcollect, List.cons_ne_nil _ _, o, h, hexit⟩
  · rintro ⟨found, hexpands, -, h⟩
    rw [collect_eq_ok_iff.2 hexpands]
    exact h

/-- Generating exits with zero exactly if the inputs stand for some sources, and all of them are built. -/
theorem generate_exits_zero_iff (hinputs : inputs ≠ []) :
    (∃ o, w.run (generate c isVerbose inputs) = (.done o, w') ∧ o.exit = 0) ↔
      ∃ found, Expands w inputs found ∧ found ≠ [] ∧ ∃ outcomes,
        w.run (Build.generate c true found) = (.ok outcomes, w') ∧
        ∀ outcome ∈ outcomes, outcome.isOk = true := by
  rw [generate, exits_zero_iff hinputs (fun _ => rfl) rfl]
  refine exists_congr fun found => and_congr_right fun _ => and_congr_right fun hfound => ?_
  obtain ⟨first, rest, rfl⟩ := List.exists_cons_of_ne_nil hfound
  dsimp only
  rw [Workspace.run_bind]
  rcases w.run (Build.generate c true (first :: rest)) with ⟨fault | outcomes, w₁⟩
  · simp [Workspace.run_pure]
  · simp [Workspace.run_pure, summary_exit_eq_zero_iff]

/-- Building a module exits with zero exactly if the paths stand for some sources, and all of them are
built. -/
theorem assemble_exits_zero_iff {paths : List Path} (hpaths : paths.map some ≠ []) :
    (∃ o, w.run (assemble c isVerbose paths name) = (.done o, w') ∧ o.exit = 0) ↔
      ∃ found, Expands w (paths.map some) found ∧ found ≠ [] ∧ ∃ build,
        w.run (Build.assemble c true name found) = (.ok (.ok build), w') ∧
        ∀ outcome ∈ build.outcomes, outcome.isOk = true := by
  rw [assemble, exits_zero_iff hpaths (fun _ => rfl) rfl]
  refine exists_congr fun found => and_congr_right fun _ => and_congr_right fun hfound => ?_
  obtain ⟨first, rest, rfl⟩ := List.exists_cons_of_ne_nil hfound
  dsimp only
  rw [Workspace.run_bind]
  rcases w.run (Build.assemble c true name (first :: rest)) with ⟨fault | (e | build), w₁⟩
  · simp [Workspace.run_pure]
  · simp [Workspace.run_pure, misconfigured]
  · simp [Workspace.run_pure, summary_exit_eq_zero_iff]

theorem perform_exits_zero_iff (hinputs : line.action.inputs ≠ []) :
    (∃ o, w.run (perform line c) = (.done o, w') ∧ o.exit = 0) ↔
      ∃ found outcomes, Expands w line.action.inputs found ∧ found ≠ [] ∧
        Builds c w w' found line.action outcomes ∧ ∀ outcome ∈ outcomes, outcome.isOk = true := by
  rw [perform]
  cases haction : line.action with
  | generate inputs =>
    rw [haction] at hinputs
    refine (generate_exits_zero_iff hinputs).trans ?_
    constructor
    · rintro ⟨found, hexpands, hfound, outcomes, hbuild, hok⟩
      exact ⟨found, outcomes, hexpands, hfound, .generated hbuild, hok⟩
    · rintro ⟨found, outcomes, hexpands, hfound, hbuilds, hok⟩
      cases hbuilds with
      | generated hbuild => exact ⟨found, hexpands, hfound, outcomes, hbuild, hok⟩
  | assemble paths name =>
    rw [haction] at hinputs
    refine (assemble_exits_zero_iff hinputs).trans ?_
    constructor
    · rintro ⟨found, hexpands, hfound, build, hbuild, hok⟩
      exact ⟨found, build.outcomes, hexpands, hfound, .assembled hbuild, hok⟩
    · rintro ⟨found, _, hexpands, hfound, hbuilds, hok⟩
      cases hbuilds with
      | assembled hbuild => exact ⟨found, hexpands, hfound, _, hbuild, hok⟩
  | inspect source =>
    rw [haction] at hinputs
    exact absurd rfl hinputs

/-- A line with inputs exits with zero exactly if it has a configuration, its inputs stand for some sources,
and all of them are built. -/
theorem run_exits_zero_iff (hread : Line.read words = .ok line) (hinputs : line.action.inputs ≠ []) :
    (∃ o, w.run (run words environment) = (.done o, w') ∧ o.exit = 0) ↔
      ∃ c found outcomes, line.setting w environment = .ok c ∧ Expands w line.action.inputs found ∧
        found ≠ [] ∧ Builds c w w' found line.action outcomes ∧
        ∀ outcome ∈ outcomes, outcome.isOk = true := by
  rw [run_run hread]
  cases hsetting : line.setting w environment with
  | error answer =>
    constructor
    · rintro ⟨o, h, hexit⟩
      cases h
      rw [exit_of_setting_error hsetting] at hexit
      cases hexit
    · rintro ⟨c, _, _, hc, -⟩
      cases hc
  | ok c =>
    refine (perform_exits_zero_iff hinputs).trans ?_
    constructor
    · rintro ⟨found, outcomes, h⟩
      exact ⟨c, found, outcomes, rfl, h⟩
    · rintro ⟨_, found, outcomes, ⟨⟩, h⟩
      exact ⟨found, outcomes, h⟩

/-! ### Every path is accounted for -/

/-- A path that is named is accounted for by some outcomes: it is a file that has been built, or a directory
such that all the sources found below it have been built. -/
inductive Accounted (w : Workspace) (outcomes : List Outcome) (path : Path) : Prop
  | file (kind : w.files.kind? w.here path = .ok (some .file))
    (built : ∃ outcome ∈ outcomes, outcome.source = path ∧ outcome.isOk = true) : Accounted w outcomes path
  | directory {listed : List Path} (kind : w.files.kind? w.here path = .ok (some .directory))
    (finds : (w.run (Source.find path)).1 = .ok listed)
    (built : ∀ source ∈ listed, ∃ outcome ∈ outcomes, outcome.source = source ∧ outcome.isOk = true) :
    Accounted w outcomes path

/-- The inputs that stand for some sources are paths, and what has been done about all the sources accounts
for those at which something is. -/
theorem Expands.accounted (h : Expands w inputs found)
    (hbuilt : ∀ source ∈ found, ∃ outcome ∈ outcomes, outcome.source = source ∧ outcome.isOk = true) :
    ∀ input ∈ inputs, ∃ path, input = some path ∧
      (Accounted w outcomes path ∨ w.files.kind? w.here path = .ok none) := by
  induction h with
  | nil => simp
  | @file path inputs found kind next ih =>
    obtain ⟨hfirst, hrest⟩ := List.forall_mem_cons.1 hbuilt
    exact List.forall_mem_cons.2 ⟨⟨path, rfl, .inl (.file kind hfirst)⟩, ih hrest⟩
  | @directory path inputs listed found kind finds next ih =>
    obtain ⟨hlisted, hrest⟩ := List.forall_mem_append.1 hbuilt
    exact List.forall_mem_cons.2 ⟨⟨path, rfl, .inl (.directory kind finds hlisted)⟩, ih hrest⟩
  | @absent path inputs found kind next ih =>
    exact List.forall_mem_cons.2 ⟨⟨path, rfl, .inr kind⟩, ih hbuilt⟩

/-- Nothing at any of the paths, no sources. -/
theorem Expands.eq_nil (h : Expands w inputs found)
    (habsent : ∀ path, some path ∈ inputs → w.files.kind? w.here path = .ok none) : found = [] := by
  induction h with
  | nil => rfl
  | file kind | directory kind =>
    rw [habsent _ List.mem_cons_self] at kind
    cases kind
  | absent _ _ ih => exact ih fun path hpath => habsent path (List.mem_cons_of_mem _ hpath)

/-! ### Paths at which nothing is -/

/-- Is something at the path, or does asking for it fail? -/
def holds (w : Workspace) (path : Path) : Bool :=
  match w.files.kind? w.here path with
  | .ok none => false
  | _ => true

theorem holds_eq_false_iff : holds w path = false ↔ w.files.kind? w.here path = .ok none := by
  rw [holds]
  split
  · next h => simp [h]
  · next h => simpa using h

/-- The action without the paths that do not count. -/
def Action.keeping (counts : Path → Bool) : Action → Action
  | .generate inputs => .generate (inputs.filter fun input => input.all counts)
  | .assemble paths name => .assemble (paths.filter counts) name
  | .inspect source => .inspect source

/-- The line without the paths that do not count. -/
def Line.keeping (counts : Path → Bool) (line : Line) : Line :=
  { line with action := line.action.keeping counts }

theorem Line.setting_keeping (w : Workspace) (counts : Path → Bool) (line : Line)
    (environment : Option String) : (line.keeping counts).setting w environment = line.setting w environment :=
  rfl

/-- What is collected does not depend on paths at which nothing is. -/
theorem run_collect_filter (w : Workspace) (inputs : List (Option Path)) :
    w.run (collect (inputs.filter fun input => input.all (holds w))) = w.run (collect inputs) := by
  rw [(isQuery_collect _).run_eq, (isQuery_collect inputs).run_eq]
  congr 1
  -- only the answers are left to compare, as collecting leaves the workspace alone
  induction inputs with
  | nil => rfl
  | cons input rest ih =>
    cases input with
    | none => rfl
    | some path =>
      rw [List.filter_cons, Option.all_some]
      cases hholds : holds w path with
      | false => rw [if_neg Bool.false_ne_true, run_collect_absent (holds_eq_false_iff.1 hholds), ih]
      | true => rw [if_pos rfl, run_collect_cons, run_collect_cons, ih]

/-- What a line does with sources does not depend on paths at which nothing is, as long as there is another
one. -/
theorem run_sources_filter {p : Option Path → Bool} {q : Except Answer (List Path) → StateM Workspace β}
    (hp : p = fun input => input.all (holds w)) (hkept : inputs.filter p ≠ []) :
    w.run (sources c (inputs.filter p) >>= q) = w.run (sources c inputs >>= q) := by
  have hinputs : inputs ≠ [] := fun hnil => hkept (by rw [hnil, List.filter_nil])
  rw [sources_eq_collect hkept, sources_eq_collect hinputs, Workspace.run_bind, Workspace.run_bind, hp,
    run_collect_filter]

theorem run_perform_keeping (hkept : (line.keeping (holds w)).action.inputs ≠ []) :
    w.run (perform (line.keeping (holds w)) c) = w.run (perform line c) := by
  rw [Line.keeping, perform, perform]
  rw [Line.keeping] at hkept
  cases haction : line.action with
  | generate inputs =>
    rw [haction] at hkept
    exact run_sources_filter rfl hkept
  | assemble paths name =>
    rw [haction] at hkept
    have hpaths : (paths.filter (holds w)).map some =
        (paths.map some).filter fun input => input.all (holds w) := by
      rw [List.filter_map]
      rfl
    rw [Action.keeping, Action.inputs, hpaths] at hkept
    simp only [Action.keeping, assemble, hpaths]
    exact run_sources_filter rfl hkept
  | inspect source => rfl

/-! ### Lines with inputs -/

/-- A line with inputs. It exits with zero exactly if it has a configuration, its inputs are paths that stand
for some sources, and the outcomes, which are those of the sources, are all good; this accounts for every
path, unless nothing is there. If nothing is at any of them, the line does not exit with zero; otherwise it
does the same without the paths at which nothing is. -/
theorem run_accounts_for_inputs (w : Workspace) (environment : Option String)
    (hread : Line.read words = .ok line) (hinputs : line.action.inputs ≠ []) :
    (∀ w', (∃ o, w.run (run words environment) = (.done o, w') ∧ o.exit = 0) ↔
      ∃ c found outcomes, line.setting w environment = .ok c ∧ Expands w line.action.inputs found ∧
        found ≠ [] ∧ Builds c w w' found line.action outcomes ∧ outcomes.map (·.source) = found ∧
        (∀ outcome ∈ outcomes, outcome.isOk = true) ∧
        ∀ input ∈ line.action.inputs, ∃ path, input = some path ∧
          (Accounted w outcomes path ∨ w.files.kind? w.here path = .ok none)) ∧
    ((∀ path, some path ∈ line.action.inputs → w.files.kind? w.here path = .ok none) →
      ∀ o w', w.run (run words environment) = (.done o, w') → o.exit ≠ 0) ∧
    ∀ words', Line.read words' = .ok (line.keeping (holds w)) →
      (line.keeping (holds w)).action.inputs ≠ [] →
      w.run (run words' environment) = w.run (run words environment) := by
  refine ⟨fun w' => ⟨fun h => ?_, fun h => ?_⟩, fun habsent o w' hrun hexit => ?_, fun words' hread' hkept => ?_⟩
  · obtain ⟨c, found, outcomes, hsetting, hexpands, hfound, hbuilds, hok⟩ :=
      (run_exits_zero_iff hread hinputs).1 h
    -- every source that is found has an outcome, and no outcome is a failure
    have hsources := hbuilds.map_source
    refine ⟨c, found, outcomes, hsetting, hexpands, hfound, hbuilds, hsources, hok,
      hexpands.accounted fun source hsource => ?_⟩
    rw [← hsources] at hsource
    obtain ⟨outcome, hmem, rfl⟩ := List.mem_map.1 hsource
    exact ⟨outcome, hmem, rfl, hok outcome hmem⟩
  · obtain ⟨c, found, outcomes, hsetting, hexpands, hfound, hbuilds, -, hok, -⟩ := h
    exact (run_exits_zero_iff hread hinputs).2 ⟨c, found, outcomes, hsetting, hexpands, hfound, hbuilds, hok⟩
  · obtain ⟨_, found, _, -, hexpands, hfound, -⟩ := (run_exits_zero_iff hread hinputs).1 ⟨o, hrun, hexit⟩
    exact hfound (hexpands.eq_nil habsent)
  · rw [run_run hread, run_run hread', Line.setting_keeping]
    cases line.setting w environment with
    | error answer => rfl
    | ok c => exact run_perform_keeping hkept

/-- A directory and a file are accounted for, and what is not there makes no difference. -/
theorem run_accounts_for_inputs_of_two :
    ∃ (w w' : Workspace) (line : Line) (o : Output) (outcomes : List Outcome),
      Line.read ["generate", "-i", "src", "-i", "foo.cpp", "-i", "gone.cpp"] = .ok line ∧
      w.run (run ["generate", "-i", "src", "-i", "foo.cpp", "-i", "gone.cpp"] none) = (.done o, w') ∧
      o.exit = 0 ∧ Accounted w outcomes ⟨.relative, ["src"]⟩ ∧ Accounted w outcomes ⟨.relative, ["foo.cpp"]⟩ ∧
      w.run (run ["generate", "-i", "src", "-i", "foo.cpp"] none) = (.done o, w') := by
  obtain ⟨w, hw⟩ : ∃ w : Workspace, w = { here := [], files := ⟨[
      (["foo.cpp"], .file (Text.Utf8.encode "npe_function(f)npe_begin_code()npe_end_code()")),
      (["src"], .directory),
      (["src", "bar.cpp"], .file (Text.Utf8.encode "npe_function(g)npe_begin_code()npe_end_code()"))]⟩ } :=
    ⟨_, rfl⟩
  obtain ⟨src, hsrc⟩ : ∃ path : Path, path = ⟨.relative, ["src"]⟩ := ⟨_, rfl⟩
  obtain ⟨foo, hfoo⟩ : ∃ path : Path, path = ⟨.relative, ["foo.cpp"]⟩ := ⟨_, rfl⟩
  obtain ⟨line, hline⟩ : ∃ line : Line, line = ⟨none, false, false, none, none,
      .generate [some src, some foo, some ⟨.relative, ["gone.cpp"]⟩]⟩ := ⟨_, rfl⟩
  obtain ⟨hread, hread', hkept, hkinds, hexit⟩ :
      Line.read ["generate", "-i", "src", "-i", "foo.cpp", "-i", "gone.cpp"] = .ok line ∧
      Line.read ["generate", "-i", "src", "-i", "foo.cpp"] = .ok (line.keeping (holds w)) ∧
      (line.keeping (holds w)).action.inputs ≠ [] ∧
      (w.files.kind? w.here src = .ok (some .directory) ∧ w.files.kind? w.here foo = .ok (some .file)) ∧
      (match (w.run (run ["generate", "-i", "src", "-i", "foo.cpp", "-i", "gone.cpp"] none)).1 with
        | .done o => some o.exit
        | _ => none) = some 0 := by
    rw [hw, hline, hsrc, hfoo]
    decide +kernel
  have hinputs : line.action.inputs ≠ [] := by
    rw [hline]
    exact List.cons_ne_nil _ _
  obtain ⟨hiff, -, hwithout⟩ := run_accounts_for_inputs w none hread hinputs
  rcases hrun : w.run (run ["generate", "-i", "src", "-i", "foo.cpp", "-i", "gone.cpp"] none) with ⟨answer, w'⟩
  rw [hrun] at hexit
  cases answer with
  | done o =>
    have hzero : o.exit = 0 := Option.some.inj hexit
    obtain ⟨_, _, outcomes, -, -, -, -, -, -, hpaths⟩ := (hiff w').1 ⟨o, hrun, hzero⟩
    have haccounted : ∀ path, some path ∈ line.action.inputs → w.files.kind? w.here path ≠ .ok none →
        Accounted w outcomes path := by
      intro path hpath hthere
      obtain ⟨_, ⟨⟩, h⟩ := hpaths _ hpath
      exact h.resolve_right hthere
    rw [← hsrc, ← hfoo]
    refine ⟨w, w', line, o, outcomes, hread, hrun, hzero, haccounted src ?_ ?_, haccounted foo ?_ ?_, ?_⟩
    · simp [hline, Action.inputs]
    · simp [hkinds.1]
    · simp [hline, Action.inputs]
    · simp [hkinds.2]
    · rw [hwithout _ hread' hkept, hrun]
  | usage | help | unloaded e | broken fault | pathless => cases hexit

/-- A path at which nothing is does not count beside a source that is built: both commands exit with zero,
although they have been given the path. -/
theorem run_passes_over_absent :
    ∃ (w : Workspace) (path : Path), IsTree w.files ∧ w.files.kind? w.here path = .ok none ∧
      ∀ words ∈ [["generate", "-i", "foo.cpp", "-i", "missing.cpp"], ["module", "foo.cpp", "missing.cpp"]],
        ∃ line o w', Line.read words = .ok line ∧ some path ∈ line.action.inputs ∧
          w.run (run words none) = (.done o, w') ∧ o.exit = 0 := by
  obtain ⟨w, hw⟩ : ∃ w : Workspace, w = { here := [], files := ⟨[
      (["foo.cpp"], .file (Text.Utf8.encode "npe_function(f)npe_begin_code()npe_end_code()"))]⟩ } := ⟨_, rfl⟩
  obtain ⟨path, hpath⟩ : ∃ path : Path, path = ⟨.relative, ["missing.cpp"]⟩ := ⟨_, rfl⟩
  obtain ⟨hnodes, hkind, hwords⟩ :
      (∀ p ∈ w.files.nodes, w.files.node? p.1.dropLast = some .directory) ∧
      w.files.kind? w.here path = .ok none ∧
      ∀ words ∈ [["generate", "-i", "foo.cpp", "-i", "missing.cpp"], ["module", "foo.cpp", "missing.cpp"]],
        (Line.read words).toOption.map (fun line => decide (some path ∈ line.action.inputs)) = some true ∧
        (match (w.run (run words none)).1 with
          | .done o => some o.exit
          | _ => none) = some 0 := by
    rw [hw, hpath]
    decide +kernel
  refine ⟨w, path, isTree_of_nodes hnodes, hkind, fun words hmem => ?_⟩
  obtain ⟨hread, hexit⟩ := hwords words hmem
  cases hline : Line.read words with
  | error fault =>
    rw [hline] at hread
    cases hread
  | ok line =>
    rw [hline] at hread
    rcases hrun : w.run (run words none) with ⟨answer, w'⟩
    rw [hrun] at hexit
    cases answer with
    | done o => exact ⟨line, o, w', rfl, of_decide_eq_true (Option.some.inj hread), rfl, Option.some.inj hexit⟩
    | usage | help | unloaded e | broken fault | pathless => cases hexit

end Command

end Monomorph
