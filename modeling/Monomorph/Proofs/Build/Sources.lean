import Monomorph.Proofs.Build.Frame
import Monomorph.Proofs.Build.Repetition
import Monomorph.Proofs.FileSystem.Listing
import Monomorph.Source

/-!
The sources that a build finds. No output counts as a source, wherever it is written, so that after a build
the same sources are found as before it, and each of them reads the same.
-/

namespace Monomorph

open FileSystem

namespace Source

variable {names : List String} {name : String}

/-- No artifact counts as a source, nor does a temporary file. -/
theorem admits_eq_false (h : Build.IsOutputName name) : Rule.admits {} (names ++ [name]) = false := by
  have hname : (⟨.relative, names ++ [name]⟩ : Path).name = name := by
    rw [Path.name, List.getLast?_concat]
    rfl
  -- the endings of outputs are generated ones, or do not go with those of sources
  have hendings : ∀ s ∈ ({} : Rule).suffixes, ∀ e ∈ Artifact.endings,
      (e ∈ generatedEndings ∨ ¬ s.toList <:+ e.toList ∧ ¬ e.toList <:+ s.toList) ∧
      ¬ s.toList <:+ (e ++ Build.temporaryEnding).toList ∧
      ¬ (e ++ Build.temporaryEnding).toList <:+ s.toList := by decide
  by_contra hadmits
  rw [Bool.not_eq_false, Rule.admits] at hadmits
  simp only [Bool.and_eq_true, List.contains_iff_mem, Bool.not_eq_true', List.any_eq_false] at hadmits
  obtain ⟨⟨hsuffix, -⟩, hgenerated⟩ := hadmits
  have htail : (⟨.relative, names ++ [name]⟩ : Path).suffix.toList <:+ name.toList := by
    unfold Path.suffix
    rw [hname]
    dsimp only
    split
    · rw [String.toList_ofList]
      exact List.drop_suffix _ _
    · exact List.nil_suffix
  obtain ⟨e, he, hending⟩ := h
  obtain ⟨hplain, htemporary⟩ := hendings _ hsuffix e he
  rcases hending with hending | hending
  · rcases hplain with hmem | hplain
    · refine hgenerated e hmem ?_
      rw [hname, Text.endsWith, List.isSuffixOf_iff_suffix]
      exact hending
    · exact (List.suffix_or_suffix_of_suffix htail hending).elim hplain.1 hplain.2
  · exact (List.suffix_or_suffix_of_suffix htail hending).elim htemporary.1 htemporary.2

end Source

namespace Build

variable {c : Config} {w w' : Workspace} {directory source : Path} {sources : List Path}
  {written attempted : Artifact → Prop} {here : Place} {before after : FileSystem}

theorem Frame.settles (h : Frame c here before after written attempted) : Settles before after where
  directory _ := h.reached.node?_of_directory
  file q _ hfile := (h.accounted q).node?_ne_directory hfile

theorem run_find (w : Workspace) (directory : Path) : (w.run (Source.find directory)).1 =
    (w.files.below w.here directory).map fun files =>
      ((files.filter (Source.Rule.admits {})).map fun names =>
        (⟨directory.root, directory.parts ++ names⟩ : Path)).mergeSort Path.le := rfl

/-- After a build the same sources are found, unless the path of the directory strays. -/
theorem Frame.run_find (h : Frame c w.here w.files w'.files written attempted) (hhere : w'.here = w.here)
    (htree : IsTree w.files) (hstrays : ¬ Strays w.files (directory.start w.here) directory.parts)
    (hfind : (w.run (Source.find directory)).1 = .ok sources) :
    (w'.run (Source.find directory)).1 = .ok sources := by
  rw [Build.run_find] at hfind ⊢
  cases hbelow : w.files.below w.here directory with
  | error fault =>
    rw [hbelow] at hfind
    cases hfind
  | ok files =>
    obtain ⟨files', hbelow', hsame⟩ := h.settles.filter_below htree h.reached hstrays
      (fun _ _ hname => Source.admits_eq_false hname) hbelow
    rw [hbelow] at hfind
    rw [hhere, hbelow', ← hfind]
    simp only [Except.map, hsame]

/-- What is found is a proper path, and reads the same whatever outputs are written. -/
theorem isProper_and_steady_of_find (htree : IsTree w.files) (hnamed : Named w.files)
    (hproper : directory.IsProper) (hfind : (w.run (Source.find directory)).1 = .ok sources) :
    ∀ source ∈ sources, source.IsProper ∧ Steady w.here w.files source := by
  rw [run_find] at hfind
  cases hbelow : w.files.below w.here directory with
  | error fault =>
    rw [hbelow] at hfind
    cases hfind
  | ok files =>
    rw [hbelow] at hfind
    obtain rfl := Except.ok.inj hfind
    intro source hsource
    obtain ⟨names, hnames, rfl⟩ := List.mem_map.1 ((List.mergeSort_perm _ _).mem_iff.1 hsource)
    obtain ⟨hmem, hadmits⟩ := List.mem_filter.1 hnames
    obtain ⟨-, -, hslash, -⟩ := exists_of_mem_below hnamed hbelow hmem
    constructor
    · exact List.forall_mem_append.2 ⟨hproper, fun name hname => (hslash name hname).2⟩
    · intro fs' hreached
      refine hreached.read_listed htree hnamed hbelow hmem fun init name hsplit houtput => ?_
      rw [hsplit, Source.admits_eq_false houtput] at hadmits
      cases hadmits

end Build

end Monomorph
