import Mathlib.Data.List.TakeWhile
import Monomorph.Proofs.Build.Notices
import Monomorph.Proofs.Scan.Draft

/-!
Products. The artifacts of a function go to paths that end differently, so they never collide with each
other or with the fragment of a module, whatever the source is called. A source that is built keeps the
name of its function and its documentation, and the name can be bound.
-/

namespace Monomorph

/-! ### Paths with an ending -/

namespace Path

variable {s e : List Char}

/-- A text without a slash is one part. -/
theorem splitSlashes_of_not_mem (he : '/' ∉ e) : splitSlashes e = [e] := by
  induction e with
  | nil => rfl
  | cons c e ih =>
    obtain ⟨hc, he⟩ := not_or.1 (fun h => he (List.mem_cons.2 h))
    have hne : (c == '/') = false := by simpa using fun h => hc h.symm
    rw [splitSlashes, ih he]
    simp [hne]

/-- A text without a slash names a path of one component, unless it is empty or a dot. -/
theorem ofString_of_not_mem {s : String} (hslash : '/' ∉ s.toList) (hempty : s ≠ "") (hdot : s ≠ ".") :
    ofString s = ⟨.relative, [s]⟩ := by
  have hroot : (s.toList.takeWhile (· == '/')).length = 0 := by
    rw [List.length_eq_zero_iff, List.takeWhile_eq_nil_iff]
    intro hpos hfirst
    exact hslash (beq_iff_eq.1 hfirst ▸ List.get_mem _ _)
  simp only [ofString, hroot, if_true, splitSlashes_of_not_mem hslash, List.map_singleton,
    String.ofList_toList]
  rw [List.filter_cons_of_pos (by simp [hempty, hdot]), List.filter_nil]

/-- Without a slash in it an ending stays in the last part of a text. -/
theorem exists_splitSlashes_append (he : '/' ∉ e) :
    ∃ init last, splitSlashes (s ++ e) = init ++ [last ++ e] := by
  induction s with
  | nil => exact ⟨[], [], splitSlashes_of_not_mem he⟩
  | cons c s ih =>
    obtain ⟨init, last, hs⟩ := ih
    rw [List.cons_append, splitSlashes, hs]
    split
    · exact ⟨[] :: init, last, rfl⟩
    · cases init with
      | nil => exact ⟨[], c :: last, rfl⟩
      | cons p init => exact ⟨(c :: p) :: init, last, rfl⟩

/-- A text with an ending names a path whose last component has this ending. -/
theorem exists_parts_ofString {s e : String} (he : '/' ∉ e.toList) (hlong : 2 ≤ e.toList.length) :
    ∃ init last, (ofString (s ++ e)).parts = init ++ [last] ∧ e.toList <:+ last.toList := by
  obtain ⟨init, last, hsplit⟩ := exists_splitSlashes_append (s := s.toList) he
  have hkept : (String.ofList (last ++ e.toList) != "" && String.ofList (last ++ e.toList) != ".") =
      true := by
    have hlength : ∀ t : String, t.toList.length ≤ 1 → (String.ofList (last ++ e.toList) != t) = true := by
      intro t ht
      rw [bne_iff_ne]
      rintro rfl
      rw [String.toList_ofList, List.length_append] at ht
      omega
    rw [hlength "" (by decide), hlength "." (by decide)]
    rfl
  refine ⟨(init.map String.ofList).filter fun p => p != "" && p != ".",
    String.ofList (last ++ e.toList), ?_, ?_⟩
  · simp only [ofString, String.toList_append, hsplit, List.map_append, List.map_singleton,
      List.filter_append, List.filter_singleton, hkept, cond_true]
  · rw [String.toList_ofList]
    exact List.suffix_append last e.toList

end Path

namespace Artifact

/-- The endings of generated files. -/
def endings : List String := [".npe.cpp", ".pyi", ".npe.json", "_module.cpp"]

variable {c : Config} {f : ExpandedFunction} {artifacts : List Artifact} {e e' : String} {p : Path}

/-- Does the last component of a path end like this? -/
def HasEnding (p : Path) (e : String) : Prop :=
  ∃ init last, p.parts = init ++ [last] ∧ e.toList <:+ last.toList

theorem hasEnding_append (output : Path) {s : String} (he : e ∈ endings) :
    HasEnding (output.append (Path.ofString (s ++ e))) e := by
  have hall : ∀ e ∈ endings, '/' ∉ e.toList ∧ 2 ≤ e.toList.length := by decide
  obtain ⟨init, last, hparts, hlast⟩ := Path.exists_parts_ofString (s := s) (hall e he).1 (hall e he).2
  unfold Path.append
  split
  · exact ⟨init, last, hparts, hlast⟩
  · exact ⟨output.parts ++ init, last, by simp [hparts], hlast⟩

/-- A path has one of the endings only. -/
theorem HasEnding.unique (h : HasEnding p e) (h' : HasEnding p e') (he : e ∈ endings)
    (he' : e' ∈ endings) : e = e' := by
  obtain ⟨init, last, hparts, hlast⟩ := h
  obtain ⟨init', last', hparts', hlast'⟩ := h'
  obtain ⟨-, hsame⟩ := List.append_inj' (hparts.symm.trans hparts') rfl
  obtain rfl : last = last' := by simpa using hsame
  have hall : ∀ e ∈ endings, ∀ e' ∈ endings, e.toList <:+ e'.toList → e = e' := by decide
  rcases List.suffix_or_suffix_of_suffix hlast hlast' with h | h
  · exact hall e he e' he' h
  · exact (hall e' he' e he h).symm

theorem path_of_native {a : Artifact} (h : native c f = .ok a) : a.path = pathFor c f ".npe.cpp" := by
  unfold native at h
  cases hof : Emission.Native.of f with
  | error e => simp [hof, bind, Except.bind] at h
  | ok n =>
    simp only [hof, bind, Except.bind, pure, Except.pure, Except.ok.injEq] at h
    rw [← h]

theorem path_of_stub {a : Artifact} (h : stub c f = .ok a) : a.path = pathFor c f ".pyi" := by
  unfold stub at h
  cases hof : Emission.Stub.of f with
  | error e => simp [hof, bind, Except.bind] at h
  | ok s =>
    simp only [hof, bind, Except.bind, pure, Except.pure, Except.ok.injEq] at h
    rw [← h]

/-- The artifacts of a function have three of the endings, each at most once. -/
theorem exists_endings_of_all (h : Artifact.all c f = .ok artifacts) :
    ∃ es : List String, es.Sublist [".npe.cpp", ".pyi", ".npe.json"] ∧
      artifacts.map (·.path) = es.map (pathFor c f) := by
  obtain ⟨manifests, hmanifests⟩ : ∃ manifests : List Artifact,
      manifests = if c.emitManifest.isTrue then [manifest c f] else [] := ⟨_, rfl⟩
  obtain ⟨es, hes, hpaths⟩ : ∃ es : List String, es.Sublist [".npe.json"] ∧
      manifests.map (·.path) = es.map (pathFor c f) := by
    rw [hmanifests]
    split
    · exact ⟨[".npe.json"], .refl _, rfl⟩
    · exact ⟨[], List.nil_sublist _, rfl⟩
  unfold Artifact.all at h
  cases hnative : native c f with
  | error e => simp [hnative, bind, Except.bind] at h
  | ok n =>
    cases hstubs : c.emitStubs.isTrue with
    | false =>
      simp only [hnative, hstubs, ← hmanifests, bind, Except.bind, pure, Except.pure,
        Bool.false_eq_true, if_false, Except.ok.injEq, List.cons_append, List.nil_append] at h
      refine ⟨".npe.cpp" :: es, (hes.trans (List.sublist_cons_self _ _)).cons_cons _, ?_⟩
      rw [← h, List.map_cons, List.map_cons, hpaths, path_of_native hnative]
    | true =>
      cases hstub : stub c f with
      | error e => simp [hnative, hstubs, hstub, bind, Except.bind] at h
      | ok st =>
        simp only [hnative, hstubs, hstub, ← hmanifests, bind, Except.bind, pure, Except.pure, if_true,
          Except.ok.injEq, List.cons_append, List.nil_append] at h
        refine ⟨".npe.cpp" :: ".pyi" :: es, (hes.cons_cons _).cons_cons _, ?_⟩
        rw [← h]
        simp only [List.map_cons, hpaths, path_of_native hnative, path_of_stub hstub]

theorem hasEnding_of_all (h : Artifact.all c f = .ok artifacts) {a : Artifact} (ha : a ∈ artifacts) :
    ∃ e ∈ [".npe.cpp", ".pyi", ".npe.json"], a.path = pathFor c f e ∧ HasEnding a.path e := by
  obtain ⟨es, hes, hpaths⟩ := exists_endings_of_all h
  have hpath : a.path ∈ artifacts.map (·.path) := List.mem_map_of_mem ha
  rw [hpaths] at hpath
  obtain ⟨e, he, heq⟩ := List.mem_map.1 hpath
  have hall : ∀ e ∈ [".npe.cpp", ".pyi", ".npe.json"], e ∈ endings := by decide
  exact ⟨e, hes.subset he, heq.symm, heq ▸ hasEnding_append c.output (hall e (hes.subset he))⟩

/-- No two artifacts of a function go to the same path. -/
theorem nodup_paths_of_all (h : Artifact.all c f = .ok artifacts) : (artifacts.map (·.path)).Nodup := by
  obtain ⟨es, hes, hpaths⟩ := exists_endings_of_all h
  have hall : ∀ e ∈ [".npe.cpp", ".pyi", ".npe.json"], e ∈ endings := by decide
  rw [hpaths]
  refine (hes.nodup (by decide)).map_on fun e he e' he' heq => ?_
  have hsame : HasEnding (pathFor c f e) e' := by
    rw [heq]
    exact hasEnding_append c.output (hall e' (hes.subset he'))
  exact (hasEnding_append c.output (hall e (hes.subset he))).unique hsame (hall e (hes.subset he))
    (hall e' (hes.subset he'))

/-- The fragment of a module goes to another path than the artifacts of a function. -/
theorem path_ne_fragment_of_all (h : Artifact.all c f = .ok artifacts) {a : Artifact} (ha : a ∈ artifacts)
    (name : String) (fs : List ExpandedFunction) : a.path ≠ (moduleFragment c name fs).path := by
  obtain ⟨e, he, -, hending⟩ := hasEnding_of_all h ha
  intro heq
  rw [heq] at hending
  have hfragment : HasEnding (moduleFragment c name fs).path "_module.cpp" :=
    hasEnding_append c.output (by decide)
  have hall : ∀ e ∈ [".npe.cpp", ".pyi", ".npe.json"], e ∈ endings ∧ e ≠ "_module.cpp" := by decide
  exact (hall e he).2 (hending.unique hfragment (hall e he).1 (by decide))

/-- A file that is rendered under a configuration: an artifact of a function, or the fragment of a module.
There is no slash in what it is called after. -/
inductive IsRendered (c : Config) : Artifact → Prop
  | ofFunction {f : ExpandedFunction} {artifacts : List Artifact} {a : Artifact}
      (h : Artifact.all c f = .ok artifacts) (ha : a ∈ artifacts)
      (hstem : '/' ∉ f.declaration.stem.toList) : IsRendered c a
  | fragment {name : String} (fs : List ExpandedFunction) (hname : '/' ∉ name.toList) :
      IsRendered c (moduleFragment c name fs)

theorem append_ofString {s : String} (hslash : '/' ∉ s.toList) (he : e ∈ endings) (output : Path) :
    output.append (Path.ofString (s ++ e)) = output.child (s ++ e) := by
  have hall : ∀ e ∈ endings, '/' ∉ e.toList ∧ 2 ≤ e.toList.length := by decide
  obtain ⟨hending, hlong⟩ := hall e he
  have hne : ∀ t : String, t.toList.length ≤ 1 → s ++ e ≠ t := by
    rintro t ht rfl
    rw [String.toList_append, List.length_append] at ht
    omega
  rw [Path.ofString_of_not_mem _ (hne "" (by decide)) (hne "." (by decide))]
  · rfl
  · rw [String.toList_append, List.mem_append]
    exact not_or.2 ⟨hslash, hending⟩

/-- A rendered file goes right into the output directory. -/
theorem IsRendered.exists_path {a : Artifact} (h : a.IsRendered c) :
    ∃ s, ∃ e ∈ endings, a.path = c.output.child (s ++ e) := by
  cases h with
  | @ofFunction f artifacts a h ha hstem =>
    obtain ⟨e, he, hpath, -⟩ := hasEnding_of_all h ha
    have hall : ∀ e ∈ [".npe.cpp", ".pyi", ".npe.json"], e ∈ endings := by decide
    exact ⟨f.declaration.stem, e, hall e he, hpath.trans (append_ofString hstem (hall e he) c.output)⟩
  | @fragment name fs hname =>
    have he : "_module.cpp" ∈ endings := by decide
    exact ⟨name, "_module.cpp", he, append_ofString hname he c.output⟩

end Artifact

/-! ### Products -/

/-- The function that a declaration is expanded to differs from it in the arguments only. -/
theorem Build.exists_arguments_of_expanded {c : Config} {d : Declaration} {f : ExpandedFunction}
    (h : Build.expanded c d = .ok f) : ∃ arguments, f.declaration = { d with arguments } := by
  unfold Build.expanded Declaration.resolve at h
  cases hargs : Resolution.arguments Registry.standard d.names [] d.arguments with
  | error e =>
    rw [hargs] at h
    cases h
  | ok args =>
    rw [hargs] at h
    change (Except.mapError _ (Declaration.expand { d with arguments := args } c.limit)).bind _ = _ at h
    cases htable : ({ d with arguments := args } : Declaration).expand c.limit with
    | error e =>
      rw [htable] at h
      cases h
    | ok table =>
      rw [htable] at h
      cases h
      exact ⟨args, rfl⟩

/-- The function that a declaration is expanded to keeps its name and its documentation. -/
theorem Build.name_and_doc_of_expanded {c : Config} {d : Declaration} {f : ExpandedFunction}
    (h : Build.expanded c d = .ok f) :
    f.declaration.name = d.name ∧ f.declaration.doc = d.doc := by
  obtain ⟨arguments, hdeclaration⟩ := Build.exists_arguments_of_expanded h
  exact ⟨by rw [hdeclaration], by rw [hdeclaration]⟩

/-- Without arguments there is nothing to resolve, and one combination. -/
theorem Build.exists_expanded_of_arguments {d : Declaration} (h : d.arguments = []) (root : Path) :
    ∃ f, Build.expanded { projectRoot := root } d = .ok f := by
  obtain ⟨⟩ := d
  subst h
  exact ⟨_, rfl⟩

/-- A product has the artifacts of its function, and the name of the function can be bound. -/
structure Product.IsBuilt (c : Config) (p : Product) : Prop where
  artifacts : Artifact.all c p.function = .ok p.artifacts
  name : Text.isBindingName p.function.name = true

theorem Build.exists_scan_of_expandText {c : Config} {source : Path} {text : String} {w : Workspace}
    {f : ExpandedFunction} (h : (w.run (Build.expandText c source text)).1 = .ok f) :
    ∃ s, scan text (some source) = .ok s ∧ Build.expanded c s.declaration = .ok f := by
  unfold Build.expandText at h
  split at h
  · cases h
  · next s hscan =>
    rw [Workspace.run_bind] at h
    split at h
    · cases h
    · next f' hexpanded =>
      rw [Workspace.run_bind] at h
      cases h
      exact ⟨s, hscan, hexpanded⟩

/-- A file that holds a text gives the text with every line end made a newline. -/
theorem Source.ofContent_encode (s : String) : Source.ofContent (.ok (Text.Utf8.encode s)) =
    .ok (String.ofList (Text.unixNewlinesOf s.toList)) := by
  rw [Source.ofContent, Text.Utf8.decode_encode]

/-- What is prepared from a source is a function that has been scanned from its text and expanded, with
its artifacts. -/
theorem Build.exists_scan_of_prepare {c : Config} {source : Path} {w : Workspace} {p : Product}
    (h : (w.run (Build.prepare c source)).1 = .ok (.ok p)) :
    ∃ text s, Source.ofContent (w.files.read w.here source) = .ok text ∧
      scan text (some source) = .ok s ∧ Build.expanded c s.declaration = .ok p.function ∧
      Artifact.all c p.function = .ok p.artifacts := by
  unfold Build.prepare Build.expandFile at h
  rw [Workspace.run_bind, Workspace.run_pure, Workspace.run_bind] at h
  split at h
  · cases h
  · cases h
  · next text hread =>
    rw [Workspace.run_bind, Workspace.run_pure] at h
    cases hexpand : (Workspace.run _ (Build.expandText c source text)).1 with
    | error e => rw [hexpand] at h; cases h
    | ok f =>
      simp only [hexpand, Except.map, bind, Except.bind] at h
      cases hall : Artifact.all c f with
      | error e =>
        rw [hall] at h
        cases h
      | ok artifacts =>
        rw [hall] at h
        cases h
        obtain ⟨s, hscan, hexpanded⟩ := Build.exists_scan_of_expandText hexpand
        exact ⟨text, s, hread, hscan, hexpanded, hall⟩

/-- The name of a function that is scanned and expanded can be bound. -/
theorem Build.isBindingName_of_expanded {c : Config} {text : String} {path : Option Path} {s : Scanned}
    {f : ExpandedFunction} (h : scan text path = .ok s) (hf : Build.expanded c s.declaration = .ok f) :
    Text.isBindingName f.name = true := by
  rw [ExpandedFunction.name, (Build.name_and_doc_of_expanded hf).1]
  exact Scan.isBindingName_function_of_scan h

/-- What is prepared from a source is such a product. -/
theorem Build.isBuilt_of_prepare {c : Config} {source : Path} {w : Workspace} {p : Product}
    (h : (w.run (Build.prepare c source)).1 = .ok (.ok p)) : p.IsBuilt c := by
  obtain ⟨text, s, -, hscan, hexpanded, hall⟩ := Build.exists_scan_of_prepare h
  exact ⟨hall, Build.isBindingName_of_expanded hscan hexpanded⟩

end Monomorph
