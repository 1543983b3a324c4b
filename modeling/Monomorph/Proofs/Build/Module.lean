import Monomorph.Proofs.Build.Ledger
import Monomorph.Proofs.Emission.Fragment
import Monomorph.Proofs.Emission.Registration

/-!
Modules. The fragment of a module declares and calls the registrations of the sources that have a
product, which all have functions of their own and artifacts of their own; and a source that could have
been a part is left out only because of one that came before it.
-/

namespace Monomorph

/-- A ledger goes on from another one with at least what some outcomes hold, and nothing twice. -/
structure Ledger.Continues (l' l : Ledger) (outcomes : List Outcome) : Prop where
  names : ∃ more, l'.names = l.names ++ more ∧
    ((outcomes.filterMap (·.function?)).map (·.name)).Sublist more ∧ (l.names.Nodup → l'.names.Nodup)
  paths : ∃ more, l'.paths = l.paths ++ more ∧
    ((outcomes.flatMap (·.artifacts)).map (·.path)).Sublist more ∧ (l.paths.Nodup → l'.paths.Nodup)

namespace Build

open Emission

variable {c : Config} {write : Bool} {l l₁ l₂ : Ledger} {w w₁ : Workspace} {source : Path}
  {sources : List Path} {o : Outcome} {outcomes : List Outcome} {p : Product}


theorem Fate.continues (h : Fate c Ledger.define l w source o l₁ w₁) : l₁.Continues l [o] := by
  cases h with
  | rejected | refused =>
    exact ⟨⟨[], by simp, by simp [Outcome.function?], id⟩, [], by simp, by simp [Outcome.artifacts], id⟩
  | @entered p _ _ _ prepared enters same commits =>
    rcases l.define_cases source p with ⟨-, first, h⟩ | ⟨-, -, output, owner, h⟩ |
      ⟨hname, hpaths, l', h, hnames, houtputs⟩
    · rw [enters] at h
      cases h
    · rw [enters] at h
      cases h
    · obtain rfl : l₁ = l' := by
        rw [enters] at h
        exact Except.ok.inj h
      have hkept : (([o].filterMap (·.function?)).map (·.name)).Sublist [p.function.name] ∧
          (([o].flatMap (·.artifacts)).map (·.path)).Sublist (p.artifacts.map (·.path)) := by
        rcases commits with hok | ⟨target, fault, herror⟩
        · simp [Outcome.function?, Outcome.artifacts, hok]
        · simp [Outcome.function?, Outcome.artifacts, herror]
      refine ⟨⟨_, hnames, hkept.1, fun hl => ?_⟩, _, houtputs, hkept.2, fun hl => ?_⟩
      · rw [hnames]
        exact List.nodup_append.2 ⟨hl, by simp, fun a ha b hb => by
          rw [List.mem_singleton.1 hb]
          exact fun heq => hname (heq ▸ ha)⟩
      · have hown := Artifact.nodup_paths_of_all (isBuilt_of_prepare prepared).artifacts
        rw [houtputs]
        exact List.nodup_append.2 ⟨hl, hown, fun a ha b hb heq => by
          obtain ⟨artifact, hmem, rfl⟩ := List.mem_map.1 hb
          exact hpaths artifact hmem (heq ▸ ha)⟩

theorem Run.continues (h : Run c write Ledger.define l w sources outcomes l₁ w₁) :
    l₁.Continues l outcomes := by
  induction h with
  | nil => exact ⟨⟨[], by simp, by simp, id⟩, [], by simp, by simp, id⟩
  | @cons l l' l₁ w w' w₁ source rest o later step _ ih =>
    obtain ⟨⟨names, hnames, hkept, hnodup⟩, paths, hpaths, hkept', hnodup'⟩ :=
      (fate_of_processWith step).continues
    obtain ⟨⟨more, hmore, hlater, hnodupl⟩, outputs, houtputs, hlater', hnodupl'⟩ := ih
    refine ⟨⟨names ++ more, ?_, ?_, hnodupl ∘ hnodup⟩, paths ++ outputs, ?_, ?_, hnodupl' ∘ hnodup'⟩
    · rw [hmore, hnames, List.append_assoc]
    · rw [← List.singleton_append, List.filterMap_append, List.map_append]
      exact hkept.append hlater
    · rw [houtputs, hpaths, List.append_assoc]
    · rw [← List.singleton_append, List.flatMap_append, List.map_append]
      exact hkept'.append hlater'

/-- Every source has its outcome, and what has a product has been built. -/
theorem Run.isBuilt {enter : Ledger → Path → Product → Except BuildError Ledger}
    (h : Run c write enter l w sources outcomes l₁ w₁) :
    outcomes.map (·.source) = sources ∧ ∀ o ∈ outcomes, ∀ p, o.result = .ok p → p.IsBuilt c := by
  induction h with
  | nil => exact ⟨rfl, by simp⟩
  | @cons l l' l₁ w w' w₁ source rest o later step _ ih =>
    obtain ⟨hsources, hbuilt⟩ := ih
    have hone : o.source = source ∧ ∀ p, o.result = .ok p → p.IsBuilt c := by
      cases fate_of_processWith step with
      | rejected | refused => exact ⟨rfl, fun p h => by cases h⟩
      | entered prepared _ same commits =>
        refine ⟨same, fun p hp => ?_⟩
        rcases commits with hok | ⟨target, fault, herror⟩
        · rw [hok] at hp
          cases hp
          exact isBuilt_of_prepare prepared
        · rw [herror] at hp
          cases hp
    exact ⟨by rw [List.map_cons, hone.1, hsources], List.forall_mem_cons.2 ⟨hone.2, hbuilt⟩⟩

/-! ### Symbols -/

theorem append_left_injective (front : String) : Function.Injective (front ++ ·) := fun s t h => by
  have hchars := congrArg String.toList h
  simp only [String.toList_append] at hchars
  exact String.toList_inj.1 (List.append_cancel_left hchars)

/-- Functions with different names have different symbols. -/
theorem nodup_symbols {fs : List ExpandedFunction} (h : (fs.map (·.name)).Nodup) :
    (fs.map (·.dispatcherSymbol) ++ fs.map (·.registerSymbol)).Nodup := by
  have hdispatch : fs.map (·.dispatcherSymbol) = (fs.map (·.name)).map ("npe_dispatch_" ++ ·) := by
    rw [List.map_map]
    rfl
  have hregister : fs.map (·.registerSymbol) = (fs.map (·.name)).map ("npe_register_" ++ ·) := by
    rw [List.map_map]
    rfl
  rw [hdispatch, hregister]
  refine List.nodup_append.2 ⟨h.map (append_left_injective _), h.map (append_left_injective _), ?_⟩
  intro a ha b hb heq
  obtain ⟨m, -, rfl⟩ := List.mem_map.1 ha
  obtain ⟨n, -, rfl⟩ := List.mem_map.1 hb
  have hchars := congrArg String.toList heq
  simp only [String.toList_append] at hchars
  exact absurd (List.append_inj_left hchars (by decide)) (by decide)

theorem not_mem_registerSymbol {f : ExpandedFunction} (h : Text.isBindingName f.name = true) :
    '\n' ∉ f.registerSymbol.toList := by
  have hword : Text.isWord '\n' = false := by decide
  rw [ExpandedFunction.registerSymbol, String.toList_append, List.mem_append]
  rintro (hmem | hmem)
  · exact absurd hmem (by decide)
  · rw [Text.isWord_of_isBindingName h '\n' hmem] at hword
    cases hword

theorem not_mem_of_isIdentifier {name : String} (h : Text.isIdentifier name = true) :
    '\n' ∉ name.toList := Text.not_mem_of_isIdentifier_of_part (by decide) h

/-! ### The whole module -/

/-- A source with a product is a duplicate if the ledger has its function, and collides if it has not, but
has one of its artifacts. -/
theorem refused_iff {l' : Ledger} {source : Path}
    (h : (∃ e, l'.define source p = .error e ∧ o.result = .error e) ∨
      (∃ l'', l'.define source p = .ok l'') ∧ o.Commits p) :
    (o.isDuplicate = true ↔ p.function.name ∈ l'.names) ∧
      (o.isDuplicate = true ∨ o.isCollision = true ↔
        p.function.name ∈ l'.names ∨ ∃ a ∈ p.artifacts, a.path ∈ l'.paths) := by
  rcases l'.define_cases source p with ⟨hname, first, hdefine⟩ | ⟨hname, hpath, output, owner, hdefine⟩ |
    ⟨hname, hpaths, l'', hdefine, -⟩
  · obtain ⟨e, he, hresult⟩ | ⟨⟨_, hok⟩, -⟩ := h
    · rw [hdefine] at he
      obtain rfl := Except.error.inj he
      simp [Outcome.isDuplicate, hresult, hname]
    · rw [hdefine] at hok
      cases hok
  · obtain ⟨e, he, hresult⟩ | ⟨⟨_, hok⟩, -⟩ := h
    · rw [hdefine] at he
      obtain rfl := Except.error.inj he
      simp only [Outcome.isDuplicate, Outcome.isCollision, hresult, hname]
      simpa using hpath
    · rw [hdefine] at hok
      cases hok
  · have hno : ¬ ∃ a ∈ p.artifacts, a.path ∈ l'.paths := fun ⟨a, ha, hmem⟩ => hpaths a ha hmem
    obtain ⟨e, he, -⟩ | ⟨-, hok | ⟨target, fault, herror⟩⟩ := h
    · rw [hdefine] at he
      cases he
    · simp [Outcome.isDuplicate, Outcome.isCollision, hok, hname, hno]
    · simp [Outcome.isDuplicate, Outcome.isCollision, herror, hname, hno]

theorem functions_isBuilt {b : List Outcome} (h : ∀ o ∈ b, ∀ p, o.result = .ok p → p.IsBuilt c) :
    ∀ f ∈ b.filterMap (·.function?), Text.isBindingName f.name = true := by
  intro f hf
  obtain ⟨o, ho, hfunction⟩ := List.mem_filterMap.1 hf
  unfold Outcome.function? at hfunction
  split at hfunction
  · next p hp =>
    cases hfunction
    exact (h o ho p hp).name
  · cases hfunction

theorem artifacts_ne_fragment {b : List Outcome} (h : ∀ o ∈ b, ∀ p, o.result = .ok p → p.IsBuilt c)
    (name : String) (fs : List ExpandedFunction) :
    ∀ a ∈ b.flatMap (·.artifacts), a.path ≠ (Artifact.moduleFragment c name fs).path := by
  intro a ha
  obtain ⟨o, ho, hmem⟩ := List.mem_flatMap.1 ha
  unfold Outcome.artifacts at hmem
  split at hmem
  · next p hp => exact Artifact.path_ne_fragment_of_all (h o ho p hp).artifacts hmem name fs
  · cases hmem

/-- A module that is built holds together. Its fragment declares and then calls the registrations of the
sources that have a product, in their order; their functions, symbols and artifacts are all different; and
a source that has all its artifacts is refused exactly if one before it, which came to its commit, has the
same function or one of the same artifacts. -/
theorem module_holds_together {asked : Option String} {b : ModuleBuild}
    (h : w.run (assemble c write asked sources) = (.ok (.ok b), w₁)) :
    b.outcomes.map (·.source) = sources ∧
    (∃ head body, linesOf b.fragment.content = head ++ body ∧
      head.filterMap declaredSymbol? = b.functions.map (·.registerSymbol) ∧
      head.filterMap calledSymbol? = [] ∧ body.filterMap declaredSymbol? = [] ∧
      body.filterMap calledSymbol? = b.functions.map (·.registerSymbol)) ∧
    (b.functions.map (·.name)).Nodup ∧
    (b.functions.map (·.dispatcherSymbol) ++ b.functions.map (·.registerSymbol)).Nodup ∧
    ((b.outcomes.flatMap (·.artifacts)).map (·.path) ++ [b.fragment.path]).Nodup ∧
    ∀ i o p, b.outcomes[i]? = some o → productAt? c write {} w sources i = some p →
      (o.isDuplicate = true ↔ ∃ j < i, ∃ q, CommitsAt c write {} w sources b.outcomes j q ∧
        q.function.name = p.function.name) ∧
      (o.isDuplicate = true ∨ o.isCollision = true ↔
        ∃ j < i, ∃ q, CommitsAt c write {} w sources b.outcomes j q ∧
          (q.function.name = p.function.name ∨ q.Overlaps p)) := by
  obtain ⟨hname, outcomes, l₁, w', hrun, hcomplete⟩ := assemble_eq_ok_iff.1 h
  obtain ⟨rfl, -⟩ := complete_eq_ok_iff.1 hcomplete
  obtain ⟨hsources, hbuilt⟩ := hrun.isBuilt
  obtain ⟨⟨names, hnames, hkept, hnodup⟩, paths, hpaths, hkept', hnodup'⟩ := hrun.continues
  have hdistinct : ((outcomes.filterMap (·.function?)).map (·.name)).Nodup := by
    refine hkept.nodup ?_
    have hall := hnodup List.nodup_nil
    rw [hnames] at hall
    exact hall.of_append_right
  refine ⟨hsources, ?_, hdistinct, nodup_symbols hdistinct, ?_, fun i o p ho hp => ⟨?_, ?_⟩⟩
  · refine exists_linesOf_moduleText (not_mem_of_isIdentifier hname) ?_
    exact List.forall_mem_map.2 fun f hf => not_mem_registerSymbol (functions_isBuilt hbuilt f hf)
  · refine List.nodup_append.2 ⟨?_, by simp, ?_⟩
    · refine hkept'.nodup ?_
      have hall := hnodup' List.nodup_nil
      rw [hpaths] at hall
      exact hall.of_append_right
    · intro path hpath fragment hfragment
      obtain ⟨a, ha, rfl⟩ := List.mem_map.1 hpath
      rw [List.mem_singleton.1 hfragment]
      exact artifacts_ne_fragment hbuilt _ _ a ha
  · obtain ⟨l', source, hledger, hanswer⟩ := hrun.exists_ledger
      (R := fun l => p.function.name ∈ l.names) (r := fun q => q.function.name = p.function.name)
      (fun _ _ _ _ h => Ledger.mem_names_of_define h) ho hp
    rw [(refused_iff hanswer).1, hledger]
    exact or_iff_right List.not_mem_nil
  · obtain ⟨l', source, hledger, hanswer⟩ := hrun.exists_ledger
      (R := fun l => p.function.name ∈ l.names ∨ ∃ a ∈ p.artifacts, a.path ∈ l.paths)
      (r := fun q => q.function.name = p.function.name ∨ q.Overlaps p)
      (fun _ _ _ _ h => by
        rw [Ledger.mem_names_of_define h, Ledger.exists_mem_paths_of_define h, or_or_or_comm]) ho hp
    rw [(refused_iff hanswer).2, hledger]
    refine or_iff_right ?_
    rintro (hmem | ⟨a, -, hmem⟩)
    · exact List.not_mem_nil hmem
    · exact List.not_mem_nil hmem

/-- Four sources: the second would write over the artifacts of the first, and the third defines the same
function. -/
theorem module_holds_together_of_four :
    ∃ (c : Config) (w : Workspace) (sources : List Path) (b : ModuleBuild) (w₁ : Workspace),
      w.run (assemble c true none sources) = (.ok (.ok b), w₁) ∧
      b.functions.map (·.name) = ["f", "h"] ∧
      b.outcomes.map (·.isDuplicate) = [false, false, true, false] ∧
      b.outcomes.map (·.isCollision) = [false, true, false, false] ∧
      b.outcomes.map (·.source) = sources ∧
      ((b.outcomes.flatMap (·.artifacts)).map (·.path) ++ [b.fragment.path]).Nodup ∧
      (∃ head body, linesOf b.fragment.content = head ++ body ∧
        head.filterMap declaredSymbol? = ["npe_register_f", "npe_register_h"] ∧
        body.filterMap calledSymbol? = ["npe_register_f", "npe_register_h"]) ∧
      (∃ j < 1, ∃ p q, productAt? c true {} w sources 1 = some p ∧
        CommitsAt c true {} w sources b.outcomes j q ∧ (q.function.name = p.function.name ∨ q.Overlaps p)) ∧
      ∃ j < 2, ∃ p q, productAt? c true {} w sources 2 = some p ∧
        CommitsAt c true {} w sources b.outcomes j q ∧ q.function.name = p.function.name := by
  obtain ⟨c, hc⟩ : ∃ c : Config, c = { projectRoot := ⟨.relative, []⟩ } := ⟨_, rfl⟩
  obtain ⟨sources, hsources⟩ : ∃ sources : List Path, sources =
      [["a.cpp"], ["x", "a.cpp"], ["b.cpp"], ["c.cpp"]].map (Path.mk .relative) := ⟨_, rfl⟩
  obtain ⟨w, hw⟩ : ∃ w : Workspace, w = { here := [], files := ⟨[(["x"], .directory),
      (["a.cpp"], .file (Text.Utf8.encode "npe_function(f)npe_begin_code()")),
      (["x", "a.cpp"], .file (Text.Utf8.encode "npe_function(g)npe_begin_code()")),
      (["b.cpp"], .file (Text.Utf8.encode "npe_function(f)npe_begin_code()")),
      (["c.cpp"], .file (Text.Utf8.encode "npe_function(h)npe_begin_code()"))]⟩ } := ⟨_, rfl⟩
  have hruns : ((w.run (assemble c true none sources)).1.toOption.bind (·.toOption)).map (fun b =>
      (b.functions.map (·.name), b.functions.map (·.registerSymbol), b.outcomes.map (·.isDuplicate),
        b.outcomes.map (·.isCollision))) =
      some (["f", "h"], ["npe_register_f", "npe_register_h"], [false, false, true, false],
        [false, true, false, false]) ∧
      (productAt? c true {} w sources 1).isSome = true ∧
      (productAt? c true {} w sources 2).isSome = true := by
    rw [hw, hc, hsources]
    decide +kernel
  obtain ⟨hvalue, hproducts⟩ := hruns
  obtain ⟨p₁, hp₁⟩ := Option.isSome_iff_exists.1 hproducts.1
  obtain ⟨p₂, hp₂⟩ := Option.isSome_iff_exists.1 hproducts.2
  rcases hbuild : w.run (assemble c true none sources) with ⟨fault | (e | b), w₁⟩
  · simp [hbuild, Except.toOption] at hvalue
  · simp [hbuild, Except.toOption] at hvalue
  rw [hbuild] at hvalue
  obtain ⟨hnames, hmore⟩ := Prod.mk.inj (Option.some.inj hvalue)
  obtain ⟨hsymbols, hflags⟩ := Prod.mk.inj hmore
  obtain ⟨hduplicates, hcollisions⟩ := Prod.mk.inj hflags
  obtain ⟨hsame, ⟨head, body, hlines, hdeclared, -, -, hcalled⟩, -, -, hpaths, hrefused⟩ :=
    module_holds_together hbuild
  have hflag : ∀ {f : Outcome → Bool} {flags : List Bool} {i : Nat}, b.outcomes.map f = flags →
      flags[i]? = some true → ∃ o, b.outcomes[i]? = some o ∧ f o = true := by
    rintro f flags i rfl h
    rw [List.getElem?_map] at h
    exact Option.map_eq_some_iff.1 h
  obtain ⟨o₁, ho₁, hcollision⟩ := hflag hcollisions (i := 1) rfl
  obtain ⟨o₂, ho₂, hduplicate⟩ := hflag hduplicates (i := 2) rfl
  obtain ⟨j, hj, q, hq, hshared⟩ := (hrefused 1 o₁ p₁ ho₁ hp₁).2.1 (.inr hcollision)
  obtain ⟨j', hj', q', hq', hname⟩ := (hrefused 2 o₂ p₂ ho₂ hp₂).1.1 hduplicate
  exact ⟨c, w, sources, b, w₁, hbuild, hnames, hduplicates, hcollisions, hsame, hpaths,
    ⟨head, body, hlines, hdeclared.trans hsymbols, hcalled.trans hsymbols⟩,
    ⟨j, hj, p₁, q, hp₁, hq, hshared⟩, j', hj', p₂, q', hp₂, hq', hname⟩

end Build

end Monomorph
