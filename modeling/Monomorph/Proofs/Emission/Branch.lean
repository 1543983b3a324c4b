import Mathlib.Data.List.Find
import Monomorph.Emission.Specialization
import Monomorph.Proofs.Emission.Table
import Monomorph.Proofs.Text.Words

/-!
What a native dispatcher does when it runs. The condition of a branch is read from its text: words
between blanks that are tests of variables for values, joined by `&&`. The first branch whose
condition holds is the one that a look-up in the table finds, and it hands every argument to the
specialisation in the type that the specialisation declares for it.
-/

namespace Monomorph.Emission

open Text Position Expansion

/-! ### Reading conditions -/

/-- The words of a text. -/
def words (s : String) : List String := (wordsOf s.toList).map String.ofList

/-- Does a condition hold, given its words and the values of variables? It is the constant truth, or
tests of variables for values that are joined by `&&`. -/
def holds (env : String → Option String) : List String → Bool
  | [word] => word == "true"
  | [var, sign, value] => sign == "==" && env var == some value
  | var :: sign :: value :: link :: rest =>
    sign == "==" && env var == some value && link == "&&" && holds env rest
  | _ => false

/-- The words that a list of tests is written in. -/
def testWords : List TagTest → List String
  | [] => []
  | [t] => [tagVariable t.argument, "==", t.tag]
  | t :: u :: rest => tagVariable t.argument :: "==" :: t.tag :: "&&" :: testWords (u :: rest)

variable {tests : List TagTest} {env : String → Option String}

theorem testWords_ne_nil (h : tests ≠ []) : testWords tests ≠ [] := by
  rcases tests with _ | ⟨t, _ | ⟨u, rest⟩⟩
  · exact absurd rfl h
  · simp [testWords]
  · simp [testWords]

theorem joinWith_testWords (tests : List TagTest) :
    joinWith " && ".toList (tests.map (·.text.toList)) =
      joinWith [' '] ((testWords tests).map String.toList) := by
  induction tests with
  | nil => rfl
  | cons t tests ih =>
    cases tests with
    | nil => simp [testWords, joinWith, TagTest.text]
    | cons u rest =>
      have hwords : (testWords (u :: rest)).map String.toList ≠ [] := by
        simpa using testWords_ne_nil (List.cons_ne_nil u rest)
      rw [List.map_cons, joinWith_cons _ _ (by simp), ih, testWords, List.map_cons, List.map_cons,
        List.map_cons, List.map_cons, joinWith_cons _ _ (by simp), joinWith_cons _ _ (by simp),
        joinWith_cons _ _ (by simp), joinWith_cons _ _ hwords]
      simp [TagTest.text]

theorem holds_testWords (h : tests ≠ []) :
    holds env (testWords tests) =
      tests.all fun t => env (tagVariable t.argument) == some t.tag := by
  induction tests with
  | nil => exact absurd rfl h
  | cons t tests ih =>
    cases tests with
    | nil => simp [testWords, holds]
    | cons u rest =>
      obtain ⟨w, ws, hws⟩ := List.exists_cons_of_ne_nil (testWords_ne_nil (List.cons_ne_nil u rest))
      rw [testWords, List.all_cons, ← ih (by simp), hws, holds]
      simp

theorem isSolid_of_mem_testWords
    (h : ∀ t ∈ tests, IsSolid (tagVariable t.argument).toList ∧ IsSolid t.tag.toList) :
    ∀ w ∈ testWords tests, IsSolid w.toList := by
  induction tests with
  | nil => simp [testWords]
  | cons t tests ih =>
    obtain ⟨⟨hvar, htag⟩, htests⟩ := List.forall_mem_cons.1 h
    have hsigns : IsSolid "==".toList ∧ IsSolid "&&".toList := by decide
    cases tests with
    | nil => simpa [testWords] using ⟨hvar, hsigns.1, htag⟩
    | cons u rest =>
      have hrest := ih htests
      simp only [testWords, List.forall_mem_cons]
      exact ⟨hvar, hsigns.1, htag, hsigns.2, hrest⟩

/-- The condition of a branch holds exactly if all its tests do, as long as no blank stands inside a
variable or a tag. -/
theorem holds_condition {e : Entry}
    (h : ∀ t ∈ e.tests, IsSolid (tagVariable t.argument).toList ∧ IsSolid t.tag.toList) :
    holds env (words e.condition) =
      e.tests.all fun t => env (tagVariable t.argument) == some t.tag := by
  unfold Entry.condition
  cases htests : e.tests with
  | nil => rfl
  | cons t rest =>
    rw [htests] at h
    have hsolid : ∀ w ∈ (testWords (t :: rest)).map String.toList, IsSolid w := by
      simpa using isSolid_of_mem_testWords h
    have hwords : words (join " && " ((t :: rest).map (·.text))) = testWords (t :: rest) := by
      have htexts : ((t :: rest).map (·.text)).map String.toList =
          (t :: rest).map (·.text.toList) := List.map_map
      rw [words, join, String.toList_ofList, htexts, joinWith_testWords, wordsOf_joinWith hsolid,
        List.map_map]
      simp
    rw [List.isEmpty_cons, if_neg (by simp), hwords, holds_testWords (by simp)]

/-! ### Taking a branch -/

/-- What a variable of a dispatcher holds when it runs: the tag of the argument that it belongs to.
-/
def Dispatcher.value? (disp : Dispatcher) (tagOf : String → String) (var : String) : Option String :=
  (disp.dispatched.find? fun n => tagVariable n == var).map fun n => "npe::type_tag::" ++ tagOf n

/-- Does a dispatcher take a branch once it comes to it? -/
def Dispatcher.takes (disp : Dispatcher) (tagOf : String → String) (e : Entry) : Bool :=
  holds (disp.value? tagOf) (words e.condition)

section Settled

variable {d : Declaration} {c : Combination} {tagOf : String → String}
  {tags : List (Option String)}

theorem mem_dispatchedNames (hset : Settled d.arguments) {i : Nat} {a : Argument}
    (hi : d.arguments[i]? = some a) (ha : a.isPassedThrough = false) : a.name ∈ dispatchedNames d := by
  rw [dispatchedNames, mem_restrict]
  refine ⟨_, (mem_positions hset).2 ⟨i, a, hi, ha, rfl⟩, ?_⟩
  simp [elementIn_index, Declaration.names, hi]

/-- The tests of a branch are those of the arguments that are not passed through. -/
theorem mem_tests (hset : Settled d.arguments) (hc : c ∈ (table d).combinations) {test : TagTest} :
    test ∈ (branch d c).tests ↔ ∃ (i : Nat) (a : Argument) (type : ConcreteType),
      d.arguments[i]? = some a ∧ a.isPassedThrough = false ∧ c.types[i]? = some type ∧
        test = ⟨a.name, "npe::type_tag::" ++ type.tag⟩ := by
  rw [branch, mem_restrict]
  constructor
  · rintro ⟨p, hp, htest⟩
    obtain ⟨i, a, hi, ha, rfl⟩ := (mem_positions hset).1 hp
    obtain ⟨type, htype, -⟩ := isHost_of_place hset hc hi ha
    have hzip : (d.names.zip c.types)[i]? = some (a.name, type) :=
      List.getElem?_zip_eq_some.2 ⟨by simp [Declaration.names, hi], htype⟩
    refine ⟨i, a, type, hi, ha, htype, ?_⟩
    simpa [elementIn_index, tagTests, hzip, eq_comm] using htest
  · rintro ⟨i, a, type, hi, ha, htype, rfl⟩
    have hzip : (d.names.zip c.types)[i]? = some (a.name, type) :=
      List.getElem?_zip_eq_some.2 ⟨by simp [Declaration.names, hi], htype⟩
    refine ⟨_, (mem_positions hset).2 ⟨i, a, hi, ha, rfl⟩, ?_⟩
    simp [elementIn_index, tagTests, hzip]

theorem isSolid_tests (hset : Settled d.arguments) (hnames : ∀ n ∈ d.names, isBindingName n = true)
    (hc : c ∈ (table d).combinations) :
    ∀ t ∈ (branch d c).tests, IsSolid (tagVariable t.argument).toList ∧ IsSolid t.tag.toList := by
  intro t ht
  obtain ⟨i, a, type, hi, ha, htype, rfl⟩ := (mem_tests hset hc).1 ht
  obtain ⟨type', htype', hnum⟩ := isHost_of_place hset hc hi ha
  obtain rfl : type = type' := by simpa [htype] using htype'
  constructor
  · have hname := isSolid_of_isBindingName
      (hnames a.name (List.mem_map.2 ⟨a, List.mem_of_getElem? hi, rfl⟩))
    have hvar : (tagVariable a.name).toList = "npe_tag_".toList ++ a.name.toList := by
      rw [tagVariable, String.toList_append]
    exact hvar ▸ IsSolid.append (by decide) hname.2
  · have hall : ∀ type ∈ ConcreteType.numeric, IsSolid ("npe::type_tag::" ++ type.tag).toList := by
      decide
    exact hall type (ConcreteType.mem_numeric hnum)

/-- The variable of a dispatched argument holds the tag of this argument. -/
theorem value?_tagVariable {n : String} (hn : n ∈ dispatchedNames d) :
    (dispatcher d).value? tagOf (tagVariable n) = some ("npe::type_tag::" ++ tagOf n) := by
  rw [Dispatcher.value?, dispatcher]
  cases hfind : (dispatchedNames d).find? fun m => tagVariable m == tagVariable n with
  | none => exact absurd (List.find?_eq_none.1 hfind n hn) (by simp)
  | some m =>
    have hsame : tagVariable m = tagVariable n := by simpa using List.find?_some hfind
    rw [(String.append_right_inj _).1 hsame, Option.map_some]

/-- A dispatcher takes the branch of a combination exactly if the combination fits the tags. -/
theorem takes_branch (hset : Settled d.arguments) (hnames : ∀ n ∈ d.names, isBindingName n = true)
    (hc : c ∈ (table d).combinations)
    (htags : tags.length = (table d).names.length)
    (hof : ∀ (i : Nat) (a : Argument), d.arguments[i]? = some a → a.isPassedThrough = false →
      tags[i]? = some (some (tagOf a.name))) :
    (dispatcher d).takes tagOf (branch d c) = decide ((table d).Fits tags c) := by
  rw [Dispatcher.takes, holds_condition (isSolid_tests hset hnames hc), Bool.eq_iff_iff,
    decide_eq_true_iff, List.all_eq_true, DispatchTable.Fits,
    restrict_eq_iff_places hset (by rw [List.length_map, (regular_table hset).full c hc]) htags]
  constructor
  · intro h i a hi ha
    obtain ⟨type, htype, -⟩ := isHost_of_place hset hc hi ha
    have htest := h _ ((mem_tests hset hc).2 ⟨i, a, type, hi, ha, htype, rfl⟩)
    rw [value?_tagVariable (mem_dispatchedNames hset hi ha), beq_iff_eq, Option.some.injEq,
      String.append_right_inj] at htest
    rw [hof i a hi ha, htest]
    simp [Combination.tags, htype]
  · intro h test htest
    obtain ⟨i, a, type, hi, ha, htype, rfl⟩ := (mem_tests hset hc).1 htest
    have hsame := h i a hi ha
    rw [hof i a hi ha] at hsame
    rw [value?_tagVariable (mem_dispatchedNames hset hi ha), beq_iff_eq, Option.some.injEq,
      String.append_right_inj, eq_comm]
    simpa [Combination.tags, htype] using hsame

/-! ### Handing on arguments -/

/-- How a dispatcher hands on an argument that it takes as `formal`, where a specialisation declares
it as `declared`: under its name and with the same type if it is passed through, and otherwise as a
view of the declared type that is built from the object. -/
structure HandsOn (a : Argument) (formal declared : Parameter) (x : CallArgument) : Prop where
  formalName : formal.name = a.name
  declaredName : declared.name = a.name
  text : x.text = if a.isPassedThrough then a.name else declared.type ++ "(" ++ a.name ++ ")"
  type : formal.type = if a.isPassedThrough then declared.type else "pybind11::object"

/-- A branch hands on every argument as the specialisation for its combination declares it. -/
theorem exists_handsOn (hset : Settled d.arguments) (hc : c ∈ (table d).combinations) {i : Nat}
    {a : Argument} (hi : d.arguments[i]? = some a) :
    ∃ formal declared x, (Dispatcher.parametersOf d)[i]? = some formal ∧
      (Specialization.parametersOf c)[i]? = some declared ∧ (branch d c).arguments[i]? = some x ∧
      HandsOn a formal declared x := by
  obtain ⟨hlt, hget⟩ := List.getElem?_eq_some_iff.1 hi
  have htypes := forall₂_types hset hc
  have hlt' : i < c.types.length := htypes.length_eq ▸ hlt
  have hmem : c.types[i] ∈ a.typeList := hget ▸ htypes.get hlt hlt'
  have htype : c.types[i]? = some c.types[i] := List.getElem?_eq_getElem hlt'
  have hzip : (c.names.zip c.types)[i]? = some (.text a.name, c.types[i]) := by
    rw [List.getElem?_zip_eq_some, names_of_mem_table hc]
    exact ⟨by simp [Declaration.names, hi], htype⟩
  obtain ⟨_, hfollows⟩ := hset.of_mem (List.mem_of_getElem? hi)
  have hhost := Argument.isHost_of_isPassedThrough hfollows.typed hmem
  simp only [Dispatcher.parametersOf, Specialization.parametersOf, branch, callArguments,
    List.getElem?_map, hi, hzip, Option.map_some, hhost]
  refine ⟨_, _, _, rfl, rfl, rfl, ?_⟩
  cases ha : a.isPassedThrough with
  | true =>
    obtain ⟨text, htext⟩ := (Argument.isPassedThrough_eq_true_iff hfollows.typed).1 ha
    have hsame : c.types[i] = .host text := by simpa [htext] using hmem
    exact ⟨by simp, by simp [Label.shown], by simp [ha, CallArgument.text, Label.shown],
      by simp [ha, htext, hsame]⟩
  | false =>
    exact ⟨by simp, by simp [Label.shown], by simp [ha, CallArgument.text, Label.shown],
      by simp [ha]⟩

end Settled

/-- The dispatcher of an expanded table does what a look-up in the table says. Given any tags of the
arguments that are not passed through, it takes the first branch whose condition holds; the branch
calls the specialisation of the combination that a look-up finds, and there is no such branch
exactly if the look-up finds nothing. Every branch hands on the arguments in the types that its
specialisation declares. -/
theorem first_branch_eq_lookup {text : String} {path : Option Path} {s : Scanned} {d : Declaration}
    {limit : Option Int} {t : DispatchTable} (hscan : scan text path = .ok s)
    (hres : s.declaration.resolve = .ok d) (hexp : d.expand limit = .ok t) :
    ∃ disp, Dispatcher.of ⟨d, t⟩ = .ok disp ∧
      (∀ (tagOf : String → String) (tags : List (Option String)), tags.length = t.names.length →
        (∀ (i : Nat) (a : Argument), d.arguments[i]? = some a → a.isPassedThrough = false →
          tags[i]? = some (some (tagOf a.name))) →
        ∃ found, t.lookup tags = .ok found ∧
          (disp.entries.find? (disp.takes tagOf)).map (·.identifier) =
            found.map (·.identifier.shown) ∧
          ((∀ e ∈ disp.entries, disp.takes tagOf e = false) ↔ found = none)) ∧
      disp.entries.length = t.combinations.length ∧
      ∀ (k : Nat) (e : Entry) (c : Combination), disp.entries[k]? = some e →
        t.combinations[k]? = some c →
        e.identifier = (Specialization.of ⟨d, t⟩ c).identifier ∧
        disp.parameters.length = d.arguments.length ∧
        (Specialization.of ⟨d, t⟩ c).parameters.length = d.arguments.length ∧
        e.arguments.length = d.arguments.length ∧
        ∀ (i : Nat) (a : Argument), d.arguments[i]? = some a →
          ∃ formal declared x, disp.parameters[i]? = some formal ∧
            (Specialization.of ⟨d, t⟩ c).parameters[i]? = some declared ∧
            e.arguments[i]? = some x ∧ HandsOn a formal declared x := by
  have hset : Settled d.arguments :=
    settled_of_scan_resolve Registry.standard_isNumeric hscan hres
  have hnames := isBindingName_of_scan_resolve hscan hres
  obtain ⟨-, rfl⟩ := (expand_eq_ok_iff hset).1 hexp
  have hreg := regular_table hset
  refine ⟨_, dispatcher_eq hset, fun tagOf tags htags hof => ?_, by simp [dispatcher], ?_⟩
  · -- the dispatcher and the table look for the same thing in the same order
    have htakes : ∀ c ∈ (table d).combinations,
        (dispatcher d).takes tagOf (branch d c) = decide ((table d).Fits tags c) :=
      fun c hc => takes_branch hset hnames hc htags hof
    have hfind : (dispatcher d).entries.find? ((dispatcher d).takes tagOf) =
        ((table d).combinations.find? fun c => decide ((table d).Fits tags c)).map (branch d) := by
      rw [dispatcher, List.find?_map]
      exact congrArg _ (List.find?_congr htakes)
    refine ⟨_, hreg.lookup_eq_ok htags, ?_, ?_⟩
    · rw [hfind, Option.map_map]
      rfl
    · rw [← Option.map_eq_none_iff (f := branch d), ← hfind, List.find?_eq_none]
      simp
  · intro k e c he hc
    obtain rfl : branch d c = e := by simpa [dispatcher, hc] using he
    have hmem := List.mem_of_getElem? hc
    have hlen := (forall₂_types hset hmem).length_eq
    refine ⟨rfl, ?_, ?_, ?_, fun i a hi => exists_handsOn hset hmem hi⟩
    · simp [dispatcher, Dispatcher.parametersOf]
    · simp [Specialization.of, Specialization.parametersOf, names_of_mem_table hmem, Declaration.names,
        hlen]
    · simp [branch, callArguments, names_of_mem_table hmem, Declaration.names, hlen]

/-- Tags of the second combination lead to its branch, and tags that no combination has lead to
none. -/
theorem first_branch_of_projections :
    ∃ s d t disp, scan ("npe_function(f) npe_arg(a, dense_f32, csr_f32) npe_arg(k, int) " ++
        "npe_arg(b, dense_like(a)) npe_begin_code()") = .ok s ∧
      s.declaration.resolve = .ok d ∧ d.expand none = .ok t ∧ Dispatcher.of ⟨d, t⟩ = .ok disp ∧
      (disp.entries.find? (disp.takes fun n => if n = "a" then "csr_f32" else "dense_f32")).map
        (·.identifier) = some "npe_f__csr_f32" ∧
      ∀ e ∈ disp.entries, disp.takes (fun _ => "csr_f32") e = false := by
  obtain ⟨s, d, hscan, hres, hvalue⟩ := exists_scan_resolve
    ("npe_function(f) npe_arg(a, dense_f32, csr_f32) npe_arg(k, int) " ++
      "npe_arg(b, dense_like(a)) npe_begin_code()")
    (fun d => (d.arguments.map fun a => (a.name, a.isPassedThrough),
      [[some "csr_f32", none, some "dense_f32"], [some "csr_f32", none, some "csr_f32"]].map fun tags =>
        ((table d).lookup tags).toOption.map (·.map (·.identifier.shown))))
    ([("a", false), ("k", true), ("b", false)], [some (some "npe_f__csr_f32"), some none])
    (by decide +kernel)
  rw [Prod.mk.injEq, List.map_cons, List.map_cons, List.cons.injEq, List.cons.injEq] at hvalue
  obtain ⟨hargs, hsecond, hnone, -⟩ := hvalue
  have hlength : 3 = (table d).names.length := by
    have hcount := congrArg List.length hargs
    simpa [table, Declaration.names, eq_comm] using hcount
  -- the dispatched arguments are `a` and `b`
  have htags : ∀ (tagOf : String → String) (i : Nat) (a : Argument), d.arguments[i]? = some a →
      a.isPassedThrough = false →
      [some (tagOf "a"), none, some (tagOf "b")][i]? = some (some (tagOf a.name)) := by
    intro tagOf i a hi ha
    have harg : (d.arguments.map fun a => (a.name, a.isPassedThrough))[i]? =
        some (a.name, false) := by simp [hi, ha]
    rw [hargs] at harg
    rcases i with _ | _ | _ | i
    · simp_all
    · simp_all
    · simp_all
    · simp at harg
  have hexp : d.expand none = .ok (table d) :=
    (expand_eq_ok_iff (settled_of_scan_resolve Registry.standard_isNumeric hscan hres)).2
      ⟨by simp, rfl⟩
  obtain ⟨disp, hdisp, hbranch, -⟩ := first_branch_eq_lookup hscan hres hexp
  refine ⟨s, d, table d, disp, hscan, hres, hexp, hdisp, ?_, ?_⟩
  · obtain ⟨found, hlookup, hfirst, -⟩ := hbranch
      (fun n => if n = "a" then "csr_f32" else "dense_f32") [some "csr_f32", none, some "dense_f32"]
      hlength (htags fun n => if n = "a" then "csr_f32" else "dense_f32")
    rw [hlookup, Except.toOption, Option.map_some] at hsecond
    exact hfirst.trans (Option.some.inj hsecond)
  · obtain ⟨found, hlookup, -, htaken⟩ := hbranch (fun _ => "csr_f32")
      [some "csr_f32", none, some "csr_f32"] hlength (htags fun _ => "csr_f32")
    rw [hlookup, Except.toOption, Option.map_some, Option.some.injEq, Option.map_eq_none_iff] at hnone
    exact htaken.2 hnone

end Monomorph.Emission
