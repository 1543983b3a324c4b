import Monomorph.Proofs.Expansion.Table

/-!
The reference enumeration: every row of the product over all arguments in which each derived
argument has the type that follows from its referent's type. Expansion multiplies over the free
arguments only and fills in the rest; both give the same rows in the same order. The induction goes
along the arguments: a free argument splits both sides by its types, and of the types of a derived
argument the filter keeps exactly the one that `complete` writes.
-/

namespace Monomorph

/-- Has the argument the type that follows from the type of its referent, in a row of types by name?
A free argument may have any type. -/
def Argument.fits (types : Expansion.Assignment) (a : Argument) : Bool :=
  match a.constraint? with
  | none => true
  | some c =>
    ((types.lookup c.reference).bind fun t => (c.relation.project t).toOption) == types.lookup a.name

namespace Expansion

/-- Every row of types, one for each argument, in which all derived arguments fit. -/
def reference (d : Declaration) : List (List ConcreteType) :=
  (choices (d.arguments.map (·.typeList))).filter fun types =>
    d.arguments.all (·.fits (d.names.zip types))

variable {args before rest : List Argument} {a : Argument} {known later : Assignment}

/-- Whether a derived argument fits is decided by the arguments before it. -/
theorem fits_known {c : Constraint} {t u : ConcreteType} (hc : a.constraint? = some c)
    (hlook : known.lookup c.reference = some u)
    (hproj : c.relation.project u = .ok (c.relation.image u)) (hnone : known.lookup a.name = none) :
    a.fits (known ++ (a.name, t) :: later) = (c.relation.image u == t) := by
  simp [Argument.fits, hc, List.lookup_append, hlook, hproj, hnone, Except.toOption]

/-- Of the types of an argument only one is kept by a test for it. -/
theorem flatMap_if_eq {α β : Type} [BEq α] [LawfulBEq α] {xs : List α} {x : α} (f : α → List β)
    (hn : xs.Nodup) (hx : x ∈ xs) : (xs.flatMap fun y => if x == y then f y else []) = f x := by
  induction xs with
  | nil => cases hx
  | cons y ys ih =>
    obtain ⟨hy, hys⟩ := List.nodup_cons.1 hn
    rw [List.flatMap_cons]
    rcases List.mem_cons.1 hx with rfl | hx
    · have hrest : (ys.flatMap fun y => if x == y then f y else []) = [] := by
        rw [List.flatMap_eq_nil_iff]
        intro z hz
        have hne : x ≠ z := fun h => hy (h ▸ hz)
        rw [if_neg (by simpa using hne)]
      rw [hrest, if_pos (beq_self_eq_true x), List.append_nil]
    · have hne : x ≠ y := fun h => hy (h ▸ hx)
      rw [if_neg (by simpa using hne), List.nil_append, ih hys hx]

/-- The rows of some arguments in which all of them fit, after the types known so far. -/
def fittingRows (known : Assignment) (args : List Argument) : List (List ConcreteType) :=
  (choices (args.map (·.typeList))).filter fun types =>
    args.all (·.fits (known ++ (args.map (·.name)).zip types))

/-- The rows in which the later arguments fit, once the first one has the type `t`. -/
theorem filter_choices_eq_fittingRows (known : Assignment) (a : Argument) (t : ConcreteType)
    (rest : List Argument) :
    ((choices (rest.map (·.typeList))).filter fun types =>
        rest.all (·.fits (known ++ (a.name, t) :: (rest.map (·.name)).zip types))) =
      fittingRows (known ++ [(a.name, t)]) rest := by
  simp only [fittingRows, List.append_assoc, List.singleton_append]

/-- A free argument fits with any of its types. -/
theorem fittingRows_cons_free (hc : a.constraint? = none) :
    fittingRows known (a :: rest) =
      a.typeList.flatMap fun t => (fittingRows (known ++ [(a.name, t)]) rest).map (t :: ·) := by
  have hfits : ∀ types, a.fits types = true := fun types => by simp [Argument.fits, hc]
  rw [fittingRows]
  simp only [List.map_cons, choices, List.filter_flatMap, List.filter_map, Function.comp_def,
    List.zip_cons_cons, List.all_cons, hfits, Bool.true_and, filter_choices_eq_fittingRows]

/-- A derived argument fits with one of its types, the image of its referent's. -/
theorem fittingRows_cons_derived {c : Constraint} {u : ConcreteType} (hc : a.constraint? = some c)
    (hlook : known.lookup c.reference = some u)
    (hproj : c.relation.project u = .ok (c.relation.image u)) (hnone : known.lookup a.name = none)
    (hnodup : a.typeList.Nodup) (himage : c.relation.image u ∈ a.typeList) :
    fittingRows known (a :: rest) =
      (fittingRows (known ++ [(a.name, c.relation.image u)]) rest).map (c.relation.image u :: ·) := by
  have hkeep : ∀ t ∈ a.typeList,
      (((choices (rest.map (·.typeList))).filter fun types =>
        c.relation.image u == t &&
          rest.all (·.fits (known ++ (a.name, t) :: (rest.map (·.name)).zip types))).map (t :: ·)) =
      if c.relation.image u == t then
        (fittingRows (known ++ [(a.name, t)]) rest).map (t :: ·)
      else [] := fun t _ => by
    cases c.relation.image u == t with
    | false => simp
    | true => simp only [Bool.true_and, filter_choices_eq_fittingRows, if_true]
  rw [fittingRows]
  simp only [List.map_cons, choices, List.filter_flatMap, List.filter_map, Function.comp_def,
    List.zip_cons_cons, List.all_cons, fits_known hc hlook hproj hnone]
  rw [List.flatMap_congr hkeep, flatMap_if_eq _ hnodup himage]

/-- The rows of the later arguments that fit, after the types known so far, are the completed
choices. -/
theorem fittingRows_eq (hset : Settled args) (hsplit : args = before ++ rest)
    (hknown : Assigned before known) :
    fittingRows known rest =
      (choices ((freeArguments rest).map (·.typeList))).map (complete known rest) := by
  induction rest generalizing before known with
  | nil => rfl
  | cons a rest ih =>
    have hsplit' : args = (before ++ [a]) ++ rest := by simp [hsplit]
    have hfollows := hset before a rest hsplit
    cases hc : a.constraint? with
    | none =>
      rw [fittingRows_cons_free hc, freeArguments_cons, if_pos (by simp [Argument.isFree, hc]),
        List.map_cons, choices, List.map_flatMap]
      apply List.flatMap_congr
      intro t ht
      rw [ih hsplit' (hknown.snoc ht), List.map_map, List.map_map]
      apply List.map_congr_left
      intro choice _
      simp [complete, hc]
    | some c =>
      obtain ⟨u, hlook, hproj, himage⟩ := exists_image hset hsplit hknown hc
      have hnone : known.lookup a.name = none := hknown.lookup_eq_none hfollows.fresh
      rw [fittingRows_cons_derived hc hlook hproj hnone hfollows.typed.nodup himage,
        ih hsplit' (hknown.snoc himage), freeArguments_cons,
        if_neg (by simp [Argument.isFree, hc]), List.map_map]
      apply List.map_congr_left
      intro choice _
      simp [complete, hc, hlook]

/-- The reference rows of a settled declaration are its completed choices. -/
theorem reference_eq {d : Declaration} (hset : Settled d.arguments) :
    reference d = (rowChoices d).map (complete [] d.arguments) :=
  fittingRows_eq hset (List.nil_append _).symm .nil

theorem types_table (d : Declaration) :
    (table d).combinations.map (·.types) = (rowChoices d).map (complete [] d.arguments) := by
  apply List.ext_getElem?
  intro i
  simp only [table, List.getElem?_map, List.getElem?_mapIdx, Option.map_map]
  rfl

/-- Expanding a declaration that was scanned and resolved gives the rows of the reference
enumeration, in its order, as long as the limit allows for their number. -/
theorem expand_types_eq_reference {text : String} {path : Option Path} {s : Scanned}
    {d : Declaration} {limit : Option Int} (hscan : scan text path = .ok s)
    (hres : s.declaration.resolve = .ok d)
    (hlimit : ∀ n, limit = some n → ((reference d).length : Int) ≤ n) :
    ∃ t, d.expand limit = .ok t ∧ t.combinations.map (·.types) = reference d := by
  have hset : Settled d.arguments :=
    settled_of_scan_resolve Registry.standard_isNumeric hscan hres
  rw [reference_eq hset, List.length_map] at hlimit
  exact ⟨table d, (expand_eq_ok_iff hset).2 ⟨hlimit, rfl⟩,
    (types_table d).trans (reference_eq hset).symm⟩

/-- Three types of `a` project to two of `b` and, through `b`, of `c`, around a host argument. -/
theorem expand_types_of_projections :
    ∃ s d t, scan ("npe_function(f) npe_arg(a, dense_f32, csr_f32, csc_i64) npe_arg(k, int) " ++
        "npe_arg(b, dense_like(a)) npe_arg(c, matches(b)) npe_begin_code()") = .ok s ∧
      s.declaration.resolve = .ok d ∧ d.expand (some 3) = .ok t ∧
      t.combinations.map (·.types) = [
        [.dense .float32, .host "int", .dense .float32, .dense .float32],
        [.sparse .float32 .csr, .host "int", .dense .float32, .dense .float32],
        [.sparse .int64 .csc, .host "int", .dense .int64, .dense .int64]] := by
  obtain ⟨s, d, hscan, hres, hrows⟩ := exists_scan_resolve
    ("npe_function(f) npe_arg(a, dense_f32, csr_f32, csc_i64) npe_arg(k, int) " ++
      "npe_arg(b, dense_like(a)) npe_arg(c, matches(b)) npe_begin_code()") reference
    [[.dense .float32, .host "int", .dense .float32, .dense .float32],
      [.sparse .float32 .csr, .host "int", .dense .float32, .dense .float32],
      [.sparse .int64 .csc, .host "int", .dense .int64, .dense .int64]] (by decide +kernel)
  have hlimit : ∀ n, some 3 = some n → ((reference d).length : Int) ≤ n := by
    rintro n ⟨⟩
    simp [hrows]
  obtain ⟨t, ht, htypes⟩ := expand_types_eq_reference hscan hres hlimit
  exact ⟨s, d, t, hscan, hres, ht, htypes.trans hrows⟩

end Expansion

end Monomorph
