import Monomorph.DispatchTable.Manifest
import Monomorph.Proofs.Emission.Table
import Monomorph.Proofs.Json.Ascii
import Monomorph.Proofs.Resolution.Tags

/-!
Manifests read back. A manifest leaves out what can be found again: the numbers of the combinations,
the names that they repeat, and the types, of which it gives the tags. So a table whose combinations
are numbered in order is found again in its manifest, but for its types: those are looked up under
their tags. The table of a declaration has types that are found there.
-/

namespace Monomorph

open Text

/-- A label that is a text. -/
def Label.IsText (l : Label) : Prop := ∃ s, l = .text s

/-- A label that is found again in its JSON. -/
def Label.IsKept (l : Label) : Prop := Label.ofJson l.toJson = l

theorem Label.IsText.isKept {l : Label} (h : l.IsText) : l.IsKept := by
  obtain ⟨s, rfl⟩ := h
  rfl

theorem Label.IsText.plain {l : Label} (h : l.IsText) (k : Nat) : Json.Plain k l.toJson := by
  obtain ⟨s, rfl⟩ := h
  exact .str s

/-- A list of which every element is kept is kept. -/
theorem map_eq_self_iff {α : Type} {f : α → α} {xs : List α} : xs.map f = xs ↔ ∀ x ∈ xs, f x = x := by
  conv_lhs => rhs; rw [← List.map_id xs]
  exact List.map_inj_left

/-- The combination with the types that are found under the tags of its types. -/
def Combination.retagged (c : Combination) : Combination :=
  { c with types := c.types.map fun type => .ofTag type.tag }

theorem Combination.retagged_eq_self_iff {c : Combination} :
    c.retagged = c ↔ ∀ type ∈ c.types, type.IsTagged := by
  obtain ⟨index, names, types, identifier⟩ := c
  simp only [retagged, Combination.mk.injEq, true_and, and_true]
  exact map_eq_self_iff

namespace DispatchTable

/-- The table with the types that are found under the tags of its types. -/
def retagged (t : DispatchTable) : DispatchTable :=
  { t with combinations := t.combinations.map (·.retagged) }

/-- A table of which a manifest leaves out no more than the types. -/
structure IsLoaded (t : DispatchTable) : Prop where
  function : t.function.IsKept
  names : ∀ l ∈ t.names, l.IsKept
  defaults : ∀ o ∈ t.defaults, defaultOfJson (defaultJson o) = o
  padded : t.defaults.length = t.names.length
  positions : ∀ p ∈ t.positions, Position.ofJson p.toJson = p
  numbered : ∀ (i : Nat) (c : Combination), t.combinations[i]? = some c →
    c.index = i ∧ c.names = t.names
  identifiers : ∀ c ∈ t.combinations, c.identifier.IsKept

/-- A table whose labels are texts and whose positions are integers. -/
structure IsTextual (t : DispatchTable) : Prop where
  function : t.function.IsText
  names : ∀ l ∈ t.names, l.IsText
  defaults : ∀ o ∈ t.defaults, ∀ l ∈ o, Label.IsText l
  positions : ∀ p ∈ t.positions, ∃ i : Int, p = .index i
  identifiers : ∀ c ∈ t.combinations, c.identifier.IsText

/-- A table of which a manifest leaves nothing out. -/
structure IsListed (t : DispatchTable) : Prop extends IsTextual t where
  padded : t.defaults.length = t.names.length
  numbered : ∀ (i : Nat) (c : Combination), t.combinations[i]? = some c →
    c.index = i ∧ c.names = t.names
  tagged : ∀ c ∈ t.combinations, ∀ type ∈ c.types, type.IsTagged

variable {t : DispatchTable}

theorem retagged_eq_self_iff :
    t.retagged = t ↔ ∀ c ∈ t.combinations, ∀ type ∈ c.types, type.IsTagged := by
  obtain ⟨function, names, combinations, positions, defaults⟩ := t
  simp only [retagged, DispatchTable.mk.injEq, true_and, and_true]
  rw [map_eq_self_iff]
  exact forall₂_congr fun c _ => Combination.retagged_eq_self_iff


/-! ### The data -/

theorem valueOf?_cons (name other : String) (v : Json) (rest : List (FieldName × Json)) :
    FieldName.valueOf? name ((.text other, v) :: rest) =
      if name = other then some v else FieldName.valueOf? name rest := by
  unfold FieldName.valueOf?
  split
  · next h => rw [h, List.lookup_cons_self]
  · next h => rw [List.lookup_cons, beq_eq_false_iff_ne.2 fun heq => h (FieldName.text.inj heq)]

@[simp]
theorem requireField_cons (name other : String) (v : Json) (rest : List (FieldName × Json)) :
    requireField name (.obj ((.text other, v) :: rest)) =
      if name = other then .ok v else requireField name (.obj rest) := by
  by_cases h : name = other
  · simp only [requireField, valueOf?_cons, h, if_true]
  · simp only [requireField, valueOf?_cons, h, if_false]

@[simp]
theorem requireMembers_arr (items : List Json) : requireMembers (.arr items) = .ok items := rfl

/-- Two steps succeed if the first one does and the second one goes on from there. -/
theorem bind_eq_ok_iff {ε α β : Type} {x : Except ε α} {f : α → Except ε β} {b : β} :
    x >>= f = .ok b ↔ ∃ a, x = .ok a ∧ f a = .ok b := by
  cases x <;> simp [bind, Except.bind]

/-- A run over a list that succeeds does at every element. -/
theorem forall₂_of_mapM {ε α β : Type} {f : α → Except ε β} {xs : List α} {ys : List β}
    (h : xs.mapM f = .ok ys) : List.Forall₂ (fun x y => f x = .ok y) xs ys := by
  induction xs generalizing ys with
  | nil =>
    cases h
    exact .nil
  | cons x xs ih =>
    rw [List.mapM_cons, bind_eq_ok_iff] at h
    obtain ⟨y, hy, h⟩ := h
    obtain ⟨ys', hys, h⟩ := bind_eq_ok_iff.1 h
    cases h
    exact .cons hy (ih hys)

/-- Written elements are read one by one. -/
theorem mapM_map_eq_ok {α β : Type} (write : α → Json) {read : Json → Except ManifestFault β}
    (g : α → β) {xs : List α} (h : ∀ x ∈ xs, read (write x) = .ok (g x)) :
    (xs.map write).mapM read = .ok (xs.map g) := by
  rw [List.mapM_map]
  exact Emission.mapM_eq_ok h

theorem defaultOfJson_defaultJson {o : Option Label} (h : ∀ l ∈ o, Label.IsText l) :
    defaultOfJson (defaultJson o) = o := by
  cases o with
  | none => rfl
  | some l =>
    obtain ⟨s, rfl⟩ := h l rfl
    rfl

/-- A table that can be listed loses at most types in its manifest. -/
theorem IsListed.isLoaded (h : t.IsListed) : t.IsLoaded where
  function := h.function.isKept
  names l hl := (h.names l hl).isKept
  defaults o ho := defaultOfJson_defaultJson (h.defaults o ho)
  padded := h.padded
  positions p hp := by
    obtain ⟨i, rfl⟩ := h.positions p hp
    rfl
  numbered := h.numbered
  identifiers c hc := (h.identifiers c hc).isKept

/-- The combinations that a manifest lists are read in order and numbered from where they start. -/
theorem readCombinations_map {names : List Label} {k : Nat} {cs : List Combination}
    (hnumbered : ∀ (i : Nat) (c : Combination), cs[i]? = some c → c.index = k + i ∧ c.names = names)
    (hidentifiers : ∀ c ∈ cs, c.identifier.IsKept) :
    readCombinations names k (cs.map fun c =>
      .obj [("identifier", c.identifier.toJson), ("types", .arr (c.tags.map .str))]) =
        .ok (cs.map (·.retagged)) := by
  induction cs generalizing k with
  | nil => rfl
  | cons c cs ih =>
    obtain ⟨hindex, hnames⟩ := hnumbered 0 c rfl
    obtain ⟨hidentifier, hidentifiers⟩ := List.forall_mem_cons.1 hidentifiers
    have hrest := ih (k := k + 1) (fun i c' hc' => by
      obtain ⟨hi, hn⟩ := hnumbered (i + 1) c' hc'
      exact ⟨by omega, hn⟩) hidentifiers
    have htags : (c.tags.map Json.str).mapM requireType = .ok c.retagged.types := by
      rw [Combination.tags, List.map_map]
      exact mapM_map_eq_ok (fun type : ConcreteType => .str type.tag) _ fun _ _ => rfl
    obtain ⟨index, names', types, identifier⟩ := c
    obtain rfl : index = k := hindex
    obtain rfl : names' = names := hnames
    have hlabel : Label.ofJson identifier.toJson = identifier := hidentifier
    simp [readCombinations, htags, hrest, hlabel, Combination.retagged, bind, Except.bind, pure,
      Except.pure]

theorem paddedDefaults_eq (h : t.defaults.length = t.names.length) :
    t.paddedDefaults = t.defaults := by
  unfold paddedDefaults
  split
  · next hnone =>
    have hdefaults := List.isEmpty_iff.1 hnone
    rw [hdefaults, List.length_nil, eq_comm, List.length_eq_zero_iff] at h
    rw [hdefaults, h, List.map_nil]
  · rfl

theorem readDefault_argument {name : Json} {o : Option Label}
    (h : defaultOfJson (defaultJson o) = o) :
    readDefault (.obj [("name", name), ("default", defaultJson o)]) = .ok o := by
  rw [readDefault, valueOf?_cons, if_neg (by decide), valueOf?_cons, if_pos rfl, Option.getD_some,
    h]

/-- A table is found again in its manifest, with the types that its tags name. -/
theorem IsLoaded.ofManifest_toManifest (h : t.IsLoaded) :
    ofManifest t.toManifest = .ok t.retagged := by
  have hnames : ((t.names.zip t.defaults).map fun a =>
      Json.obj [("name", a.1.toJson), ("default", defaultJson a.2)]).mapM (requireField "name") =
        .ok ((t.names.zip t.defaults).map fun a => a.1.toJson) :=
    mapM_map_eq_ok _ _ fun a _ => requireField_cons "name" "name" a.1.toJson _
  have hdefaults : ((t.names.zip t.defaults).map fun a =>
      Json.obj [("name", a.1.toJson), ("default", defaultJson a.2)]).mapM readDefault =
        .ok ((t.names.zip t.defaults).map Prod.snd) :=
    mapM_map_eq_ok _ _ fun a ha => readDefault_argument (h.defaults a.2 (List.of_mem_zip ha).2)
  have hlabels : ((t.names.zip t.defaults).map fun a => a.1.toJson).map Label.ofJson = t.names := by
    rw [List.map_map]
    refine Eq.trans (List.map_congr_left fun a ha => ?_)
      (List.map_fst_zip (by rw [h.padded] : t.names.length ≤ t.defaults.length))
    exact h.names a.1 (List.of_mem_zip ha).1
  have hpositions : (t.positions.map Position.toJson).map Position.ofJson = t.positions := by
    rw [List.map_map]
    exact map_eq_self_iff.2 h.positions
  have hcombinations := readCombinations_map (k := 0) (by simpa using h.numbered) h.identifiers
  have hfunction : Label.ofJson t.function.toJson = t.function := h.function
  rw [List.map_snd_zip (by rw [h.padded])] at hdefaults
  rw [ofManifest, toManifest, paddedDefaults_eq h.padded]
  simp [hnames, hdefaults, hlabels, hpositions, hcombinations, hfunction, retagged, bind, Except.bind,
    pure, Except.pure, -List.mapM_map, -List.map_map]

/-- A listed table is found again in its manifest. -/
theorem IsListed.ofManifest_toManifest (h : t.IsListed) : ofManifest t.toManifest = .ok t := by
  rw [h.isLoaded.ofManifest_toManifest, retagged_eq_self_iff.2 h.tagged]

/-! ### The text -/

theorem plain_defaultJson {o : Option Label} (h : ∀ l ∈ o, Label.IsText l) (k : Nat) :
    Json.Plain k (defaultJson o) := by
  cases o with
  | none => exact .null
  | some l => exact (h l rfl).plain k

/-- An object with two fields. -/
theorem plain_pair {k : Nat} {m n : String} {v w : Json} (hne : m ≠ n) (hv : Json.Plain k v)
    (hw : Json.Plain k w) : Json.Plain (k + 1) (.obj [(.text m, v), (.text n, w)]) :=
  .obj (by simpa using hne) (by simp) (by simpa using ⟨hv, hw⟩)

/-- A manifest nests four deep, and every value in it reads back. -/
theorem IsTextual.plain_toManifest (h : t.IsTextual) (hpadded : t.defaults.length = t.names.length)
    (hsmall : ∀ i : Int, .index i ∈ t.positions → i.natAbs < 10 ^ Digits.most) :
    Json.Plain 4 t.toManifest := by
  have harguments : Json.Plain 3 (.arr ((t.names.zip t.paddedDefaults).map fun a =>
      .obj [("name", a.1.toJson), ("default", defaultJson a.2)])) := by
    rw [paddedDefaults_eq hpadded]
    refine .arr (List.forall_mem_map.2 fun a ha => ?_)
    obtain ⟨hname, hdefault⟩ := List.of_mem_zip ha
    exact plain_pair (by decide) ((h.names _ hname).plain 1)
      (plain_defaultJson (h.defaults _ hdefault) 1)
  have hpositions : Json.Plain 3 (.arr (t.positions.map Position.toJson)) := by
    refine .arr (List.forall_mem_map.2 fun p hp => ?_)
    obtain ⟨i, rfl⟩ := h.positions p hp
    exact .int (hsmall i hp)
  have hcombinations : Json.Plain 3 (.arr (t.combinations.map fun c =>
      .obj [("identifier", c.identifier.toJson), ("types", .arr (c.tags.map .str))])) := by
    refine .arr (List.forall_mem_map.2 fun c hc => ?_)
    exact plain_pair (by decide) ((h.identifiers c hc).plain 1)
      (.arr (List.forall_mem_map.2 fun tag _ => .str tag))
  refine .obj (by simp) (by simp) ?_
  simpa using ⟨h.function.plain 3, harguments, hpositions, hcombinations⟩

/-- The text of a manifest is read as the manifest. -/
theorem IsTextual.ofJson_toJson (h : t.IsTextual) (hpadded : t.defaults.length = t.names.length)
    (hsmall : ∀ i : Int, .index i ∈ t.positions → i.natAbs < 10 ^ Digits.most) :
    ofJson t.toJson = ofManifest t.toManifest := by
  have hread : Json.read (t.toManifest.print ⟨some 2, true, false⟩ ++ "\n") = .ok t.toManifest :=
    Json.read_print rfl (h.plain_toManifest hpadded hsmall) (by decide) "\n"
      (by simp [Json.IsGap, Json.isSpace])
  rw [ofJson, toJson, hread]

/-- A listed table is found again in the text of its manifest, which is ASCII. -/
theorem IsListed.ofJson_toJson (h : t.IsListed)
    (hsmall : ∀ i : Int, .index i ∈ t.positions → i.natAbs < 10 ^ Digits.most) :
    ofJson t.toJson = .ok t ∧ Json.AllPrinted t.toJson.toList := by
  refine ⟨?_, ?_⟩
  · rw [h.toIsTextual.ofJson_toJson h.padded hsmall]
    exact h.ofManifest_toManifest
  · rw [toJson, Json.print, String.toList_append, String.toList_ofList]
    exact (Json.allPrinted_printAt rfl (h.toIsTextual.plain_toManifest h.padded hsmall) 0).append
      (by decide)

end DispatchTable

/-! ### Tables of declarations -/

namespace Expansion

variable {d : Declaration}

theorem listed_table (hset : Settled d.arguments)
    (htags : ∀ a ∈ d.arguments, ∀ t ∈ a.typeList, t.IsTagged) : (table d).IsListed where
  function := ⟨d.name, rfl⟩
  names := List.forall_mem_map.2 fun n _ => ⟨n, rfl⟩
  defaults := by
    refine List.forall_mem_map.2 fun a _ l hl => ?_
    obtain ⟨s, -, rfl⟩ := Option.map_eq_some_iff.1 hl
    exact ⟨s, rfl⟩
  padded := by simp [table, Declaration.names]
  positions p hp := by
    obtain ⟨i, -, -, -, rfl⟩ := (mem_positions hset).1 hp
    exact ⟨i, rfl⟩
  numbered i c hc := by
    obtain ⟨choice, -, rfl⟩ : ∃ choice, (rowChoices d)[i]? = some choice ∧ row d i choice = c := by
      simpa [table, List.getElem?_mapIdx] using hc
    exact ⟨rfl, rfl⟩
  identifiers c hc := by
    obtain ⟨i, choice, -, rfl⟩ := mem_table.1 hc
    exact ⟨_, rfl⟩
  tagged _ hc := isTagged_of_mem_table hset htags hc

/-- The manifest of every table that a text expands to reads back to the table: function, names,
numbers, types, symbols, positions and defaults. Its text is ASCII, whatever the host types and the
defaults hold. Further tokens may name numeric types; none at all make the standard registry. The
bound is that of the reader, which refuses integers of more than 4300 digits; no text that fits into
a memory has so many arguments. -/
theorem ofJson_toJson_of_expand {text : String} {path : Option Path} {s : Scanned} {d : Declaration}
    {extra : List (String × ConcreteType)} {limit : Option Int} {t : DispatchTable}
    (hextra : ∀ e ∈ extra, e.2.isHost = false) (hscan : scan text path = .ok s)
    (hres : s.declaration.resolve (Registry.extended extra) = .ok d)
    (hexpand : d.expand limit = .ok t) (hsize : t.names.length ≤ 10 ^ Digits.most) :
    DispatchTable.ofJson t.toJson = .ok t ∧ Json.AllPrinted t.toJson.toList := by
  have hnumeric := Registry.extended_isNumeric hextra
  have hset := settled_of_scan_resolve hnumeric hscan hres
  have htags := isTagged_of_resolve hnumeric (Registry.extended_isStandard extra) hres
  obtain ⟨-, rfl⟩ := (expand_eq_ok_iff hset).1 hexpand
  refine (listed_table hset htags).ofJson_toJson fun i hi => ?_
  obtain ⟨j, a, hj, -, heq⟩ := (mem_positions hset).1 hi
  obtain ⟨hlt, -⟩ := List.getElem?_eq_some_iff.1 hj
  have hlength : (table d).names.length = d.arguments.length := by simp [table, Declaration.names]
  obtain rfl : i = j := by simpa using heq
  rw [Int.natAbs_natCast]
  omega

/-- A further token, and a host type and a default that hold quotes, a backslash and a character above
U+FFFF. -/
theorem ofJson_toJson_of_escapes :
    ∃ s d t, scan ("npe_function(f) npe_arg(x, real, csr_f32) npe_arg(h, T<\"\\n😀\">) " ++
        "npe_default_arg(y, int, \"\u00e9\\t\") npe_begin_code()") = .ok s ∧
      s.declaration.resolve (Registry.extended [("real", .dense .float64)]) = .ok d ∧
      d.expand none = .ok t ∧ t.combinations.map (·.types) =
        [[.dense .float64, .host "T<\"\\n😀\">", .host "int"],
          [.sparse .float32 .csr, .host "T<\"\\n😀\">", .host "int"]] ∧
      DispatchTable.ofJson t.toJson = .ok t := by
  obtain ⟨s, d, hscan, hres, hvalue⟩ := exists_scan_resolve_in
    (Registry.extended [("real", .dense .float64)])
    ("npe_function(f) npe_arg(x, real, csr_f32) npe_arg(h, T<\"\\n😀\">) " ++
      "npe_default_arg(y, int, \"\u00e9\\t\") npe_begin_code()")
    (fun d => (d.expand none).toOption.map fun t => (t.names.length, t.combinations.map (·.types)))
    (some (3, [[.dense .float64, .host "T<\"\\n😀\">", .host "int"],
      [.sparse .float32 .csr, .host "T<\"\\n😀\">", .host "int"]])) (by decide +kernel)
  cases hexp : d.expand none with
  | error e => simp [hexp, Except.toOption] at hvalue
  | ok t =>
    obtain ⟨hlength, htypes⟩ : t.names.length = 3 ∧ t.combinations.map (·.types) = _ := by
      simpa [hexp, Except.toOption] using hvalue
    have hsize : t.names.length ≤ 10 ^ Digits.most := by
      rw [hlength]
      decide +kernel
    exact ⟨s, d, t, hscan, hres, hexp, htypes,
      (ofJson_toJson_of_expand (by decide) hscan hres hexp hsize).1⟩

end Expansion

end Monomorph
