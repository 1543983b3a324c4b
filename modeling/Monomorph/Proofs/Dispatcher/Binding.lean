import Monomorph.Proofs.Dispatcher.Default
import Monomorph.Proofs.Record

/-!
Binding. A call gives values by position and by name, and the parameters that it leaves free take their
defaults. What a parameter is bound to is the first of four sources that has something for it: the
positional arguments, the keywords, the defaults that the dispatcher was made with, and the expressions
of its table. Each loop of the binding adds one source to the places, so a call is bound exactly if the
first two sources do not meet and the four together reach every parameter.

One name is never reached by a keyword: that of the parameter which stands for the dispatcher itself.
-/

namespace Monomorph

namespace Label

/-- The labels do not name the same. -/
def Apart (k l : Label) : Prop := k.same l = false ∧ l.same k = false

instance (k l : Label) : Decidable (Apart k l) :=
  inferInstanceAs (Decidable (_ ∧ _))

instance : Std.Symm Apart := ⟨fun _ _ h => h.symm⟩

/-- No two of the labels name the same. -/
def AreApart (labels : List Label) : Prop := labels.Pairwise Apart

instance (labels : List Label) : Decidable (AreApart labels) :=
  inferInstanceAs (Decidable (labels.Pairwise _))

/-- The value under a label in a mapping from texts. -/
def valueIn? (pairs : List (String × Value)) : Label → Option Value
  | text n => pairs.lookup n
  | other _ => none

/-- The value of a default expression, if it can be read. -/
def read? : Label → Option Value
  | text expression =>
    match Literal.ofDefault expression with
    | .ok (some l) => some (.literal l)
    | _ => none
  | other _ => none

theorem same_self (l : Label) : l.same l = true := by
  cases l <;> simp [same]

variable {α : Type} {names : List Label} {k l : Label} {r pairs : List (Label × α)} {v : α}

theorem AreApart.nodup (h : AreApart names) : names.Nodup :=
  h.imp fun hkl heq => by simp [Apart, ← heq, same_self] at hkl

/-- Among labels that are apart and texts, only equal ones name the same. -/
theorem AreApart.same_iff (h : AreApart names) (hk : k ∈ names ∨ k.IsText)
    (hl : l ∈ names ∨ l.IsText) : k.same l = true ↔ k = l := by
  refine ⟨fun hsame => ?_, fun heq => heq ▸ same_self k⟩
  cases k with
  | text s =>
    cases l with
    | text t => simpa [same] using hsame
    | other w => simp [same] at hsame
  | other v =>
    cases l with
    | text t => simp [same] at hsame
    | other w =>
      by_contra hne
      have hk : other v ∈ names := hk.resolve_right (by rintro ⟨_, ht⟩; cases ht)
      have hl : other w ∈ names := hl.resolve_right (by rintro ⟨_, ht⟩; cases ht)
      rw [(List.Pairwise.forall h hk hl hne).1] at hsame
      cases hsame

/-! ### Labels that name the same only if they are equal

Under such labels, a record of labels is an ordinary record. -/

section Exact

variable {P : Label → Prop} (hsame : ∀ k l, P k → P l → (k.same l = true ↔ k = l))

include hsame

theorem put_eq_put (hl : P l) (hr : ∀ e ∈ r, P e.1) : put l v r = Record.put l v r := by
  induction r with
  | nil => rfl
  | cons e r ih =>
    obtain ⟨he, hr⟩ := List.forall_mem_cons.1 hr
    have heq : e.1.same l = (e.1 == l) := by
      rw [Bool.eq_iff_iff, hsame e.1 l he hl, beq_iff_eq]
    rw [put, Record.put, heq, ih hr]

theorem recordOf_eq_ofPairs (hpairs : ∀ e ∈ pairs, P e.1) : recordOf pairs = Record.ofPairs pairs := by
  induction pairs using List.reverseRecOn with
  | nil => rfl
  | append_singleton pairs p ih =>
    obtain ⟨hpairs, hp⟩ := List.forall_mem_append.1 hpairs
    rw [recordOf, List.foldl_append, Record.ofPairs, List.foldl_append]
    change put p.1 p.2 (recordOf pairs) = Record.put p.1 p.2 (Record.ofPairs pairs)
    rw [ih hpairs]
    exact put_eq_put hsame (hp p List.mem_cons_self) fun e he =>
      hpairs e (Record.mem_of_mem_ofPairs he)

theorem lookup?_eq_lookup (hk : P k) (hr : ∀ e ∈ r, P e.1) : k.lookup? r = r.lookup k := by
  induction r with
  | nil => rfl
  | cons e r ih =>
    obtain ⟨he, hr⟩ := List.forall_mem_cons.1 hr
    have heq : e.1.same k = (k == e.1) := by
      rw [Bool.eq_iff_iff, hsame e.1 k he hk, beq_iff_eq, eq_comm]
    rw [lookup?, List.find?_cons, heq, List.lookup_cons, ← ih hr]
    cases k == e.1 <;> rfl

end Exact

/-- A mapping from texts, as pairs of labels. -/
theorem lookup_map_text {given : List (String × Value)} :
    (given.map fun e => (text e.1, e.2)).lookup k = k.valueIn? given := by
  induction given with
  | nil => cases k <;> rfl
  | cons e given ih =>
    rw [List.map_cons, List.lookup_cons, ih]
    cases k with
    | text n =>
      have heq : (text n == text e.1) = (n == e.1) := by
        rw [Bool.eq_iff_iff, beq_iff_eq, beq_iff_eq, text.injEq]
      rw [heq, valueIn?, valueIn?, List.lookup_cons]
    | other w =>
      rw [beq_eq_false_iff_ne.2 (by simp)]
      rfl

end Label

namespace DispatchTable

variable {arguments : List Value} {keywords explicit : List (String × Value)} {i : Nat}

/-- The value that a mapping gives for the parameter at a place. -/
def valueAt? (t : DispatchTable) (pairs : List (String × Value)) (i : Nat) : Option Value :=
  t.names[i]?.bind (·.valueIn? pairs)

/-- The default of the parameter at a place: the one in a mapping, else the value of the expression that
the table has for it. -/
def defaultAt? (t : DispatchTable) (explicit : List (String × Value)) (i : Nat) : Option Value :=
  (t.valueAt? explicit i).or (t.paddedDefaults[i]?.join.bind Label.read?)

/-- What a call gives to the parameter at a place: the positional argument, else the keyword of that
name, else the default. -/
def sourceAt? (t : DispatchTable) (arguments : List Value) (keywords explicit : List (String × Value))
    (i : Nat) : Option Value :=
  arguments[i]?.or ((t.valueAt? keywords i).or (t.defaultAt? explicit i))

/-- Can a table be called with these arguments? -/
structure Accepts (t : DispatchTable) (arguments : List Value)
    (keywords explicit : List (String × Value)) : Prop where
  /-- There are no more arguments than parameters. -/
  count : arguments.length ≤ t.names.length
  /-- Every keyword names a parameter that has no positional argument. -/
  named : ∀ key ∈ keywords.map (·.1), ∃ i, arguments.length ≤ i ∧ t.names[i]? = some (.text key)
  /-- Every other parameter has a keyword or a default. -/
  complete : ∀ i, arguments.length ≤ i → i < t.names.length →
    (t.valueAt? keywords i).isSome ∨ (t.defaultAt? explicit i).isSome

end DispatchTable

/-- Is what a fault says of a call the case? -/
def BindingFault.Applies (t : DispatchTable) (arguments : List Value)
    (keywords explicit : List (String × Value)) : BindingFault → Prop
  | ownName => Dispatcher.ownName ∈ keywords.map (·.1)
  | tooMany function expected given =>
    function = t.function.shown ∧ expected = t.names.length ∧ given = arguments.length ∧
      expected < given
  | unexpected function key =>
    function = t.function.shown ∧ key ∈ keywords.map (·.1) ∧ .text key ∉ t.names
  | repeated function key =>
    function = t.function.shown ∧ key ∈ keywords.map (·.1) ∧
      ∃ i < arguments.length, t.names[i]? = some (.text key)
  | missing function name =>
    function = t.function.shown ∧ ∃ i k, t.names[i]? = some k ∧ k.shown = name ∧
      t.sourceAt? arguments keywords explicit i = none
  | notKey =>
    ∃ i k, t.names[i]? = some k ∧ k.isKey = false ∧ t.sourceAt? arguments keywords explicit i = none

namespace Dispatcher

variable {t : DispatchTable} {d : Dispatcher} {arguments values : List Value} {function : String}
  {names : List Label} {keywords explicit : List (String × Value)} {defaults : List (Label × Value)}
  {places later : List (Option Value)} {pairs : List (Label × Option Value)} {i : Nat}

/-! ### The loop over the keywords -/

/-- A value that is put into a place shadows what the keywords would give it, and no other place. -/
theorem zipWith_set {name : String} {v : Value} (hnames : names.Nodup)
    (hi : names[i]? = some (Label.text name)) (hfree : places[i]? = some none) :
    List.zipWith (fun n place => place.or (n.valueIn? keywords)) names (places.set i (some v)) =
      List.zipWith (fun n place => place.or (n.valueIn? ((name, v) :: keywords))) names places := by
  refine List.ext_getElem? fun j => ?_
  rw [List.getElem?_zipWith, List.getElem?_zipWith]
  by_cases hj : j = i
  · subst hj
    obtain ⟨hlt, -⟩ := List.getElem?_eq_some_iff.1 hfree
    simp [hi, hfree, List.getElem?_set_self hlt, Label.valueIn?]
  · rw [List.getElem?_set_ne fun heq => hj heq.symm]
    cases hn : names[j]? with
    | none => rfl
    | some n =>
      have hne : n ≠ .text name := by
        rintro rfl
        obtain ⟨hlt, -⟩ := List.getElem?_eq_some_iff.1 hn
        exact hj ((List.getElem?_inj hlt hnames).1 (hn.trans hi.symm))
      have hvalue : n.valueIn? ((name, v) :: keywords) = n.valueIn? keywords := by
        cases n with
        | text m =>
          rw [Label.valueIn?, List.lookup_cons, beq_eq_false_iff_ne.2 fun heq => hne (by rw [heq])]
          rfl
        | other w => rfl
      cases places[j]? <;> simp [hvalue]

/-- With a value in the place of one keyword, the other keywords find the same free places. -/
theorem exists_free_set_iff {name key : String} {v : Value} (hnames : names.Nodup)
    (hi : names[i]? = some (Label.text name)) (hfree : places[i]? = some none) :
    (∃ j : Nat, names[j]? = some (Label.text key) ∧ (places.set i (some v))[j]? = some none) ↔
      key ≠ name ∧ ∃ j : Nat, names[j]? = some (Label.text key) ∧ places[j]? = some none := by
  have htaken : (places.set i (some v))[i]? ≠ some none := by
    obtain ⟨hlt, -⟩ := List.getElem?_eq_some_iff.1 hfree
    simp [List.getElem?_set_self hlt]
  constructor
  · rintro ⟨j, hj, hset⟩
    have hne : i ≠ j := by
      rintro rfl
      exact htaken hset
    refine ⟨fun heq => hne ?_, j, hj, by rwa [List.getElem?_set_ne hne] at hset⟩
    obtain ⟨hlt, -⟩ := List.getElem?_eq_some_iff.1 hi
    exact (List.getElem?_inj hlt hnames).1 (by rw [hi, hj, heq])
  · rintro ⟨hkey, j, hj, hfree'⟩
    have hne : i ≠ j := by
      rintro rfl
      rw [hi, Option.some.injEq, Label.text.injEq] at hj
      exact hkey hj.symm
    exact ⟨j, hj, by rwa [List.getElem?_set_ne hne]⟩

/-- Every keyword takes a free place, and the places that are left keep what they have. -/
theorem bindKeywords_eq_ok_iff (hnames : names.Nodup) (hlength : places.length = names.length) :
    bindKeywords function names places keywords = .ok later ↔
      (keywords.map (·.1)).Nodup ∧
      (∀ key ∈ keywords.map (·.1),
        ∃ i : Nat, names[i]? = some (Label.text key) ∧ places[i]? = some none) ∧
      List.zipWith (fun n place => place.or (n.valueIn? keywords)) names places = later := by
  induction keywords generalizing places with
  | nil =>
    have hsame : List.zipWith (fun n place => place.or (n.valueIn? [])) names places = places := by
      refine List.ext_getElem (by simp [hlength]) fun j hj hj' => ?_
      have hnone : names[j].valueIn? [] = none := by cases names[j] <;> rfl
      rw [List.getElem_zipWith, hnone, Option.or_none]
    simp [bindKeywords, hsame]
  | cons keyword rest ih =>
    obtain ⟨name, v⟩ := keyword
    rw [bindKeywords, List.map_cons, List.nodup_cons, List.forall_mem_cons]
    split
    · next hnone =>
      refine iff_of_false (by simp) ?_
      rintro ⟨-, ⟨⟨i, hi, -⟩, -⟩, -⟩
      exact List.idxOf?_eq_none_iff.1 hnone (List.mem_of_getElem? hi)
    · next i hsome =>
      obtain ⟨hlt, hname, -⟩ := List.idxOf?_eq_some_iff.1 hsome
      have hi : names[i]? = some (.text name) := by rw [List.getElem?_eq_getElem hlt, hname]
      split
      · next hfree =>
        rw [ih (by rw [List.length_set, hlength]), zipWith_set hnames hi hfree]
        simp only [exists_free_set_iff hnames hi hfree]
        constructor
        · rintro ⟨hnodup, hplaces, hlater⟩
          have hnot : name ∉ rest.map (·.1) := fun hmem => (hplaces name hmem).1 rfl
          exact ⟨⟨hnot, hnodup⟩, ⟨⟨i, hi, hfree⟩, fun key hkey => (hplaces key hkey).2⟩, hlater⟩
        · rintro ⟨⟨hnot, hnodup⟩, ⟨-, hplaces⟩, hlater⟩
          exact ⟨hnodup, fun key hkey => ⟨fun heq => hnot (heq ▸ hkey), hplaces key hkey⟩, hlater⟩
      · next htaken =>
        -- the names differ, so the keyword has no place but this one
        refine iff_of_false (by simp) ?_
        rintro ⟨-, ⟨⟨j, hj, hfree⟩, -⟩, -⟩
        obtain rfl := (List.getElem?_inj hlt hnames).1 (hi.trans hj.symm)
        exact htaken hfree

/-- A keyword is refused if it names no parameter, or one that is bound already. -/
theorem bindKeywords_eq_error {fault : BindingFault} (hnodup : (keywords.map (·.1)).Nodup)
    (h : bindKeywords function names places keywords = .error fault) :
    ∃ key ∈ keywords.map (·.1),
      (fault = .unexpected function key ∧ .text key ∉ names) ∨
      (fault = .repeated function key ∧
        ∃ i : Nat, names[i]? = some (Label.text key) ∧ places[i]? ≠ some none) := by
  induction keywords generalizing places with
  | nil => cases h
  | cons keyword rest ih =>
    obtain ⟨name, v⟩ := keyword
    rw [List.map_cons, List.nodup_cons] at hnodup
    rw [bindKeywords] at h
    split at h
    · next hnone =>
      cases h
      exact ⟨name, List.mem_cons_self, .inl ⟨rfl, List.idxOf?_eq_none_iff.1 hnone⟩⟩
    · next i hsome =>
      obtain ⟨hlt, hname, -⟩ := List.idxOf?_eq_some_iff.1 hsome
      have hi : names[i]? = some (.text name) := by rw [List.getElem?_eq_getElem hlt, hname]
      split at h
      · obtain ⟨key, hkey, hfault⟩ := ih hnodup.2 h
        refine ⟨key, List.mem_cons_of_mem _ hkey, hfault.imp_right ?_⟩
        rintro ⟨hrepeated, j, hj, htaken⟩
        have hne : i ≠ j := by
          rintro rfl
          rw [hi, Option.some.injEq, Label.text.injEq] at hj
          exact hnodup.1 (hj ▸ hkey)
        exact ⟨hrepeated, j, hj, by rwa [List.getElem?_set_ne hne] at htaken⟩
      · next htaken =>
        cases h
        exact ⟨name, List.mem_cons_self, .inr ⟨rfl, i, hi, htaken⟩⟩

/-! ### The loop over the free places -/

/-- Every free place takes the default of its name. -/
theorem fillDefaults_eq_ok_iff (hkeys : ∀ p ∈ pairs, (p.1.lookup? defaults).isSome → p.1.isKey) :
    fillDefaults function defaults pairs = .ok values ↔
      pairs.map (fun p => p.2.or (p.1.lookup? defaults)) = values.map some := by
  have hbehind : ∀ {x : Except BindingFault (List Value)} {v : Value} {values : List Value},
      x.map (v :: ·) = .ok values ↔ ∃ others, v :: others = values ∧ x = .ok others := by
    intro x v values
    cases x with
    | error fault => simp [Except.map]
    | ok others => simp [Except.map]
  induction pairs generalizing values with
  | nil => cases values <;> simp [fillDefaults]
  | cons pair rest ih =>
    obtain ⟨hkey, hrest⟩ := List.forall_mem_cons.1 hkeys
    obtain ⟨name, _ | v⟩ := pair
    · rw [fillDefaults, List.map_cons, Option.none_or]
      cases hdefault : name.lookup? defaults with
      | none =>
        have hnot : none :: rest.map (fun p => p.2.or (p.1.lookup? defaults)) ≠ values.map some := by
          cases values <;> simp
        split <;> exact iff_of_false (by simp) hnot
      | some w =>
        rw [if_neg (by simpa using hkey (by simp [hdefault]))]
        dsimp only
        rw [hbehind]
        simp only [ih hrest]
        cases values with
        | nil => simp
        | cons first others => simp [and_comm]
    · rw [fillDefaults, List.map_cons, Option.some_or, hbehind]
      simp only [ih hrest]
      cases values with
      | nil => simp
      | cons first others => simp

/-- A free place without a default is an error. -/
theorem fillDefaults_eq_error {fault : BindingFault}
    (h : fillDefaults function defaults pairs = .error fault) :
    ∃ p ∈ pairs, p.2 = none ∧
      ((fault = .notKey ∧ p.1.isKey = false) ∨
        (fault = .missing function p.1.shown ∧ p.1.lookup? defaults = none)) := by
  have hbehind : ∀ {x : Except BindingFault (List Value)} {v : Value},
      x.map (v :: ·) = .error fault → x = .error fault := by
    intro x v hx
    cases x <;> cases hx
    rfl
  induction pairs with
  | nil => cases h
  | cons pair rest ih =>
    have hlater : fillDefaults function defaults rest = .error fault →
        ∃ p ∈ pair :: rest, p.2 = none ∧
          ((fault = .notKey ∧ p.1.isKey = false) ∨
            (fault = .missing function p.1.shown ∧ p.1.lookup? defaults = none)) :=
      fun hrest => (ih hrest).imp fun _ hp => hp.imp_left (List.mem_cons_of_mem _)
    obtain ⟨name, _ | v⟩ := pair
    · rw [fillDefaults] at h
      split at h
      · next hnot =>
        cases h
        exact ⟨_, List.mem_cons_self, rfl, .inl ⟨rfl, by simpa using hnot⟩⟩
      · split at h
        · next hnone =>
          cases h
          exact ⟨_, List.mem_cons_self, rfl, .inr ⟨rfl, hnone⟩⟩
        · exact hlater (hbehind h)
    · rw [fillDefaults] at h
      exact hlater (hbehind h)

/-! ### The defaults of a dispatcher -/

/-- The values of the expressions that can be read, each under its name. -/
def readEntries (expressions : List (Label × Option Label)) : List (Label × Value) :=
  expressions.filterMap fun p => (p.2.bind Label.read?).map (p.1, ·)

/-- The defaults of the table that are kept are those that can be read. -/
theorem eq_readEntries_of_literalDefaults {expressions : List (Label × Option Label)}
    {own : List (Label × Value)} (h : literalDefaults expressions = .ok own) :
    own = readEntries expressions ∧ ∀ e ∈ own, e.1.isKey := by
  unfold readEntries
  fun_induction literalDefaults expressions generalizing own with
  | case1 =>
    cases h
    simp
  | case2 name rest ih => exact ih h
  | case3 name points rest ih => exact ih h
  | case4 => cases h
  | case5 => cases h
  | case6 name expression rest hvalue ih => simpa [Label.read?, hvalue] using ih h
  | case7 name expression rest l hvalue hkey ih =>
    cases hrest : literalDefaults rest with
    | error fault => simp [hrest, Except.map] at h
    | ok others =>
      simp only [hrest, Except.map, Except.ok.injEq] at h
      obtain ⟨hothers, hkeys⟩ := ih hrest
      refine ⟨by simp [← h, hothers, Label.read?, hvalue], ?_⟩
      rw [← h]
      exact List.forall_mem_cons.2 ⟨hkey, hkeys⟩
  | case8 => cases h

theorem name_mem_of_mem_readEntries {entries : List (Option Label)} {e : Label × Value}
    (he : e ∈ readEntries (names.zip entries)) : e.1 ∈ names := by
  obtain ⟨p, hp, hmap⟩ := List.mem_filterMap.1 he
  obtain ⟨v, -, rfl⟩ := Option.map_eq_some_iff.1 hmap
  exact (List.of_mem_zip hp).1

theorem nodup_names_readEntries {entries : List (Option Label)} (hnames : names.Nodup) :
    ((readEntries (names.zip entries)).map (·.1)).Nodup := by
  have hzip : ((names.zip entries).map (·.1)).Nodup := by
    rw [List.zip_eq_zip_take_min, List.map_fst_zip (by simp)]
    exact hnames.sublist (List.take_sublist _ _)
  rw [List.Nodup, List.pairwise_map, readEntries, List.pairwise_filterMap]
  refine (List.pairwise_map.1 hzip).imp fun hne e he e' he' => ?_
  obtain ⟨v, -, rfl⟩ := Option.map_eq_some_iff.1 he
  obtain ⟨v', -, rfl⟩ := Option.map_eq_some_iff.1 he'
  exact hne

/-- Under a name stands the value of the expression at the same place. -/
theorem lookup_readEntries_zip {entries : List (Option Label)} {k : Label} (hnames : names.Nodup)
    (hi : names[i]? = some k) :
    (readEntries (names.zip entries)).lookup k = entries[i]?.join.bind Label.read? := by
  induction names generalizing entries i with
  | nil => cases hi
  | cons name names ih =>
    rw [List.nodup_cons] at hnames
    cases entries with
    | nil => rfl
    | cons entry entries =>
      rw [List.zip_cons_cons, readEntries, List.filterMap_cons, ← readEntries]
      cases i with
      | zero =>
        rw [List.getElem?_cons_zero, Option.some.injEq] at hi
        subst hi
        rw [List.getElem?_cons_zero, Option.join_some]
        cases hvalue : entry.bind Label.read? with
        | some v => simp
        | none =>
          have hnone : (readEntries (names.zip entries)).lookup name = none := by
            rw [Record.lookup_eq_none_iff, List.mem_map]
            rintro ⟨e, he, rfl⟩
            exact hnames.1 (name_mem_of_mem_readEntries he)
          exact hnone
      | succ i =>
        rw [List.getElem?_cons_succ] at hi ⊢
        have hne : (k == name) = false :=
          beq_eq_false_iff_ne.2 fun heq => hnames.1 (heq ▸ List.mem_of_getElem? hi)
        cases entry.bind Label.read? with
        | none => exact ih hnames.2 hi
        | some v =>
          rw [Option.map_some, List.lookup_cons, hne]
          exact ih hnames.2 hi

/-- Different texts are different labels. -/
theorem nodup_text (hexplicit : (explicit.map (·.1)).Nodup) :
    ((explicit.map fun v => (Label.text v.1, v.2)).map (·.1)).Nodup := by
  have htexts : (explicit.map fun v => (Label.text v.1, v.2)).map (·.1) =
      (explicit.map (·.1)).map Label.text := by
    rw [List.map_map, List.map_map]
    rfl
  rw [htexts]
  exact hexplicit.map fun _ _ => Label.text.inj

/-- What a dispatcher has under a name is the default of that parameter. A name that cannot be looked up
has none. -/
theorem lookup?_defaults {implementations : List (Label × Implementation)} {k : Label}
    (hnames : Label.AreApart t.names) (hexplicit : (explicit.map (·.1)).Nodup)
    (hmake : make t implementations explicit = .ok d) (hi : t.names[i]? = some k) :
    k.lookup? d.defaults = t.defaultAt? explicit i ∧
      ((k.lookup? d.defaults).isSome → k.isKey) := by
  obtain ⟨-, own, hown, hdefaults⟩ := of_make hmake
  obtain ⟨rfl, hkeys⟩ := eq_readEntries_of_literalDefaults hown
  have hk : k ∈ t.names ∨ k.IsText := .inl (List.mem_of_getElem? hi)
  have hsame : ∀ k l : Label, (k ∈ t.names ∨ k.IsText) → (l ∈ t.names ∨ l.IsText) →
      (k.same l = true ↔ k = l) := fun _ _ => hnames.same_iff
  have hpairs : ∀ e ∈ readEntries (t.names.zip t.paddedDefaults) ++
      explicit.map fun v => (Label.text v.1, v.2), e.1 ∈ t.names ∨ e.1.IsText :=
    List.forall_mem_append.2 ⟨fun e he => .inl (name_mem_of_mem_readEntries he),
      List.forall_mem_map.2 fun v _ => .inr ⟨v.1, rfl⟩⟩
  have hkept : ((readEntries (t.names.zip t.paddedDefaults)).map (·.1)).Nodup :=
    nodup_names_readEntries hnames.nodup
  -- the values that are given come later, so they hide the table's own
  have hlookup : k.lookup? d.defaults = (k.valueIn? explicit).or
      ((readEntries (t.names.zip t.paddedDefaults)).lookup k) := by
    rw [hdefaults, Label.recordOf_eq_ofPairs hsame hpairs,
      Label.lookup?_eq_lookup hsame hk fun e he => hpairs e (Record.mem_of_mem_ofPairs he),
      Record.lookup_ofPairs, List.reverse_append, List.lookup_append,
      ← Record.lookup_eq_of_perm (List.reverse_perm _).symm (nodup_text hexplicit),
      ← Record.lookup_eq_of_perm (List.reverse_perm _).symm hkept, Label.lookup_map_text]
  constructor
  · rw [hlookup, lookup_readEntries_zip hnames.nodup hi, DispatchTable.defaultAt?,
      DispatchTable.valueAt?, hi, Option.bind_some]
  · rw [hlookup]
    intro hsome
    cases k with
    | text n => rfl
    | other w =>
      obtain ⟨v, hv⟩ := Option.isSome_iff_exists.1 hsome
      exact hkeys _ ((Record.lookup_eq_some_iff hkept).1 hv)

/-! ### Calls -/

/-- The places before the loops: those that the positional arguments take, and free ones. -/
def openPlaces (arguments : List Value) (n : Nat) : List (Option Value) :=
  arguments.map some ++ List.replicate (n - arguments.length) none

theorem length_openPlaces {n : Nat} (hcount : arguments.length ≤ n) :
    (openPlaces arguments n).length = n := by
  rw [openPlaces, List.length_append, List.length_map, List.length_replicate]
  omega

theorem getElem?_openPlaces {n : Nat} (hcount : arguments.length ≤ n) (hi : i < n) :
    (openPlaces arguments n)[i]? = some arguments[i]? := by
  rw [openPlaces, List.getElem?_append, List.length_map]
  split
  · next hlt => simp [hlt]
  · next hge =>
    rw [List.getElem?_replicate, if_pos (by omega), List.getElem?_eq_none (by omega)]

theorem getElem?_openPlaces_eq_none_iff {n : Nat} (hcount : arguments.length ≤ n) (hi : i < n) :
    (openPlaces arguments n)[i]? = some none ↔ arguments.length ≤ i := by
  rw [getElem?_openPlaces hcount hi, Option.some.injEq, List.getElem?_eq_none_iff]

/-- The order of the keywords does not matter to what a call gives. -/
theorem sourceAt?_of_perm {others : List (String × Value)} (h : others.Perm keywords)
    (hkeywords : (keywords.map (·.1)).Nodup) :
    t.sourceAt? arguments others explicit = t.sourceAt? arguments keywords explicit := by
  have hvalue : Label.valueIn? others = Label.valueIn? keywords := by
    funext l
    cases l with
    | text n => exact (Record.lookup_eq_of_perm h.symm hkeywords n).symm
    | other w => rfl
  funext i
  rw [DispatchTable.sourceAt?, DispatchTable.sourceAt?, DispatchTable.valueAt?,
    DispatchTable.valueAt?, hvalue]

section Calls

variable {implementations : List (Label × Implementation)} (hnames : Label.AreApart t.names)
  (hexplicit : (explicit.map (·.1)).Nodup) (hmake : make t implementations explicit = .ok d)

include hnames hexplicit hmake

/-- The loops look into the four sources one after the other. -/
theorem map_openPlaces (keywords : List (String × Value))
    (hcount : arguments.length ≤ t.names.length) :
    (t.names.zip (List.zipWith (fun n place => place.or (n.valueIn? keywords)) t.names
        (openPlaces arguments t.names.length))).map
      (fun p => p.2.or (p.1.lookup? d.defaults)) =
    (List.range t.names.length).map (t.sourceAt? arguments keywords explicit) := by
  refine List.ext_getElem? fun i => ?_
  rw [List.getElem?_map, List.getElem?_map]
  cases hi : t.names[i]? with
  | none =>
    have hle := List.getElem?_eq_none_iff.1 hi
    rw [List.getElem?_eq_none (by simp; omega), List.getElem?_eq_none (by simpa using hle)]
    rfl
  | some name =>
    obtain ⟨hlt, -⟩ := List.getElem?_eq_some_iff.1 hi
    have hplace := getElem?_openPlaces hcount hlt
    have hdefault := (lookup?_defaults hnames hexplicit hmake hi).1
    rw [List.getElem?_range hlt, List.zip, List.getElem?_zipWith, List.getElem?_zipWith, hi, hplace]
    simp [DispatchTable.sourceAt?, DispatchTable.valueAt?, hi, hdefault, Option.or_assoc]

/-- The arguments are bound if every keyword has its own free place, and then every parameter has what
the call or the dispatcher gives it. -/
theorem bind_eq_ok_iff :
    d.bind arguments keywords = .ok values ↔
      (ownName ∉ keywords.map (·.1) ∧ arguments.length ≤ t.names.length ∧
        (keywords.map (·.1)).Nodup ∧
        ∀ key ∈ keywords.map (·.1),
          ∃ i, arguments.length ≤ i ∧ t.names[i]? = some (Label.text key)) ∧
      (List.range t.names.length).map (t.sourceAt? arguments keywords explicit) =
        values.map some := by
  obtain ⟨htable, -⟩ := of_make hmake
  have hown : keywords.any (·.1 == ownName) = true ↔ ownName ∈ keywords.map (·.1) := by
    simp only [List.any_eq_true, beq_iff_eq, List.mem_map]
  rw [bind, htable]
  dsimp only
  by_cases hself : ownName ∈ keywords.map (·.1)
  · rw [if_pos (hown.2 hself)]
    exact iff_of_false (fun h => by cases h) fun h => h.1.1 hself
  rw [if_neg (hown.not.2 hself)]
  by_cases hcount : arguments.length ≤ t.names.length
  case neg =>
    rw [if_pos (by omega)]
    exact iff_of_false (fun h => by cases h) fun h => hcount h.1.2.1
  rw [if_neg (by omega), DispatchTable.bind_eq_ok_iff]
  have hkeywords {later : List (Option Value)} :
      bindKeywords t.function.shown t.names (openPlaces arguments t.names.length) keywords =
        .ok later ↔ _ :=
    bindKeywords_eq_ok_iff hnames.nodup (length_openPlaces hcount)
  have hdefaults {places : List (Option Value)} :
      ∀ p ∈ t.names.zip places, (p.1.lookup? d.defaults).isSome → p.1.isKey := by
    intro p hp
    obtain ⟨i, hi⟩ := List.getElem?_of_mem (List.of_mem_zip hp).1
    exact (lookup?_defaults hnames hexplicit hmake hi).2
  constructor
  · rintro ⟨places, hplaces, hfill⟩
    obtain ⟨hnodup, hnamed, rfl⟩ := hkeywords.1 hplaces
    rw [fillDefaults_eq_ok_iff hdefaults, map_openPlaces hnames hexplicit hmake keywords hcount] at hfill
    refine ⟨⟨hself, hcount, hnodup, fun key hkey => ?_⟩, hfill⟩
    obtain ⟨i, hi, hfree⟩ := hnamed key hkey
    obtain ⟨hlt, -⟩ := List.getElem?_eq_some_iff.1 hi
    exact ⟨i, (getElem?_openPlaces_eq_none_iff hcount hlt).1 hfree, hi⟩
  · rintro ⟨⟨-, -, hnodup, hnamed⟩, hsources⟩
    refine ⟨_, hkeywords.2 ⟨hnodup, fun key hkey => ?_, rfl⟩, (fillDefaults_eq_ok_iff hdefaults).2 ?_⟩
    · obtain ⟨i, hle, hi⟩ := hnamed key hkey
      obtain ⟨hlt, -⟩ := List.getElem?_eq_some_iff.1 hi
      exact ⟨i, hi, (getElem?_openPlaces_eq_none_iff hcount hlt).2 hle⟩
    · rw [map_openPlaces hnames hexplicit hmake keywords hcount, hsources]

/-- A call that cannot be bound is refused for a reason that it gives. -/
theorem applies_of_bind_eq_error {fault : BindingFault} (hkeywords : (keywords.map (·.1)).Nodup)
    (h : d.bind arguments keywords = .error fault) : fault.Applies t arguments keywords explicit := by
  obtain ⟨htable, -⟩ := of_make hmake
  rw [bind, htable] at h
  dsimp only at h
  split at h
  · next hself =>
    cases h
    simp only [List.any_eq_true, beq_iff_eq, ← List.mem_map] at hself
    exact hself
  split at h
  · next hcount =>
    cases h
    exact ⟨rfl, rfl, rfl, hcount⟩
  next hcount =>
  rw [not_lt] at hcount
  change (bindKeywords t.function.shown t.names (openPlaces arguments t.names.length) keywords >>=
    fun places => fillDefaults t.function.shown d.defaults (t.names.zip places)) = _ at h
  cases hplaces : bindKeywords t.function.shown t.names (openPlaces arguments t.names.length)
      keywords with
  | error fault' =>
    rw [hplaces] at h
    cases h
    obtain ⟨key, hkey, ⟨rfl, hnot⟩ | ⟨rfl, i, hi, htaken⟩⟩ :=
      bindKeywords_eq_error hkeywords hplaces
    · exact ⟨rfl, hkey, hnot⟩
    · obtain ⟨hlt, -⟩ := List.getElem?_eq_some_iff.1 hi
      rw [ne_eq, getElem?_openPlaces_eq_none_iff hcount hlt, not_le] at htaken
      exact ⟨rfl, hkey, i, htaken, hi⟩
  | ok places =>
    rw [hplaces] at h
    obtain ⟨-, -, rfl⟩ :=
      (bindKeywords_eq_ok_iff hnames.nodup (length_openPlaces hcount)).1 hplaces
    obtain ⟨p, hp, hfree, hfault⟩ := fillDefaults_eq_error h
    obtain ⟨i, hi⟩ := List.getElem?_of_mem hp
    have hname : t.names[i]? = some p.1 := (List.getElem?_zip_eq_some.1 hi).1
    obtain ⟨hlt, -⟩ := List.getElem?_eq_some_iff.1 hname
    have hsource : p.1.lookup? d.defaults = none →
        t.sourceAt? arguments keywords explicit i = none := by
      intro hnone
      have hmap := congrArg (·[i]?) (map_openPlaces hnames hexplicit hmake keywords hcount)
      simpa [hi, hfree, hnone, List.getElem?_range hlt] using hmap.symm
    rcases hfault with ⟨rfl, hkey⟩ | ⟨rfl, hnone⟩
    · refine ⟨i, p.1, hname, hkey, hsource ?_⟩
      by_contra hsome
      have hisKey :=
        (lookup?_defaults hnames hexplicit hmake hname).2 (Option.isSome_iff_ne_none.2 hsome)
      rw [hkey] at hisKey
      cases hisKey
    · exact ⟨rfl, i, p.1, hname, rfl, hsource hnone⟩

/-- Every parameter of a bound call has what the call or the dispatcher gives it. -/
theorem sources_of_bind (h : d.bind arguments keywords = .ok values) :
    values.length = t.names.length ∧
      ∀ i < t.names.length, values[i]? = t.sourceAt? arguments keywords explicit i := by
  have hmap := ((bind_eq_ok_iff hnames hexplicit hmake).1 h).2
  have hlength : values.length = t.names.length := by
    simpa using (congrArg List.length hmap).symm
  refine ⟨hlength, fun i hi => ?_⟩
  have hi' := congrArg (·[i]?) hmap
  have hlt : i < values.length := by rwa [hlength]
  simpa [List.getElem?_range hi, List.getElem?_eq_getElem hlt] using hi'.symm

theorem accepts_of_bind (h : d.bind arguments keywords = .ok values) :
    ownName ∉ keywords.map (·.1) ∧ t.Accepts arguments keywords explicit := by
  obtain ⟨⟨hself, hcount, -, hnamed⟩, -⟩ := (bind_eq_ok_iff hnames hexplicit hmake).1 h
  obtain ⟨hlength, hvalues⟩ := sources_of_bind hnames hexplicit hmake h
  refine ⟨hself, hcount, hnamed, fun i hle hlt => ?_⟩
  have hi := hvalues i hlt
  rw [List.getElem?_eq_getElem (by omega), DispatchTable.sourceAt?, List.getElem?_eq_none hle,
    Option.none_or] at hi
  rw [← Bool.or_eq_true, ← Option.isSome_or, ← hi, Option.isSome_some]

theorem exists_bind_of_accepts (hkeywords : (keywords.map (·.1)).Nodup)
    (hself : ownName ∉ keywords.map (·.1)) (haccepts : t.Accepts arguments keywords explicit) :
    ∃ values, d.bind arguments keywords = .ok values := by
  have hsome : ∀ i < t.names.length, (t.sourceAt? arguments keywords explicit i).isSome := by
    intro i hi
    rw [DispatchTable.sourceAt?, Option.isSome_or, Option.isSome_or, Bool.or_eq_true,
      Bool.or_eq_true]
    rcases Nat.lt_or_ge i arguments.length with hlt | hge
    · exact .inl (by simp [hlt])
    · exact .inr (haccepts.complete i hge hi)
  obtain ⟨values, hvalues⟩ : ∃ values : List Value,
      (List.range t.names.length).map (t.sourceAt? arguments keywords explicit) =
        values.map some :=
    ⟨List.ofFn fun i : Fin t.names.length =>
        (t.sourceAt? arguments keywords explicit i).get (hsome i i.isLt),
      List.ext_getElem (by simp) fun i _ _ => by simp⟩
  exact ⟨values, (bind_eq_ok_iff hnames hexplicit hmake).2
    ⟨⟨hself, haccepts.count, hkeywords, haccepts.named⟩, hvalues⟩⟩

/-- The order of the keywords does not change the outcome. -/
theorem toOption_bind_of_perm {others : List (String × Value)} (hperm : others.Perm keywords)
    (hkeywords : (keywords.map (·.1)).Nodup) :
    (d.bind arguments others).toOption = (d.bind arguments keywords).toOption := by
  ext values
  have hkeys := hperm.map (·.1)
  have htoOption {x : Except BindingFault (List Value)} :
      x.toOption = some values ↔ x = .ok values := by
    cases x <;> simp [Except.toOption]
  rw [htoOption, htoOption, bind_eq_ok_iff hnames hexplicit hmake,
    bind_eq_ok_iff hnames hexplicit hmake, sourceAt?_of_perm hperm hkeywords, hkeys.nodup_iff,
    hkeys.mem_iff]
  simp only [hkeys.mem_iff]

end Calls

/-- Binding. The arguments of a call are bound exactly if they are no more than the parameters, every
keyword names a parameter without positional argument, and every other parameter has a keyword or a
default; but no keyword can have the name of the parameter that stands for the dispatcher. Then every
parameter has its positional argument, else its keyword, else the default that the dispatcher was made
with, else the value of the expression in the table. Otherwise the call is refused, for a reason that it
gives. The order of the keywords does not change the outcome. -/
theorem bind_iff_accepts {implementations : List (Label × Implementation)}
    (hnames : Label.AreApart t.names) (hexplicit : (explicit.map (·.1)).Nodup)
    (hmake : make t implementations explicit = .ok d) (arguments : List Value)
    (hkeywords : (keywords.map (·.1)).Nodup) :
    ((∃ values, d.bind arguments keywords = .ok values) ↔
      ownName ∉ keywords.map (·.1) ∧ t.Accepts arguments keywords explicit) ∧
    (∀ values, d.bind arguments keywords = .ok values → values.length = t.names.length ∧
      ∀ i < t.names.length, values[i]? = t.sourceAt? arguments keywords explicit i) ∧
    (∀ fault, d.bind arguments keywords = .error fault →
      fault.Applies t arguments keywords explicit) ∧
    ∀ others, others.Perm keywords →
      (d.bind arguments others).toOption = (d.bind arguments keywords).toOption := by
  refine ⟨⟨?_, ?_⟩, fun values => sources_of_bind hnames hexplicit hmake,
    fun fault => applies_of_bind_eq_error hnames hexplicit hmake hkeywords,
    fun others hperm => toOption_bind_of_perm hnames hexplicit hmake hperm hkeywords⟩
  · rintro ⟨values, hbind⟩
    exact accepts_of_bind hnames hexplicit hmake hbind
  · rintro ⟨hself, haccepts⟩
    exact exists_bind_of_accepts hnames hexplicit hmake hkeywords hself haccepts

/-- A call whose three parameters have their values from three different sources. -/
theorem bind_iff_accepts_of_three :
    ∃ d values, make ⟨"f", ["x", "y", "z"], [], [], [none, some "1", some "2"]⟩ []
        [("y", .literal (.int 7))] = .ok d ∧
      d.bind [.literal (.int 3)] [("z", .literal (.int 9))] = .ok values ∧
      values = [.literal (.int 3), .literal (.int 7), .literal (.int 9)] := by
  obtain ⟨t, ht⟩ : ∃ t : DispatchTable,
      t = ⟨"f", ["x", "y", "z"], [], [], [none, some "1", some "2"]⟩ := ⟨_, rfl⟩
  have hmakes : (make t [] [("y", .literal (.int 7))]).toOption.isSome := by
    rw [ht]
    decide +kernel
  rw [← ht]
  cases hmake : make t [] [("y", .literal (.int 7))] with
  | error fault => simp [hmake, Except.toOption] at hmakes
  | ok d =>
    have hnames : Label.AreApart t.names := by
      rw [ht]
      decide
    have hkeywords : ([("z", Value.literal (.int 9))].map (·.1)).Nodup := by decide
    obtain ⟨hbinds, hsources, -⟩ :=
      bind_iff_accepts hnames (by decide) hmake [.literal (.int 3)] hkeywords
    have haccepts : t.Accepts [.literal (.int 3)] [("z", .literal (.int 9))]
        [("y", .literal (.int 7))] := by
      subst ht
      refine ⟨by decide, by simpa using ⟨2, by decide, rfl⟩, fun i hle hlt => ?_⟩
      obtain rfl | rfl : i = 1 ∨ i = 2 := by
        simp at hle hlt
        omega
      · exact .inr rfl
      · exact .inl rfl
    obtain ⟨values, hvalues⟩ := hbinds.2 ⟨by decide, haccepts⟩
    obtain ⟨hlength, hplaces⟩ := hsources values hvalues
    refine ⟨d, values, rfl, hvalues, List.ext_getElem? fun i => ?_⟩
    subst ht
    rcases Nat.lt_or_ge i 3 with hlt | hge
    · rw [hplaces i hlt]
      obtain rfl | rfl | rfl : i = 0 ∨ i = 1 ∨ i = 2 := by omega
      all_goals rfl
    · rw [List.getElem?_eq_none (hlength.trans_le hge)]
      exact (List.getElem?_eq_none hge).symm

/-- A function can have a parameter with the name of the one that stands for the dispatcher, and the host
takes a keyword for it. The dispatcher refuses the call, although it gives every parameter its value. -/
theorem bind_refuses_own_name :
    ∃ text s c f d, scan text = .ok s ∧ Build.expanded c s.declaration = .ok f ∧
      (Emission.Registration.of f).arguments = [("self", none)] ∧
      make f.table = .ok d ∧ Label.AreApart f.table.names ∧
      f.table.Accepts [] [("self", .literal (.int 5))] [] ∧
      d.bind [] [("self", .literal (.int 5))] = .error .ownName := by
  obtain ⟨text, htext⟩ : ∃ text,
      text = "npe_function(f) npe_arg(self, int) npe_begin_code()" := ⟨_, rfl⟩
  obtain ⟨c, hc⟩ : ∃ c : Config, c = { projectRoot := ⟨.relative, []⟩ } := ⟨_, rfl⟩
  have hruns : ((scan text).toOption.bind fun s => (Build.expanded c s.declaration).toOption.bind
      fun f => (make f.table).toOption.map fun _ =>
        ((Emission.Registration.of f).arguments, f.table.names)) =
      some ([("self", none)], [Label.text "self"]) := by
    rw [htext, hc]
    decide +kernel
  cases hscan : scan text with
  | error e => simp [hscan, Except.toOption] at hruns
  | ok s =>
    cases hexpanded : Build.expanded c s.declaration with
    | error e => simp [hscan, hexpanded, Except.toOption] at hruns
    | ok f =>
      cases hmake : make f.table with
      | error e => simp [hscan, hexpanded, hmake, Except.toOption] at hruns
      | ok d =>
        simp only [hscan, hexpanded, hmake, Except.toOption, Option.bind_some, Option.map_some,
          Option.some.injEq, Prod.mk.injEq] at hruns
        obtain ⟨harguments, hnames⟩ := hruns
        refine ⟨text, s, c, f, d, hscan, hexpanded, harguments, hmake, ?_, ⟨?_, ?_, ?_⟩, rfl⟩
        · rw [hnames]
          decide
        · simp
        · simpa using ⟨0, by rw [hnames]; rfl⟩
        · intro i _ hi
          obtain rfl : i = 0 := by simpa [hnames] using hi
          exact .inl (by rw [DispatchTable.valueAt?, hnames]; rfl)

end Dispatcher

end Monomorph
