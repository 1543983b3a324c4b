import Monomorph.Dispatcher
import Monomorph.Proofs.DispatchTable.Mismatch
import Monomorph.Proofs.Emission.Table

/-!
The choice of a specialisation at run time. Dispatch compares tags, and a specialisation takes storage:
both agree, since the tag of a value is that of a numeric type only if the value has that type. The
telling tags of arrays and matrices that no specialisation takes have an angle bracket in them. So a
combination is chosen exactly if the values have its types at the dispatched positions, and then every
value can be shown to the specialisation. Otherwise there is a position to report.
-/

namespace Monomorph

open Position

/-! ### Tags of values -/

theorem ConcreteType.not_mem_tag : ∀ t ∈ numeric, '<' ∉ t.tag.toList := by decide

namespace Value

variable {v : Value} {t : ConcreteType}

theorem isHost_of_typeOf? (h : v.typeOf? = some t) : t.isHost = false := by
  cases v with
  | literal l => cases h
  | array b =>
    obtain ⟨e, -, rfl⟩ := Option.map_eq_some_iff.1 h
    rfl
  | sparse s =>
    simp only [typeOf?] at h
    split at h
    · obtain ⟨e, -, rfl⟩ := Option.map_eq_some_iff.1 h
      rfl
    · cases h
  | view kind n => cases h

/-- The tag of a value without numeric type is the name of its class or has an angle bracket. -/
theorem tag_of_typeOf?_eq_none (h : v.typeOf? = none) :
    '<' ∈ v.tag.toList ∨ v.tag = v.className ∧ (∀ b, v ≠ array b) ∧ ∀ s, v ≠ sparse s := by
  unfold tag
  simp only [h]
  cases v with
  | literal l => exact .inr ⟨rfl, by simp, by simp⟩
  | array b => exact .inl (by simp [ToString.toString])
  | sparse s => exact .inl (by simp [ToString.toString])
  | view kind n => exact .inr ⟨rfl, by simp, by simp⟩

/-- Is a value an array or a sparse matrix, or has it a class that no numeric type is called? -/
def IsTold (v : Value) : Prop :=
  (∃ b, v = array b) ∨ (∃ s, v = sparse s) ∨ ∀ t ∈ ConcreteType.numeric, v.className ≠ t.tag

/-- The tag of a value is that of a numeric type exactly if the value has this type. -/
theorem tag_eq_iff (hv : v.IsTold) (ht : t.isHost = false) : v.tag = t.tag ↔ v.typeOf? = some t := by
  cases htype : v.typeOf? with
  | some u =>
    have htag : v.tag = u.tag := by
      unfold tag
      simp only [htype]
    rw [htag, Option.some.injEq]
    exact ⟨ConcreteType.eq_of_tag (isHost_of_typeOf? htype) ht, congrArg _⟩
  | none =>
    have hmem := ConcreteType.mem_numeric ht
    refine iff_of_false (fun htag => ?_) (by simp)
    rcases tag_of_typeOf?_eq_none htype with hangle | ⟨hname, hblock, hmatrix⟩
    · exact ConcreteType.not_mem_tag t hmem (htag ▸ hangle)
    · rcases hv with ⟨b, hb⟩ | ⟨s, hs⟩ | hclass
      · exact hblock b hb
      · exact hmatrix s hs
      · exact hclass t hmem (hname ▸ htag)

end Value

/-! ### Tags of the dispatched values -/

namespace Dispatcher

variable {values : List Value} {tags : List (Option String)} {ps : List Position}

/-- Every dispatched place gets the tag of its value, whatever stood there. -/
theorem exists_tagsAt (htags : tags.length = values.length) (hps : InRange ps values.length) :
    ∃ tags', tagsAt values tags ps = .ok tags' ∧ tags'.length = values.length ∧
      ∀ i : Nat, tags'[i]? =
        if .index i ∈ ps then values[i]?.map fun v => some v.tag else tags[i]? := by
  induction ps generalizing tags with
  | nil => exact ⟨tags, rfl, htags, fun i => by simp⟩
  | cons p ps ih =>
    obtain ⟨n, hn, rfl⟩ := hps p List.mem_cons_self
    obtain ⟨tags', hrun, hlen, hread⟩ :=
      ih (by rw [List.length_set, htags] : (tags.set n (values[n]?.map (·.tag))).length = _) hps.tail
    refine ⟨tags', ?_, hlen, fun i => ?_⟩
    · have hplace : (Position.index n).placeIn values.length = .ok n := by
        simp [Position.placeIn, Position.int?, placeIn?, hn]
      rw [tagsAt, hplace]
      exact hrun
    · rw [hread]
      by_cases hi : .index i ∈ ps
      · simp [hi]
      · by_cases heq : n = i
        · subst heq
          simp [hi, hn, htags]
        · have hne : ¬ (i : Int) = (n : Int) := by omega
          simp [hi, heq, hne]

end Dispatcher

/-- Have some values the types of a combination at some positions? -/
def Combination.Takes (c : Combination) (values : List Value) (ps : List Position) : Prop :=
  ∀ i : Nat, .index i ∈ ps → values[i]?.bind (·.typeOf?) = c.types[i]?

/-! ### What a specialisation is given -/

namespace Memory

/-- A value as a specialisation that has some type for it is given it: a live view of that type on the
storage of the value, or the value itself for a host type. -/
def Gives (m : Memory) (v : Value) : ConcreteType → Value → Prop
  | .dense e, given => ∃ n b, given = .view .dense n ∧ v = .array b ∧
      m.view? n = some ⟨some (.dense e), .dense b, .live, false⟩
  | .sparse e layout, given => ∃ n s parts, given = .view .sparse n ∧ v = .sparse s ∧
      s.storage = .compressed layout parts ∧
      m.view? n = some ⟨some (.sparse e layout), .sparse parts s.rows s.columns, .live, false⟩
  | .host _, given => given = v

variable {m : Memory} {v : Value} {t : ConcreteType}

/-- Views that are made later change nothing about what is given. -/
theorem Gives.append {given : Value} (h : m.Gives v t given) (made : List View) :
    ({ m with views := m.views ++ made } : Memory).Gives v t given := by
  have hview : ∀ {n w}, m.view? n = some w →
      ({ m with views := m.views ++ made } : Memory).view? n = some w := by
    intro n w hw
    have hn : n < m.views.length := (List.getElem?_eq_some_iff.1 hw).1
    exact (List.getElem?_append_left hn).trans hw
  cases t with
  | dense e =>
    obtain ⟨n, b, hgiven, hv, hw⟩ := h
    exact ⟨n, b, hgiven, hv, hview hw⟩
  | sparse e layout =>
    obtain ⟨n, s, parts, hgiven, hv, hstorage, hw⟩ := h
    exact ⟨n, s, parts, hgiven, hv, hstorage, hview hw⟩
  | host text => exact h

/-- A value can be given for its own type, and for a host type. -/
theorem exists_viewAs (m : Memory) (h : t.isHost = false → v.typeOf? = some t) :
    ∃ given made, m.viewAs v t = .ok (given, { m with views := m.views ++ made }) ∧
      ({ m with views := m.views ++ made } : Memory).Gives v t given := by
  cases t with
  | host text => exact ⟨v, [], by simp [viewAs], rfl⟩
  | dense e =>
    have htype := h rfl
    cases v with
    | array b => exact ⟨_, _, rfl, m.views.length, b, rfl, rfl, by simp [view?]⟩
    | literal l => cases htype
    | sparse s =>
      simp only [Value.typeOf?] at htype
      split at htype <;> simp at htype
    | view kind n => cases htype
  | sparse e layout =>
    have htype := h rfl
    cases v with
    | array b => simp [Value.typeOf?] at htype
    | literal l => cases htype
    | sparse s =>
      obtain ⟨storage, format, rows, columns, isArray⟩ := s
      cases storage with
      | compressed layout' parts =>
        obtain ⟨-, rfl⟩ : format.element? = some e ∧ layout' = layout := by
          simpa [Value.typeOf?] using htype
        exact ⟨_, _, rfl, m.views.length, _, parts, rfl, rfl, rfl, by simp [view?]⟩
      | other name => cases htype
    | view kind n => cases htype

/-- All arguments can be given if every value has the numeric type that is asked for. -/
theorem exists_viewAll (m : Memory) {pairs : List (Value × ConcreteType)}
    (h : ∀ a ∈ pairs, a.2.isHost = false → a.1.typeOf? = some a.2) :
    ∃ given made, m.viewAll pairs = .ok (given, { m with views := m.views ++ made }) ∧
      List.Forall₂ (fun a g => ({ m with views := m.views ++ made } : Memory).Gives a.1 a.2 g)
        pairs given := by
  induction pairs generalizing m with
  | nil => exact ⟨[], [], by simp [viewAll], .nil⟩
  | cons a pairs ih =>
    obtain ⟨ha, hpairs⟩ := List.forall_mem_cons.1 h
    obtain ⟨first, made, hfirst, hgives⟩ := exists_viewAs m ha
    obtain ⟨others, made', hothers, hall⟩ := ih { m with views := m.views ++ made } hpairs
    rw [List.append_assoc] at hothers hall
    refine ⟨first :: others, made ++ made', ?_, .cons ?_ hall⟩
    · rw [viewAll, hfirst]
      simp only [bind, Except.bind, hothers, pure, Except.pure]
    · rw [← List.append_assoc]
      exact hgives.append made'

end Memory

/-! ### Tables of settled declarations -/

namespace Expansion

open DispatchTable

variable {d : Declaration} {c : Combination} {disp : Dispatcher} {values : List Value}
  {tags : List (Option String)}

theorem exists_tags (hset : Settled d.arguments) (htable : disp.table = table d)
    (hlen : values.length = (table d).names.length) :
    ∃ tags, disp.tags values = .ok tags ∧ tags.length = values.length ∧
      ∀ i : Nat, .index i ∈ (table d).positions → tags[i]? = values[i]?.map fun v => some v.tag := by
  have hfree : (values.map fun _ => (none : Option String)).length = values.length := by simp
  obtain ⟨tags, hrun, htags, hread⟩ :=
    Dispatcher.exists_tagsAt hfree (hlen ▸ (regular_table hset).inRange)
  refine ⟨tags, by rw [Dispatcher.tags, htable]; exact hrun, htags, fun i hi => ?_⟩
  rw [hread, if_pos hi]

/-- At dispatched positions a combination has the tags of some values exactly if they have its
types. -/
theorem hasTags_iff_takes (hset : Settled d.arguments) (hc : c ∈ (table d).combinations)
    (hlen : values.length = (table d).names.length) (hvalues : ∀ v ∈ values, v.IsTold)
    (htags : tags.length = values.length)
    (hread : ∀ i : Nat, .index i ∈ (table d).positions → tags[i]? = values[i]?.map fun v => some v.tag)
    {ps : List Position} (hps : ps ⊆ (table d).positions) :
    HasTags tags ps c ↔ c.Takes values ps := by
  have hreg := regular_table hset
  have hown : Within ps (c.tags.map some).length := by
    rw [List.length_map]
    exact (hreg.within (hreg.full c hc)).of_subset hps
  have hgiven : Within ps tags.length := (hreg.within (htags.trans hlen)).of_subset hps
  have hplace : ∀ i : Nat, .index i ∈ ps →
      ((c.tags.map some)[i]? = tags[i]? ↔ values[i]?.bind (·.typeOf?) = c.types[i]?) := by
    intro i hi
    obtain ⟨j, a, ha, hnum, hj⟩ := (mem_positions hset).1 (hps hi)
    obtain rfl : i = j := Int.ofNat_inj.1 (Position.index.inj hj)
    obtain ⟨type, htype, hhost⟩ := Emission.isHost_of_place hset hc ha hnum
    obtain ⟨n, hn, hin⟩ := hreg.inRange _ (hps hi)
    obtain rfl : i = n := Int.ofNat_inj.1 (Position.index.inj hin)
    have hv : values[i]? = some values[i] := List.getElem?_eq_getElem (hlen ▸ hn)
    have htag := Value.tag_eq_iff (hvalues _ (List.getElem_mem (hlen ▸ hn))) hhost
    rw [hread i (hps hi), hv, htype]
    simp only [Combination.tags, List.getElem?_map, htype, Option.map_some, Option.some.injEq,
      Option.bind_some]
    rw [eq_comm, htag]
  rw [HasTags, restrict_eq_iff hown hgiven]
  constructor
  · intro h i hi
    exact (hplace i hi).1 (elementIn_index_eq_iff.1 (h _ hi))
  · intro h p hp
    obtain ⟨i, -, rfl⟩ := hreg.inRange p (hps hp)
    exact elementIn_index_eq_iff.2 ((hplace i hp).2 (h i hp))

/-- A dispatcher over the table chooses the combinations that have the types of the values. -/
theorem resolve_eq_ok_iff (hset : Settled d.arguments) (htable : disp.table = table d)
    (hlen : values.length = (table d).names.length) (hvalues : ∀ v ∈ values, v.IsTold) :
    disp.resolve values = .ok c ↔
      c ∈ (table d).combinations ∧ c.Takes values (table d).positions := by
  obtain ⟨tags, htags, htagslen, hread⟩ := exists_tags hset htable hlen
  have hlookup : disp.resolve values = .ok c ↔ (table d).lookup tags = .ok (some c) := by
    rw [Dispatcher.resolve, htags, htable]
    simp only [Except.mapError, bind, Except.bind]
    cases (table d).lookup tags with
    | error fault => simp
    | ok found =>
      cases found with
      | some c' => simp [pure, Except.pure]
      | none => cases (table d).firstMismatch tags <;> simp [throw, throwThe, MonadExceptOf.throw]
  rw [hlookup, (regular_table hset).lookup_eq_some_iff (separated_table hset) (htagslen.trans hlen)]
  exact and_congr_right fun hc =>
    hasTags_iff_takes hset hc hlen hvalues htagslen hread (List.Subset.refl _)

/-- The report of a mismatch holds the name and the tag of the place. -/
theorem resolve_eq_mismatch (htable : disp.table = table d) {i : Nat} {name tag : String}
    (htags : disp.tags values = .ok tags) (hlookup : (table d).lookup tags = .ok none)
    (hmismatch : (table d).firstMismatch tags = .ok (some (.index i)))
    (hname : d.names[i]? = some name) (htag : tags[i]? = some (some tag)) :
    disp.resolve values = .error (.mismatch ⟨d.name, name, tag, (table d).accepted, d.names⟩) := by
  have hlabel : (Position.index i).elementIn (table d).names = .ok (.text name) := by
    simp [elementIn_index, table, hname]
  have hactual : (Position.index i).elementIn tags = .ok (some tag) := by simp [elementIn_index, htag]
  have htexts : (table d).names.mapM Label.text? = some d.names := Emission.mapM_text_eq_some d.names
  have hreport : disp.mismatchAt tags (some (.index i)) =
      .mismatch ⟨d.name, name, tag, (table d).accepted, d.names⟩ := by
    simp only [Dispatcher.mismatchAt, htable, hlabel, hactual, htexts, bind, Except.bind]
    rfl
  rw [Dispatcher.resolve, htags, htable]
  simp only [Except.mapError, bind, Except.bind, hlookup, hmismatch, hreport, throw, throwThe,
    MonadExceptOf.throw]

/-- If no combination has the types of the values, the mismatch that is reported is about the first
dispatched place where none is left. -/
theorem exists_resolve_eq_error (hset : Settled d.arguments) (htable : disp.table = table d)
    (hlen : values.length = (table d).names.length) (hvalues : ∀ v ∈ values, v.IsTold)
    (hnone : ∀ c ∈ (table d).combinations, ¬ c.Takes values (table d).positions) :
    ∃ (tags : List (Option String)) (i : Nat) (name : String) (v : Value) (before after : List Position),
      disp.tags values = .ok tags ∧ (table d).firstMismatch tags = .ok (some (.index i)) ∧
      d.names[i]? = some name ∧ values[i]? = some v ∧ tags[i]? = some (some v.tag) ∧
      disp.resolve values =
        .error (.mismatch ⟨d.name, name, v.tag, (table d).accepted, d.names⟩) ∧
      (table d).positions = before ++ .index i :: after ∧
      (∃ c ∈ (table d).combinations, c.Takes values before) ∧
      ∀ c ∈ (table d).combinations, ¬ c.Takes values (before ++ [.index i]) := by
  have hreg := regular_table hset
  obtain ⟨tags, htags, htagslen, hread⟩ := exists_tags hset htable hlen
  have htaken : ∀ {c ps}, c ∈ (table d).combinations → ps ⊆ (table d).positions →
      (HasTags tags ps c ↔ c.Takes values ps) :=
    fun hc hps => hasTags_iff_takes hset hc hlen hvalues htagslen hread hps
  have hmissed : ∀ c ∈ (table d).combinations, ¬ HasTags tags (table d).positions c :=
    fun c hc hall => hnone c hc ((htaken hc (List.Subset.refl _)).1 hall)
  obtain ⟨before, p, after, hsplit, hfirst, ⟨c, hc, hbefore⟩, hleft⟩ :=
    exists_firstMismatchAmong (fun c hc => hreg.within (hreg.full c hc))
      (hreg.within (htagslen.trans hlen)) (combinations_ne_nil hset) hmissed
  have hp : p ∈ (table d).positions := by simp [hsplit]
  obtain ⟨i, hi, rfl⟩ := hreg.inRange p hp
  have hnames : i < d.names.length := by simpa [table] using hi
  have hv : values[i]? = some values[i] := List.getElem?_eq_getElem (hlen ▸ hi)
  have htag : tags[i]? = some (some values[i].tag) := by rw [hread i hp, hv, Option.map_some]
  refine ⟨tags, i, d.names[i], values[i], before, after, htags, hfirst,
    List.getElem?_eq_getElem hnames, hv, htag, ?_, hsplit, ⟨c, hc, ?_⟩, fun c hc htakes => ?_⟩
  · have hlookup : (table d).lookup tags = .ok none := by
      rw [hreg.lookup_eq_ok (htagslen.trans hlen), Except.ok.injEq, List.find?_eq_none]
      exact fun c hc hfits => hmissed c hc (of_decide_eq_true hfits)
    exact resolve_eq_mismatch htable htags hlookup hfirst (List.getElem?_eq_getElem hnames) htag
  · exact (htaken hc (by simp [hsplit])).1 hbefore
  · exact hleft c hc ((htaken hc (by simp [hsplit])).2 htakes)

/-- If some values have the types of a combination at the dispatched places, they have all its
numeric types, since those stand at dispatched places only. -/
theorem typeOf?_of_takes (hset : Settled d.arguments) (hc : c ∈ (table d).combinations)
    (htakes : c.Takes values (table d).positions) {v : Value} {t : ConcreteType}
    (h : (v, t) ∈ values.zip c.types) (hnum : t.isHost = false) : v.typeOf? = some t := by
  obtain ⟨i, hi⟩ := List.mem_iff_getElem?.1 h
  obtain ⟨hv, htype⟩ := List.getElem?_zip_eq_some.1 hi
  obtain ⟨hi', rfl⟩ := List.getElem?_eq_some_iff.1 htype
  have htypes := forall₂_types hset hc
  have hlt : i < d.arguments.length := htypes.length_eq ▸ hi'
  have hmem : c.types[i] ∈ d.arguments[i].typeList := htypes.get hlt hi'
  obtain ⟨_, hfollows⟩ := hset.of_mem (List.getElem_mem hlt)
  have hplace : Position.index i ∈ (table d).positions := by
    refine (mem_positions hset).2 ⟨i, _, List.getElem?_eq_getElem hlt, ?_, rfl⟩
    rw [← Argument.isHost_of_isPassedThrough hfollows.typed hmem, hnum]
  have hagree := htakes i hplace
  rwa [hv, htype, Option.bind_some] at hagree

end Expansion

namespace Dispatcher

open Expansion

/-- Dispatch at run time is sound and complete. A combination is chosen exactly if the values have its
types at the dispatched positions, whatever stands at the others. Then a specialisation is given every
argument: a live view of the type of a numeric argument, and the value of a host argument. If no
combination is left, the reported mismatch names the argument and the tag at the first position that
leaves none. -/
theorem resolve_sound_complete {text : String} {path : Option Path} {s : Scanned} {d : Declaration}
    {limit : Option Int} {t : DispatchTable} (hscan : scan text path = .ok s)
    (hres : s.declaration.resolve = .ok d) (hexp : d.expand limit = .ok t) {disp : Dispatcher}
    (htable : disp.table = t) {values : List Value} (hlen : values.length = t.names.length)
    (hvalues : ∀ v ∈ values, (∃ b, v = .array b) ∨ (∃ s, v = .sparse s) ∨
      ∀ u ∈ ConcreteType.numeric, v.className ≠ u.tag) :
    (∀ c, disp.resolve values = .ok c ↔ c ∈ t.combinations ∧ c.Takes values t.positions) ∧
    (∀ c, disp.resolve values = .ok c → c.types.length = values.length ∧ ∀ m : Memory,
      ∃ given made, m.viewAll (values.zip c.types) = .ok (given, { m with views := m.views ++ made }) ∧
        List.Forall₂ (fun a g => ({ m with views := m.views ++ made } : Memory).Gives a.1 a.2 g)
          (values.zip c.types) given) ∧
    ((∀ c ∈ t.combinations, ¬ c.Takes values t.positions) →
      ∃ (tags : List (Option String)) (i : Nat) (name : String) (v : Value)
        (before after : List Position),
        disp.tags values = .ok tags ∧ t.firstMismatch tags = .ok (some (.index i)) ∧
        d.names[i]? = some name ∧ values[i]? = some v ∧ tags[i]? = some (some v.tag) ∧
        disp.resolve values = .error (.mismatch ⟨d.name, name, v.tag, t.accepted, d.names⟩) ∧
        t.positions = before ++ .index i :: after ∧
        (∃ c ∈ t.combinations, c.Takes values before) ∧
        ∀ c ∈ t.combinations, ¬ c.Takes values (before ++ [.index i])) := by
  have hset : Settled d.arguments :=
    settled_of_scan_resolve Registry.standard_isNumeric hscan hres
  obtain ⟨-, rfl⟩ := (expand_eq_ok_iff hset).1 hexp
  refine ⟨fun c => resolve_eq_ok_iff hset htable hlen hvalues, fun c hchosen => ?_,
    exists_resolve_eq_error hset htable hlen hvalues⟩
  obtain ⟨hc, htakes⟩ := (resolve_eq_ok_iff hset htable hlen hvalues).1 hchosen
  refine ⟨?_, fun m => Memory.exists_viewAll m fun a ha =>
    typeOf?_of_takes hset hc htakes ha⟩
  rw [hlen, ← (forall₂_types hset hc).length_eq]
  simp [Expansion.table, Declaration.names]

/-- An array of one dimension. -/
def flat (kind : ScalarKind) (length : Nat) : Block := ⟨.scalar ⟨kind, false⟩, [length], 0, false⟩

/-- A matrix by row with two rows. -/
def rows : SparseMatrix :=
  ⟨.compressed .csr ⟨flat (.floating 32) 2, flat (.signed 32) 2, flat (.signed 32) 3⟩,
    .scalar ⟨.floating 32, false⟩, 2, 3, false⟩

/-- A matrix by row is taken together with an array of the same elements, and given as a view of its
arrays. If the array has other elements, it is reported. -/
theorem resolve_of_projections :
    ∃ (s : Scanned) (d : Declaration) (t : DispatchTable) (c : Combination),
      scan ("npe_function(f) npe_arg(a, dense_f32, csr_f32) npe_arg(k, int) " ++
        "npe_arg(b, dense_like(a)) npe_begin_code()") = .ok s ∧
      s.declaration.resolve = .ok d ∧ d.expand none = .ok t ∧
      c.types = [.sparse .float32 .csr, .host "int", .dense .float32] ∧
      ({ table := t } : Dispatcher).resolve
        [.sparse rows, .literal (.int 3), .array (flat (.floating 32) 3)] = .ok c ∧
      (∃ given made, ({} : Memory).viewAll ([.sparse rows, .literal (.int 3),
          .array (flat (.floating 32) 3)].zip c.types) = .ok (given, { views := made }) ∧
        List.Forall₂ (fun a g => ({ views := made } : Memory).Gives a.1 a.2 g)
          ([.sparse rows, .literal (.int 3), .array (flat (.floating 32) 3)].zip c.types) given) ∧
      ({ table := t } : Dispatcher).resolve
          [.sparse rows, .literal (.int 3), .array (flat (.floating 64) 3)] =
        .error (.mismatch ⟨"f", "b", "dense_f64",
          [["dense_f32", "int", "dense_f32"], ["csr_f32", "int", "dense_f32"]], ["a", "k", "b"]⟩) := by
  obtain ⟨s, d, hscan, hres, htable⟩ := exists_scan_resolve
    ("npe_function(f) npe_arg(a, dense_f32, csr_f32) npe_arg(k, int) " ++
      "npe_arg(b, dense_like(a)) npe_begin_code()")
    (fun d => (d.expand none).toOption)
    (some {
      function := "f"
      names := ["a", "k", "b"]
      combinations := [
        ⟨0, ["a", "k", "b"], [.dense .float32, .host "int", .dense .float32], "npe_f__dense_f32"⟩,
        ⟨1, ["a", "k", "b"], [.sparse .float32 .csr, .host "int", .dense .float32],
          "npe_f__csr_f32"⟩]
      positions := [.index 0, .index 2]
      defaults := [none, none, none] }) (by decide +kernel)
  cases hexp : d.expand none with
  | error e => simp [hexp, Except.toOption] at htable
  | ok t =>
    obtain rfl : t = _ := by simpa [hexp, Except.toOption] using htable
    have hvalues : ∀ v ∈ [Value.sparse rows, .literal (.int 3), .array (flat (.floating 32) 3)],
        (∃ b, v = .array b) ∨ (∃ s, v = .sparse s) ∨
          ∀ u ∈ ConcreteType.numeric, v.className ≠ u.tag := by
      intro v hv
      simp only [List.mem_cons, List.not_mem_nil, or_false] at hv
      rcases hv with rfl | rfl | rfl
      · exact .inr (.inl ⟨_, rfl⟩)
      · exact .inr (.inr (by decide))
      · exact .inl ⟨_, rfl⟩
    obtain ⟨hchosen, hgiven, -⟩ :=
      resolve_sound_complete hscan hres hexp (rfl : ({ table := _ } : Dispatcher).table = _) rfl hvalues
    have hsecond := (hchosen ⟨1, ["a", "k", "b"],
      [.sparse .float32 .csr, .host "int", .dense .float32], "npe_f__csr_f32"⟩).2 ⟨by simp, ?_⟩
    · obtain ⟨-, hviews⟩ := hgiven _ hsecond
      exact ⟨s, d, _, _, hscan, hres, hexp, rfl, hsecond, hviews {}, rfl⟩
    · intro i hi
      have hplace : i = 0 ∨ (i : Int) = 2 := by simpa using hi
      rcases hplace with rfl | hlast
      · rfl
      · obtain rfl : i = 2 := by omega
        rfl

end Dispatcher

end Monomorph
