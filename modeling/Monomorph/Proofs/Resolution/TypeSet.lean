import Mathlib.Data.List.Nodup
import Monomorph.Resolution

/-!
The sets of types that an argument can have. A set is not empty, lists no type twice, and is numeric
throughout or one host type. Listed tokens give such a set, and so does every relation to one.
-/

namespace Monomorph

/-! ### Lists without repetition -/

section Distinct

variable {α : Type} [BEq α] [LawfulBEq α]

/-- Keeping each new element of `ts` keeps the seen ones and loses nothing. -/
theorem mem_foldl_new (seen ts : List α) (x : α) :
    x ∈ ts.foldl (fun seen t => if seen.contains t then seen else seen ++ [t]) seen ↔
      x ∈ seen ∨ x ∈ ts := by
  induction ts generalizing seen with
  | nil => simp
  | cons t ts ih =>
    rw [List.foldl_cons, ih]
    by_cases ht : t ∈ seen
    · have hx : x = t → x ∈ seen := fun h => h ▸ ht
      simp only [List.contains_iff_mem, ht, if_true, List.mem_cons]
      tauto
    · simp only [List.contains_iff_mem, ht, if_false, List.mem_append, List.mem_cons]
      simp only [List.not_mem_nil, or_false, or_assoc]

theorem nodup_foldl_new (seen ts : List α) (h : seen.Nodup) :
    (ts.foldl (fun seen t => if seen.contains t then seen else seen ++ [t]) seen).Nodup := by
  induction ts generalizing seen with
  | nil => exact h
  | cons t ts ih =>
    rw [List.foldl_cons]
    apply ih
    split
    · exact h
    · next ht =>
      rw [List.contains_iff_mem] at ht
      exact List.nodup_append.2 ⟨h, by simp, by rintro a ha b hb rfl; simp at hb; exact ht (hb ▸ ha)⟩

theorem foldl_new_of_nodup (seen ts : List α) (h : (seen ++ ts).Nodup) :
    ts.foldl (fun seen t => if seen.contains t then seen else seen ++ [t]) seen = seen ++ ts := by
  induction ts generalizing seen with
  | nil => simp
  | cons t ts ih =>
    have ht : t ∉ seen := fun hmem => (List.nodup_append.1 h).2.2 t hmem t List.mem_cons_self rfl
    rw [List.foldl_cons, if_neg (by simpa using ht), ih _ (by simpa using h)]
    simp

end Distinct

namespace Resolution

@[simp]
theorem mem_distinct {ts : List ConcreteType} {t : ConcreteType} : t ∈ distinct ts ↔ t ∈ ts := by
  simpa [distinct] using mem_foldl_new [] ts t

theorem nodup_distinct (ts : List ConcreteType) : (distinct ts).Nodup :=
  nodup_foldl_new [] ts List.nodup_nil

theorem distinct_of_nodup {ts : List ConcreteType} (h : ts.Nodup) : distinct ts = ts := by
  simpa [distinct] using foldl_new_of_nodup [] ts (by simpa using h)

end Resolution

/-! ### The type that follows by a relation -/

/-- The type that follows from a type by a relation, where storage is asked of numeric types only.
-/
def Relation.image : Relation → ConcreteType → ConcreteType
  | same, t => t
  | denseLike, t => t.toDense?.getD t
  | sparseLike, t => t.toSparse?.getD t

namespace Relation

theorem project_eq_image {r : Relation} {t : ConcreteType} (h : r = .same ∨ t.isHost = false) :
    r.project t = .ok (r.image t) := by
  cases r <;> cases t <;> simp_all [project, image, ConcreteType.toDense?, ConcreteType.toSparse?,
    ConcreteType.isHost]

theorem isHost_image {r : Relation} {t : ConcreteType} : (r.image t).isHost = t.isHost := by
  cases r <;> cases t <;> rfl

theorem project_eq_ok {r : Relation} {t t' : ConcreteType} (h : r.project t = .ok t') :
    t' = r.image t := by
  cases r <;> cases t <;>
    simp_all [project, image, ConcreteType.toDense?, ConcreteType.toSparse?]

end Relation

/-! ### Type sets -/

/-- A list of types that an argument can be resolved to. -/
structure TypeSet (ts : List ConcreteType) : Prop where
  nonempty : ts ≠ []
  nodup : ts.Nodup
  uniform : (∀ t ∈ ts, t.isHost = false) ∨ ∃ text, ts = [.host text]

/-- The types that follow by a relation from those of a referent: each referent type has an image,
and the images stand in the order in which they first occur. -/
structure Derives (r : Relation) (ts ts' : List ConcreteType) : Prop where
  numeric : r = .same ∨ ∀ t ∈ ts, t.isHost = false
  images : ts' = Resolution.distinct (ts.map r.image)

theorem Derives.project {r : Relation} {ts ts' : List ConcreteType} {t : ConcreteType}
    (h : Derives r ts ts') (ht : t ∈ ts) : r.project t = .ok (r.image t) :=
  Relation.project_eq_image (h.numeric.imp_right fun hnum => hnum t ht)

theorem Derives.image_mem {r : Relation} {ts ts' : List ConcreteType} {t : ConcreteType}
    (h : Derives r ts ts') (ht : t ∈ ts) : r.image t ∈ ts' := by
  rw [h.images, Resolution.mem_distinct]
  exact List.mem_map.2 ⟨t, ht, rfl⟩

theorem Derives.typeSet {r : Relation} {ts ts' : List ConcreteType} (h : Derives r ts ts')
    (hts : TypeSet ts) : TypeSet ts' := by
  refine ⟨?_, h.images ▸ Resolution.nodup_distinct _, ?_⟩
  · obtain ⟨t, ht⟩ := List.exists_mem_of_ne_nil ts hts.nonempty
    exact List.ne_nil_of_mem (h.image_mem ht)
  · rcases hts.uniform with hnum | ⟨text, rfl⟩
    · left
      intro t' ht'
      rw [h.images, Resolution.mem_distinct, List.mem_map] at ht'
      obtain ⟨t, ht, rfl⟩ := ht'
      rw [Relation.isHost_image, hnum t ht]
    · right
      rcases h.numeric with rfl | hnum
      · exact ⟨text, h.images⟩
      · exact absurd (hnum _ List.mem_cons_self) (by simp [ConcreteType.isHost])

/-! ### Resolving one argument -/

/-- A registry that gives numeric types only. -/
def Registry.IsNumeric (r : Registry) : Prop := ∀ e ∈ r.entries, e.2.isHost = false

theorem Registry.standard_isNumeric : Registry.standard.IsNumeric := by
  intro e he
  simp only [Registry.standard, ConcreteType.spellings, List.mem_flatMap, List.mem_map] at he
  obtain ⟨s, hs, e', -, name, -, rfl⟩ := he
  simp only [ConcreteType.storages, List.mem_cons, List.not_mem_nil, or_false] at hs
  rcases hs with rfl | rfl | rfl | rfl <;> rfl

theorem Registry.IsNumeric.lookup {r : Registry} (hr : r.IsNumeric) {token : String}
    {t : ConcreteType} (h : r.lookup token = some t) : t.isHost = false := by
  obtain ⟨l₁, l₂, hl, -⟩ := List.lookup_eq_some_iff.1 h
  exact hr (Text.trim token, t) (by rw [hl]; simp)

namespace Resolution

variable {registry : Registry}

/-- Every token is either known, with a numeric type, or a host type. -/
theorem classify_ok (hreg : registry.IsNumeric) {tokens : List String} {known : List ConcreteType}
    {hosts : List String} (h : classify registry tokens = .ok (known, hosts)) :
    known.length + hosts.length = tokens.length ∧ ∀ t ∈ known, t.isHost = false := by
  induction tokens generalizing known hosts with
  | nil => simp [classify] at h; obtain ⟨rfl, rfl⟩ := h; simp
  | cons token rest ih =>
    rw [classify] at h
    cases hrest : classify registry rest with
    | error bad =>
      rw [hrest] at h
      split at h
      · cases h
      · split at h <;> cases h
    | ok p =>
      obtain ⟨known', hosts'⟩ := p
      obtain ⟨hlen, hnum⟩ := ih hrest
      rw [hrest] at h
      split at h
      · next t ht =>
        cases h
        refine ⟨by simp only [List.length_cons]; omega, ?_⟩
        exact List.forall_mem_cons.2 ⟨hreg.lookup ht, hnum⟩
      · split at h
        · cases h
        · cases h
          exact ⟨by simp only [List.length_cons]; omega, hnum⟩

theorem typeSet_of_ofTokens (hreg : registry.IsNumeric) {name : String} {tokens : List String}
    {ts : List ConcreteType} (h : ofTokens registry name tokens = .ok ts) : TypeSet ts := by
  unfold ofTokens at h
  split at h
  · cases h
  · next hne =>
    split at h
    · cases h
    · next known hc =>
      cases h
      obtain ⟨hlen, hnum⟩ := classify_ok hreg hc
      have hknown : known ≠ [] := by
        rintro rfl
        exact hne (List.isEmpty_iff.2 (List.eq_nil_of_length_eq_zero (by simpa using hlen.symm)))
      obtain ⟨t, ht⟩ := List.exists_mem_of_ne_nil known hknown
      exact ⟨List.ne_nil_of_mem (mem_distinct.2 ht), nodup_distinct known,
        .inl fun t ht => hnum t (mem_distinct.1 ht)⟩
    · cases h
      exact ⟨by simp, by simp, .inr ⟨_, rfl⟩⟩
    · cases h
    · cases h

/-- The types of a list are those of its images when each type has one. -/
theorem mapM_project {r : Relation} {ts ts' : List ConcreteType}
    (h : ts.mapM r.project = .ok ts') : ts' = ts.map r.image := by
  induction ts generalizing ts' with
  | nil => simpa [pure, Except.pure, eq_comm] using h
  | cons t ts ih =>
    rw [List.mapM_cons] at h
    cases ht : r.project t with
    | error e => simp [ht, bind, Except.bind] at h
    | ok t' =>
      cases hts : ts.mapM r.project with
      | error e => simp [ht, hts, bind, Except.bind] at h
      | ok ts'' =>
        simp only [ht, hts, bind, Except.bind, pure, Except.pure, Except.ok.injEq] at h
        rw [← h, ih hts, Relation.project_eq_ok ht, List.map_cons]

/-- A constraint that resolves names a resolved argument and derives the types from it. -/
theorem derives_of_ofConstraint {resolved : List Argument} {declared : List String} {a : Argument}
    {c : Constraint} {ts : List ConcreteType} (hres : ∀ r ∈ resolved, TypeSet r.typeList)
    (h : ofConstraint resolved declared a c = .ok ts) :
    ∃ r ∈ resolved, r.name = c.reference ∧ Derives c.relation r.typeList ts := by
  unfold ofConstraint at h
  dsimp only at h
  split at h
  · cases h
  · split at h
    · cases h
    · next referent hfind =>
      have hmem := List.mem_of_find?_eq_some hfind
      have hset := hres referent hmem
      refine ⟨referent, hmem, by simpa using List.find?_some hfind, ?_⟩
      split at h
      · cases h
      · next hnum =>
        cases hd : derive c.relation referent.typeList with
        | error e => simp [hd] at h
        | ok ts' =>
          simp only [hd, Except.ok.injEq] at h
          subst h
          -- a referent that is not passed through is numeric throughout
          have hnumeric : c.relation = .same ∨ ∀ t ∈ referent.typeList, t.isHost = false := by
            by_cases hsame : c.relation = .same
            · exact .inl hsame
            · right
              rcases hset.uniform with hall | ⟨text, hhost⟩
              · exact hall
              · exact absurd (by simp [hsame, Argument.isPassedThrough, hhost, ConcreteType.isHost])
                  hnum
          refine ⟨hnumeric, ?_⟩
          unfold derive at hd
          split at hd
          · next hsame =>
            cases hd
            have himage : referent.typeList.map (Relation.image .same) = referent.typeList :=
              List.map_id referent.typeList
            rw [hsame, himage, distinct_of_nodup hset.nodup]
          · cases hm : referent.typeList.mapM c.relation.project with
            | error e => simp [hm, Except.map] at hd
            | ok images =>
              simp only [hm, Except.map, Except.ok.injEq] at hd
              rw [← hd, mapM_project hm]

end Resolution

end Monomorph
