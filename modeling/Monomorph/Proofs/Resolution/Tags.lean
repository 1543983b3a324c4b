import Monomorph.Proofs.Expansion.Separated
import Monomorph.Proofs.Text.Words

/-!
Types and their tags. A numeric type is found again under its tag. A host type is, unless its text
spells a numeric type; but a token that does is known to every registry that extends the standard
one, so no argument resolves to such a host type.
-/

namespace Monomorph

open Text

/-- The type is found again under its own tag. -/
def ConcreteType.IsTagged (t : ConcreteType) : Prop := ConcreteType.ofTag t.tag = t

instance (t : ConcreteType) : Decidable t.IsTagged := inferInstanceAs (Decidable (_ = _))

namespace ConcreteType

theorem isTagged_of_numeric {t : ConcreteType} (h : t.isHost = false) : t.IsTagged := by
  have hall : ∀ t ∈ numeric, t.IsTagged := by decide
  exact hall t (mem_numeric h)

theorem isSolid_spelling : ∀ e ∈ spellings, IsSolid e.1.toList := by decide

theorem isTagged_ofHost {token : String} (h : spellings.lookup (trim token) = none) :
    (ofHost token).IsTagged := by
  have hnone : spellings.lookup (squeeze token) = none := by
    rw [List.lookup_eq_none_iff]
    intro e he
    rw [bne_iff_ne]
    intro heq
    have htrim := trim_eq_squeeze (heq.symm ▸ isSolid_spelling e he : IsSolid (squeeze token).toList)
    rw [List.lookup_eq_none_iff] at h
    exact absurd (htrim.trans heq) (bne_iff_ne.1 (h e he))
  simp only [IsTagged, ofTag, ofHost, tag, hnone, Option.getD_none, squeeze_squeeze]

end ConcreteType

/-! ### Registries that know the standard tokens -/

/-- A registry that knows every standard token. -/
def Registry.IsStandard (r : Registry) : Prop :=
  ∀ e ∈ ConcreteType.spellings, e.1 ∈ r.entries.map (·.1)

namespace Registry

variable {r : Registry}

theorem standard_isStandard : standard.IsStandard := fun e he => List.mem_map.2 ⟨e, he, rfl⟩

theorem IsStandard.register (h : r.IsStandard) (token : String) (type : ConcreteType) :
    (r.register token type).IsStandard := by
  intro e he
  obtain ⟨e', he', hkey⟩ := List.mem_map.1 (h e he)
  rw [Registry.register, List.map_cons, List.mem_cons]
  by_cases hsame : e.1 = token
  · exact .inl hsame
  · refine .inr (List.mem_map.2 ⟨e', List.mem_filter.2 ⟨he', ?_⟩, hkey⟩)
    simpa [hkey] using hsame

theorem IsNumeric.register (h : r.IsNumeric) (token : String) {type : ConcreteType}
    (htype : type.isHost = false) : (r.register token type).IsNumeric := by
  intro e he
  rcases List.mem_cons.1 he with rfl | he
  · exact htype
  · exact h e (List.mem_of_mem_filter he)

/-- Numeric tokens added to the standard ones. -/
theorem extended_isNumeric {extra : List (String × ConcreteType)}
    (h : ∀ e ∈ extra, e.2.isHost = false) : (extended extra).IsNumeric := by
  suffices hfold : ∀ r : Registry, r.IsNumeric →
      (extra.foldl (fun r e => r.register e.1 e.2) r).IsNumeric from hfold _ standard_isNumeric
  induction extra with
  | nil => exact fun _ hr => hr
  | cons e extra ih =>
    obtain ⟨he, hextra⟩ := List.forall_mem_cons.1 h
    exact fun r hr => ih hextra _ (hr.register e.1 he)

theorem extended_isStandard (extra : List (String × ConcreteType)) :
    (extended extra).IsStandard := by
  suffices hfold : ∀ r : Registry, r.IsStandard →
      (extra.foldl (fun r e => r.register e.1 e.2) r).IsStandard from hfold _ standard_isStandard
  induction extra with
  | nil => exact fun _ hr => hr
  | cons e extra ih => exact fun r hr => ih _ (hr.register e.1 e.2)

/-- What such a registry does not know spells no numeric type. -/
theorem IsStandard.spellings_lookup (h : r.IsStandard) {token : String}
    (hnone : r.lookup token = none) : ConcreteType.spellings.lookup (trim token) = none := by
  rw [List.lookup_eq_none_iff]
  intro e he
  obtain ⟨e', he', hkey⟩ := List.mem_map.1 (h e he)
  rw [Registry.lookup, List.lookup_eq_none_iff] at hnone
  rw [← hkey]
  exact hnone e' he'

end Registry

/-! ### Resolution -/

theorem Derives.isTagged {r : Relation} {ts ts' : List ConcreteType} (h : Derives r ts ts')
    (hts : ∀ t ∈ ts, t.IsTagged) : ∀ t ∈ ts', t.IsTagged := by
  intro t' ht'
  rw [h.images, Resolution.mem_distinct, List.mem_map] at ht'
  obtain ⟨t, ht, rfl⟩ := ht'
  rcases h.numeric with rfl | hnum
  · exact hts t ht
  · exact ConcreteType.isTagged_of_numeric (by rw [Relation.isHost_image, hnum t ht])

namespace Resolution

variable {registry : Registry}

/-- A token that is left for a host type is not known. -/
theorem lookup_of_classify {tokens : List String} {known : List ConcreteType} {hosts : List String}
    (h : classify registry tokens = .ok (known, hosts)) : ∀ t ∈ hosts, registry.lookup t = none := by
  induction tokens generalizing known hosts with
  | nil =>
    cases h
    simp
  | cons token rest ih =>
    rw [classify] at h
    cases hrest : classify registry rest with
    | error bad =>
      rw [hrest] at h
      split at h
      · cases h
      · split at h <;> cases h
    | ok p =>
      rw [hrest] at h
      split at h
      · cases h
        exact ih hrest
      · next hnone =>
        split at h
        · cases h
        · cases h
          exact List.forall_mem_cons.2 ⟨hnone, ih hrest⟩

theorem isTagged_of_ofTokens (hreg : registry.IsNumeric) (hstd : registry.IsStandard) {name : String}
    {tokens : List String} {ts : List ConcreteType} (h : ofTokens registry name tokens = .ok ts) :
    ∀ t ∈ ts, t.IsTagged := by
  unfold ofTokens at h
  split at h
  · cases h
  · split at h
    · cases h
    · next known hc =>
      cases h
      intro t ht
      exact ConcreteType.isTagged_of_numeric ((classify_ok hreg hc).2 t (mem_distinct.1 ht))
    · next host hc =>
      cases h
      have hnone := lookup_of_classify hc host List.mem_cons_self
      simpa using ConcreteType.isTagged_ofHost (hstd.spellings_lookup hnone)
    · cases h
    · cases h

/-- Resolution gives arguments types that are found again under their tags. -/
theorem isTagged_of_arguments (hreg : registry.IsNumeric) (hstd : registry.IsStandard)
    {declared : List String} {resolved args out : List Argument}
    (hsets : ∀ r ∈ resolved, TypeSet r.typeList)
    (htags : ∀ r ∈ resolved, ∀ t ∈ r.typeList, t.IsTagged)
    (h : arguments registry declared resolved args = .ok out) :
    ∀ a ∈ out, ∀ t ∈ a.typeList, t.IsTagged := by
  induction args generalizing resolved with
  | nil =>
    rw [arguments] at h
    cases h
    exact htags
  | cons a rest ih =>
    rw [arguments] at h
    split at h
    · cases h
    · next ts hts =>
      have hset := (typeSet_of_typesOf hreg hsets hts).1
      have htag : ∀ t ∈ ts, t.IsTagged := by
        unfold typesOf at hts
        split at hts
        · obtain ⟨r, hr, -, hder⟩ := derives_of_ofConstraint hsets hts
          exact hder.isTagged (htags r hr)
        · split at hts
          · next hok =>
            cases hts
            exact isTagged_of_ofTokens hreg hstd hok
          · cases hts
      refine ih ?_ ?_ h
      · exact List.forall_mem_append.2 ⟨hsets, by simpa [Argument.typeList] using hset⟩
      · exact List.forall_mem_append.2 ⟨htags, by simpa [Argument.typeList] using htag⟩

end Resolution

/-- The types of every argument of a resolved declaration are found again under their tags. -/
theorem isTagged_of_resolve {registry : Registry} (hreg : registry.IsNumeric)
    (hstd : registry.IsStandard) {d d' : Declaration} (h : d.resolve registry = .ok d') :
    ∀ a ∈ d'.arguments, ∀ t ∈ a.typeList, t.IsTagged := by
  unfold Declaration.resolve at h
  cases hargs : Resolution.arguments registry d.names [] d.arguments with
  | error e => simp [hargs, Except.map] at h
  | ok out =>
    simp only [hargs, Except.map, Except.ok.injEq] at h
    rw [← h]
    exact Resolution.isTagged_of_arguments hreg hstd (by simp) (by simp) hargs

/-- The types of every row of an expanded table are found again under their tags. -/
theorem Expansion.isTagged_of_mem_table {d : Declaration} (hset : Settled d.arguments)
    (htags : ∀ a ∈ d.arguments, ∀ t ∈ a.typeList, t.IsTagged) {c : Combination}
    (hc : c ∈ (table d).combinations) : ∀ t ∈ c.types, t.IsTagged := by
  have htypes := forall₂_types hset hc
  intro t ht
  obtain ⟨i, hi, rfl⟩ := List.getElem_of_mem ht
  have hlt : i < d.arguments.length := htypes.length_eq ▸ hi
  exact htags _ (List.getElem_mem hlt) _ (htypes.get hlt hi)

end Monomorph
