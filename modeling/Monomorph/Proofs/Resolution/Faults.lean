import Monomorph.Proofs.Emission.Table

/-!
How resolution fails. A constraint asks for the storage of numeric types only, because a referent
with a host type is refused before its types are derived. So a declaration that does not resolve has
a fault of its own or a wrong reference, and never a type without the storage that is asked for.
-/

namespace Monomorph

/-- A fault of the declaration itself or of a reference in it. -/
def ResolutionError.IsReported (e : ResolutionError) : Prop :=
  (∃ fault, e = .declaration fault) ∨ ∃ fault, e = .reference fault

namespace Resolution

variable {registry : Registry} {resolved : List Argument} {declared : List String} {a : Argument}
  {e : ResolutionError}

/-- Types of which no storage is asked that they do not have can be derived from. -/
theorem exists_derive_eq_ok {relation : Relation} {ts : List ConcreteType}
    (h : relation = .same ∨ ∀ t ∈ ts, t.isHost = false) : ∃ ts', derive relation ts = .ok ts' := by
  have hproject : ts.mapM relation.project = .ok (ts.map relation.image) :=
    Emission.mapM_eq_ok fun t ht =>
      Relation.project_eq_image (h.imp_right fun hnumeric => hnumeric t ht)
  unfold derive
  split
  · exact ⟨_, rfl⟩
  · rw [hproject]
    exact ⟨_, rfl⟩

theorem isReported_of_ofConstraint {c : Constraint} (hsets : ∀ r ∈ resolved, TypeSet r.typeList)
    (h : ofConstraint resolved declared a c = .error e) : e.IsReported := by
  unfold ofConstraint at h
  dsimp only at h
  split at h
  · cases h
    exact .inr ⟨_, rfl⟩
  · split at h
    · cases h
      exact .inr ⟨_, rfl⟩
    · next referent hfind =>
      split at h
      · cases h
        exact .inr ⟨_, rfl⟩
      · next hstorage =>
        have hset := hsets referent (List.mem_of_find?_eq_some hfind)
        have hnumeric : c.relation = .same ∨ ∀ t ∈ referent.typeList, t.isHost = false := by
          by_cases hsame : c.relation = .same
          · exact .inl hsame
          · refine .inr fun t ht => ?_
            have hpassed : referent.isPassedThrough = false := by simpa [hsame] using hstorage
            rw [Argument.isHost_of_isPassedThrough hset ht, hpassed]
        obtain ⟨ts, hts⟩ := exists_derive_eq_ok hnumeric
        rw [hts] at h
        cases h

theorem isReported_of_typesOf (hsets : ∀ r ∈ resolved, TypeSet r.typeList)
    (h : typesOf registry resolved declared a = .error e) : e.IsReported := by
  unfold typesOf at h
  split at h
  · exact isReported_of_ofConstraint hsets h
  · split at h
    · cases h
    · cases h
      exact .inl ⟨_, rfl⟩

/-- Resolving further arguments fails with a reported fault only. -/
theorem isReported_of_arguments (hreg : registry.IsNumeric) {args : List Argument}
    (hsets : ∀ r ∈ resolved, TypeSet r.typeList)
    (h : arguments registry declared resolved args = .error e) : e.IsReported := by
  induction args generalizing resolved with
  | nil => cases h
  | cons a rest ih =>
    rw [arguments] at h
    split at h
    · next hfault =>
      cases h
      exact isReported_of_typesOf hsets hfault
    · next ts hts =>
      have hset := (typeSet_of_typesOf hreg hsets hts).1
      exact ih (List.forall_mem_append.2 ⟨hsets, by simpa [Argument.typeList] using hset⟩) h

end Resolution

/-- A declaration that does not resolve has a fault that is reported. -/
theorem isReported_of_resolve {registry : Registry} (hreg : registry.IsNumeric) {d : Declaration}
    {e : ResolutionError} (h : d.resolve registry = .error e) : e.IsReported := by
  unfold Declaration.resolve at h
  cases hargs : Resolution.arguments registry d.names [] d.arguments with
  | error e' =>
    simp only [hargs, Except.map, Except.error.injEq] at h
    exact h ▸ Resolution.isReported_of_arguments hreg (by simp) hargs
  | ok out => simp [hargs, Except.map] at h

end Monomorph
