import Monomorph.Proofs.Expansion.Choices
import Monomorph.Proofs.Expansion.Classes
import Monomorph.Proofs.Record

/-!
The row that one choice of types makes. A free argument takes its type from the choice, and every
other argument projects the type of an argument before it; `complete` says so in one pass over the
arguments. For a settled declaration this never fails, and the combination of a choice has exactly
these types.
-/

namespace Monomorph.Expansion

/-- The types of arguments in order, from those of the arguments before them and a choice of one
type for every free argument. -/
def complete (known : Assignment) : List Argument → List ConcreteType → List ConcreteType
  | [], _ => []
  | a :: rest, choice =>
    match a.constraint?, choice with
    | some c, _ =>
      match known.lookup c.reference with
      | some t =>
        c.relation.image t :: complete (known ++ [(a.name, c.relation.image t)]) rest choice
      | none => []
    | none, t :: choice => t :: complete (known ++ [(a.name, t)]) rest choice
    | none, [] => []

/-- Types known for arguments: each under the argument's name, and one of the argument's own. -/
def Assigned (args : List Argument) (known : Assignment) : Prop :=
  List.Forall₂ (fun a p => p.1 = a.name ∧ p.2 ∈ a.typeList) args known

/-- A type for every free argument, each one of the argument's own. -/
def Chosen (args : List Argument) (choice : List ConcreteType) : Prop :=
  List.Forall₂ (fun a t => t ∈ a.typeList) (freeArguments args) choice

theorem Assigned.snoc {args : List Argument} {known : Assignment} (h : Assigned args known)
    {a : Argument} {t : ConcreteType} (ht : t ∈ a.typeList) :
    Assigned (args ++ [a]) (known ++ [(a.name, t)]) :=
  List.rel_append h (.cons ⟨rfl, ht⟩ .nil)

theorem Assigned.names {args : List Argument} {known : Assignment} (h : Assigned args known) :
    known.map (·.1) = args.map (·.name) := by
  induction h with
  | nil => rfl
  | cons h _ ih => simp [h.1, ih]

theorem lookup_cons_of_ne {known : Assignment} {n m : String} {t : ConcreteType} (h : n ≠ m) :
    ((m, t) :: known : Assignment).lookup n = known.lookup n := by
  rw [List.lookup_cons, beq_eq_false_iff_ne.2 h]

theorem Assigned.lookup_eq_none {args : List Argument} {known : Assignment} {n : String}
    (h : Assigned args known) (hn : n ∉ args.map (·.name)) : known.lookup n = none := by
  rw [Record.lookup_eq_none_iff]
  exact fun hmem => hn (h.names ▸ hmem)

/-- What is known of an argument is one of its types. -/
theorem Assigned.exists_lookup {args : List Argument} {known : Assignment} (h : Assigned args known)
    (hnames : (args.map (·.name)).Nodup) {r : Argument} (hr : r ∈ args) :
    ∃ t ∈ r.typeList, known.lookup r.name = some t := by
  induction h with
  | nil => cases hr
  | @cons a p args known hap htail ih =>
    obtain ⟨n, t⟩ := p
    obtain ⟨rfl, ht⟩ := hap
    obtain ⟨hfresh, hnames⟩ := List.nodup_cons.1 hnames
    rcases List.mem_cons.1 hr with rfl | hr
    · exact ⟨t, ht, by simp⟩
    · obtain ⟨t', ht', hlook⟩ := ih hnames hr
      refine ⟨t', ht', ?_⟩
      have hne : r.name ≠ a.name := fun h => hfresh (List.mem_map.2 ⟨r, hr, h⟩)
      rw [lookup_cons_of_ne hne, hlook]

theorem freeArguments_cons (a : Argument) (rest : List Argument) :
    freeArguments (a :: rest) = if a.isFree then a :: freeArguments rest else freeArguments rest :=
  List.filter_cons

theorem Chosen.of_free {a : Argument} {rest : List Argument} {choice : List ConcreteType}
    (h : Chosen (a :: rest) choice) (hc : a.constraint? = none) :
    ∃ t choice', choice = t :: choice' ∧ t ∈ a.typeList ∧ Chosen rest choice' := by
  rw [Chosen, freeArguments_cons, if_pos (by simp [Argument.isFree, hc])] at h
  obtain ⟨t, choice', ht, hrest, rfl⟩ := List.forall₂_cons_left_iff.1 h
  exact ⟨t, choice', rfl, ht, hrest⟩

theorem Chosen.of_derived {a : Argument} {rest : List Argument} {choice : List ConcreteType}
    {c : Constraint} (h : Chosen (a :: rest) choice) (hc : a.constraint? = some c) :
    Chosen rest choice := by
  rwa [Chosen, freeArguments_cons, if_neg (by simp [Argument.isFree, hc])] at h

/-! ### What deriving adds

Only derived arguments get an entry, so a type that is known for another name stays. -/

/-- Deriving the types of `args` from `known` answers `final`, which has `row` for the arguments and
keeps what was known of every name but those of derived arguments. -/
structure Completes (known : Assignment) (args : List Argument) (final : Assignment)
    (row : List ConcreteType) : Prop where
  result : derive known args = .ok final
  types : args.map (fun a => final.lookup a.name) = row.map some
  keeps : ∀ n, (∀ a ∈ args, a.isFree = false → a.name ≠ n) → final.lookup n = known.lookup n

namespace Completes

variable {known final : Assignment} {a : Argument} {rest : List Argument} {row : List ConcreteType}
  {t : ConcreteType}

theorem nil : Completes known [] known [] := ⟨rfl, rfl, fun _ _ => rfl⟩

/-- A free argument keeps the type that is known for it. -/
theorem cons_free (h : Completes known rest final row) (hc : a.constraint? = none)
    (ha : known.lookup a.name = some t) (hafter : ∀ b ∈ rest, b.name ≠ a.name) :
    Completes known (a :: rest) final (t :: row) where
  result := by simpa only [derive, hc] using h.result
  types := by
    have hself : final.lookup a.name = some t := by
      rw [h.keeps a.name fun b hb _ => hafter b hb, ha]
    rw [List.map_cons, List.map_cons, hself, h.types]
  keeps n hn := h.keeps n fun b hb => hn b (List.mem_cons_of_mem a hb)

/-- A derived argument adds the projection of its referent's type. -/
theorem cons_derived {c : Constraint} {t' : ConcreteType}
    (h : Completes ((a.name, t') :: known) rest final row) (hc : a.constraint? = some c)
    (href : known.lookup c.reference = some t) (hproj : c.relation.project t = .ok t')
    (hafter : ∀ b ∈ rest, b.name ≠ a.name) : Completes known (a :: rest) final (t' :: row) where
  result := by simpa only [derive, hc, href, hproj] using h.result
  types := by
    have hself : final.lookup a.name = some t' := by
      rw [h.keeps a.name fun b hb _ => hafter b hb, List.lookup_cons_self]
    rw [List.map_cons, List.map_cons, hself, h.types]
  keeps n hn := by
    have hne : a.name ≠ n := hn a List.mem_cons_self (by simp [Argument.isFree, hc])
    rw [h.keeps n fun b hb => hn b (List.mem_cons_of_mem a hb), lookup_cons_of_ne hne.symm]

end Completes

section Settled

variable {args before rest : List Argument} {a : Argument} {known : Assignment}

/-- The referent of a derived argument is known, and its type has an image among the argument's own.
-/
theorem exists_image (hset : Settled args) (hsplit : args = before ++ a :: rest)
    (hknown : Assigned before known) {c : Constraint} (hc : a.constraint? = some c) :
    ∃ t, known.lookup c.reference = some t ∧ c.relation.project t = .ok (c.relation.image t) ∧
      c.relation.image t ∈ a.typeList := by
  obtain ⟨r, hr, hname, hder⟩ := (hset before a rest hsplit).referent c hc
  have hbefore : Settled before := Settled.of_append (hsplit ▸ hset)
  obtain ⟨t, ht, hlook⟩ := hknown.exists_lookup hbefore.names_nodup hr
  exact ⟨t, hname ▸ hlook, hder.project ht, hder.image_mem ht⟩

/-- Every type of a completed row is one of its argument's types. -/
theorem forall₂_complete (hset : Settled args) (hsplit : args = before ++ rest)
    (hknown : Assigned before known) {choice : List ConcreteType} (hchoice : Chosen rest choice) :
    List.Forall₂ (fun a t => t ∈ a.typeList) rest (complete known rest choice) := by
  induction rest generalizing before known choice with
  | nil => exact .nil
  | cons a rest ih =>
    have hsplit' : args = (before ++ [a]) ++ rest := by simp [hsplit]
    cases hc : a.constraint? with
    | some c =>
      obtain ⟨t, hlook, -, himage⟩ := exists_image hset hsplit hknown hc
      simp only [complete, hc, hlook]
      exact .cons himage (ih hsplit' (hknown.snoc himage) (hchoice.of_derived hc))
    | none =>
      obtain ⟨t, choice, rfl, ht, hchoice⟩ := hchoice.of_free hc
      simp only [complete, hc]
      exact .cons ht (ih hsplit' (hknown.snoc ht) hchoice)

/-- What is known of the arguments up to `a` agrees with what is known of those before it and the type
of `a`. -/
theorem lookup_snoc_eq (hfollows : a.Follows before) (hknown : Assigned before known)
    {k : Assignment} {t : ConcreteType} (hbefore : ∀ r ∈ before, k.lookup r.name = known.lookup r.name)
    (ha : k.lookup a.name = some t) :
    ∀ r ∈ before ++ [a], k.lookup r.name = (known ++ [(a.name, t)]).lookup r.name := by
  intro r hr
  rw [List.lookup_append]
  rcases List.mem_append.1 hr with hr | hr
  · have hne : r.name ≠ a.name := fun h => hfollows.fresh (List.mem_map.2 ⟨r, hr, h⟩)
    rw [hbefore r hr, lookup_cons_of_ne hne, List.lookup_nil, Option.or_none]
  · rw [List.mem_singleton.1 hr, ha, hknown.lookup_eq_none hfollows.fresh, Option.none_or,
      List.lookup_cons_self]

/-- No argument after `a` has its name. -/
theorem name_ne_of_mem_after (hset : Settled args) (hsplit : args = before ++ a :: rest) :
    ∀ b ∈ rest, b.name ≠ a.name := by
  have hnodup := hset.names_nodup
  rw [hsplit, List.map_append, List.map_cons, List.nodup_append] at hnodup
  intro b hb h
  exact (List.nodup_cons.1 hnodup.2.1).1 (List.mem_map.2 ⟨b, hb, h⟩)

/-- Deriving the other types from a choice succeeds, and answers the completed row. -/
theorem exists_derive (hset : Settled args) (hsplit : args = before ++ rest)
    (hknown : Assigned before known) {choice : List ConcreteType} (hchoice : Chosen rest choice)
    {k : Assignment} (hbefore : ∀ r ∈ before, k.lookup r.name = known.lookup r.name)
    (hroots : (freeArguments rest).map (fun a => k.lookup a.name) = choice.map some) :
    ∃ k', Completes k rest k' (complete known rest choice) := by
  induction rest generalizing before known choice k with
  | nil => exact ⟨k, .nil⟩
  | cons a rest ih =>
    have hsplit' : args = (before ++ [a]) ++ rest := by simp [hsplit]
    have hfollows := hset before a rest hsplit
    have hafter := name_ne_of_mem_after hset hsplit
    cases hc : a.constraint? with
    | none =>
      obtain ⟨t, choice, rfl, ht, hchoice⟩ := hchoice.of_free hc
      rw [freeArguments_cons, if_pos (by simp [Argument.isFree, hc]), List.map_cons, List.map_cons,
        List.cons.injEq] at hroots
      obtain ⟨k', hk'⟩ := ih hsplit' (hknown.snoc ht) hchoice
        (lookup_snoc_eq hfollows hknown hbefore hroots.1) hroots.2
      refine ⟨k', ?_⟩
      simp only [complete, hc]
      exact hk'.cons_free hc hroots.1 hafter
    | some c =>
      obtain ⟨t, hlook, hproj, himage⟩ := exists_image hset hsplit hknown hc
      obtain ⟨r, hr, hrname, -⟩ := hfollows.referent c hc
      have href : k.lookup c.reference = some t := by rw [← hrname, hbefore r hr, hrname, hlook]
      -- the new entry shadows no argument before `a`, and no free one after it
      have hbefore' : ∀ r ∈ before,
          ((a.name, c.relation.image t) :: k).lookup r.name = known.lookup r.name := fun r hr => by
        have hne : r.name ≠ a.name := fun h => hfollows.fresh (List.mem_map.2 ⟨r, hr, h⟩)
        rw [lookup_cons_of_ne hne, hbefore r hr]
      have hroots' : (freeArguments rest).map
          (fun b => ((a.name, c.relation.image t) :: k).lookup b.name) = choice.map some := by
        rw [freeArguments_cons, if_neg (by simp [Argument.isFree, hc])] at hroots
        rw [← hroots]
        apply List.map_congr_left
        intro b hb
        exact lookup_cons_of_ne (hafter b (List.mem_of_mem_filter hb))
      obtain ⟨k', hk'⟩ := ih hsplit' (hknown.snoc himage) (hchoice.of_derived hc)
        (lookup_snoc_eq hfollows hknown hbefore' List.lookup_cons_self) hroots'
      refine ⟨k', ?_⟩
      simp only [complete, hc, hlook]
      exact hk'.cons_derived hc href hproj hafter

end Settled

end Monomorph.Expansion
