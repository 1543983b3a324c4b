import Monomorph.Emission.Native
import Monomorph.Proofs.Emission.Accepted
import Monomorph.Proofs.Text.Words

/-!
The symbols of a table differ. A symbol joins the tags of the types that were chosen for the numeric
free arguments. No such tag starts with another one, so tags can be told apart from the left; and a
host argument has one type only, so the tags decide the choice. Hence all specialisations are emitted.
-/

namespace Monomorph

open Text

namespace ConcreteType

/-- No numeric tag starts with another one. -/
theorem eq_of_prefix_tag :
    ∀ t ∈ numeric, ∀ u ∈ numeric, t.tag.toList <+: u.tag.toList → t = u := by decide

/-- A numeric tag at the head of a text is the only one there. -/
theorem eq_of_tag_append {t u : ConcreteType} (ht : t.isHost = false) (hu : u.isHost = false)
    {r r' : List Char} (h : t.tag.toList ++ r = u.tag.toList ++ r') : t = u ∧ r = r' := by
  have heq : t = u := by
    rcases List.prefix_or_prefix_of_prefix (List.prefix_append _ r) (h ▸ List.prefix_append _ r')
      with hstarts | hstarts
    · exact eq_of_prefix_tag t (mem_numeric ht) u (mem_numeric hu) hstarts
    · exact (eq_of_prefix_tag u (mem_numeric hu) t (mem_numeric ht) hstarts).symm
  subst heq
  exact ⟨rfl, List.append_cancel_left h⟩

/-- Joined numeric tags decide the types, if their number is known. -/
theorem eq_of_joinWith_tags {sep : List Char} {ts us : List ConcreteType}
    (hlen : ts.length = us.length) (hts : ∀ t ∈ ts, t.isHost = false)
    (hus : ∀ u ∈ us, u.isHost = false)
    (h : joinWith sep (ts.map fun t => t.tag.toList) = joinWith sep (us.map fun u => u.tag.toList)) :
    ts = us := by
  induction ts generalizing us with
  | nil => exact (List.length_eq_zero_iff.1 hlen.symm).symm
  | cons t ts ih =>
    obtain ⟨u, us, rfl⟩ := List.exists_cons_of_length_eq_add_one hlen.symm
    obtain ⟨ht, hts'⟩ := List.forall_mem_cons.1 hts
    obtain ⟨hu, hus'⟩ := List.forall_mem_cons.1 hus
    have hlen' : ts.length = us.length := by simpa using hlen
    rcases eq_or_ne ts [] with rfl | hne
    · obtain rfl := List.length_eq_zero_iff.1 hlen'.symm
      simp only [List.map_cons, List.map_nil, joinWith] at h
      have happend : t.tag.toList ++ [] = u.tag.toList ++ [] := by rw [h]
      rw [(eq_of_tag_append ht hu happend).1]
    · have hne' : us ≠ [] := fun hnil => hne (List.length_eq_zero_iff.1 (by rw [hlen', hnil]; rfl))
      rw [List.map_cons, List.map_cons, joinWith_cons _ _ (by simpa using hne),
        joinWith_cons _ _ (by simpa using hne'), List.append_assoc, List.append_assoc] at h
      obtain ⟨rfl, htail⟩ := eq_of_tag_append ht hu h
      rw [ih hlen' hts' hus' (List.append_cancel_left htail)]

theorem fragment_of_numeric {t : ConcreteType} (h : t.isHost = false) : t.fragment = t.tag := by
  cases t with
  | dense _ => rfl
  | sparse _ _ => rfl
  | host text => cases h

end ConcreteType

namespace Expansion

variable {d : Declaration} {args : List Argument} {choice choice' : List ConcreteType}

/-- The symbol decides the numeric types that it was made from, if their number is known. -/
theorem eq_of_identifier {function : String} {ts us : List ConcreteType}
    (hlen : ts.length = us.length) (hts : ∀ t ∈ ts, t.isHost = false)
    (hus : ∀ u ∈ us, u.isHost = false)
    (h : identifier function (ts.map (·.fragment)) = identifier function (us.map (·.fragment))) :
    ts = us := by
  have hfragments : ∀ vs : List ConcreteType, (∀ v ∈ vs, v.isHost = false) →
      (vs.map (·.fragment)).map String.toList = vs.map fun v => v.tag.toList := by
    intro vs hvs
    rw [List.map_map]
    refine List.map_congr_left fun v hv => ?_
    rw [Function.comp, ConcreteType.fragment_of_numeric (hvs v hv)]
  cases ts with
  | nil => exact (List.length_eq_zero_iff.1 hlen.symm).symm
  | cons t ts =>
    obtain ⟨u, us, rfl⟩ := List.exists_cons_of_length_eq_add_one hlen.symm
    unfold identifier at h
    rw [if_neg (by simp), if_neg (by simp)] at h
    have hjoin := congrArg String.toList h
    simp only [String.toList_append] at hjoin
    have hparts := List.append_cancel_left hjoin
    simp only [join, String.toList_ofList, hfragments _ hts, hfragments _ hus] at hparts
    exact ConcreteType.eq_of_joinWith_tags hlen hts hus hparts

/-- The types of a choice that show in its symbol: those of the numeric arguments. -/
def shownTypes (args : List Argument) (choice : List ConcreteType) : List ConcreteType :=
  ((args.zip choice).filter fun p => !p.1.isPassedThrough).map (·.2)

theorem fragments_eq (choice : List ConcreteType) :
    fragments args choice = (shownTypes (freeArguments args) choice).map (·.fragment) := by
  rw [fragments, shownTypes, List.map_map]
  rfl

theorem shownTypes_cons (a : Argument) (t : ConcreteType) :
    shownTypes (a :: args) (t :: choice) =
      if a.isPassedThrough then shownTypes args choice else t :: shownTypes args choice := by
  cases h : a.isPassedThrough <;> simp [shownTypes, h]

/-- A choice of one type for each of some arguments. -/
abbrev Chooses (args : List Argument) (choice : List ConcreteType) : Prop :=
  List.Forall₂ (fun a t => t ∈ a.typeList) args choice

theorem length_shownTypes (h : Chooses args choice) (h' : Chooses args choice') :
    (shownTypes args choice).length = (shownTypes args choice').length := by
  induction h generalizing choice' with
  | nil =>
    cases h'
    rfl
  | cons _ _ ih =>
    cases h' with
    | cons _ htail' =>
      rw [shownTypes_cons, shownTypes_cons]
      split
      · exact ih htail'
      · rw [List.length_cons, List.length_cons, ih htail']

theorem isHost_of_mem_shownTypes (hsets : ∀ a ∈ args, TypeSet a.typeList) (h : Chooses args choice) :
    ∀ t ∈ shownTypes args choice, t.isHost = false := by
  induction h with
  | nil => simp [shownTypes]
  | @cons a t args choice ht _ ih =>
    obtain ⟨hset, hsets⟩ := List.forall_mem_cons.1 hsets
    rw [shownTypes_cons]
    split
    · exact ih hsets
    · next hnum =>
      refine List.forall_mem_cons.2 ⟨?_, ih hsets⟩
      rw [Argument.isHost_of_isPassedThrough hset ht]
      simpa using hnum

/-- What shows of a choice decides it, since a host argument has one type. -/
theorem eq_of_shownTypes (hsets : ∀ a ∈ args, TypeSet a.typeList) (h : Chooses args choice)
    (h' : Chooses args choice') (heq : shownTypes args choice = shownTypes args choice') :
    choice = choice' := by
  induction h generalizing choice' with
  | nil =>
    cases h'
    rfl
  | @cons a t args choice ht _ ih =>
    cases h' with
    | @cons _ t' _ choice' ht' htail' =>
      obtain ⟨hset, hsets⟩ := List.forall_mem_cons.1 hsets
      rw [shownTypes_cons, shownTypes_cons] at heq
      split at heq
      · next hpassed =>
        obtain ⟨text, htext⟩ := (Argument.isPassedThrough_eq_true_iff hset).1 hpassed
        rw [htext, List.mem_singleton] at ht ht'
        rw [ht, ht', ih hsets htail' heq]
      · obtain ⟨rfl, htail⟩ := List.cons.inj heq
        rw [ih hsets htail' htail]

theorem typeSet_of_mem_freeArguments (hset : Settled d.arguments) :
    ∀ a ∈ freeArguments d.arguments, TypeSet a.typeList := by
  intro a ha
  obtain ⟨_, hfollows⟩ := hset.of_mem (List.mem_of_mem_filter ha)
  exact hfollows.typed

/-- Different choices have different symbols. -/
theorem eq_of_identifier_fragments (hset : Settled d.arguments) (h : Chosen d.arguments choice)
    (h' : Chosen d.arguments choice')
    (heq : identifier d.name (fragments d.arguments choice) =
      identifier d.name (fragments d.arguments choice')) : choice = choice' := by
  have hsets := typeSet_of_mem_freeArguments hset
  rw [fragments_eq, fragments_eq] at heq
  exact eq_of_shownTypes hsets h h' (eq_of_identifier (length_shownTypes h h')
    (isHost_of_mem_shownTypes hsets h) (isHost_of_mem_shownTypes hsets h') heq)

/-- The symbols of a table are texts, each of them different. -/
theorem exists_identifiers_table (hset : Settled d.arguments) :
    ∃ symbols : List String, symbols.Nodup ∧ (table d).identifiers = symbols.map Label.text := by
  refine ⟨(rowChoices d).map fun choice => identifier d.name (fragments d.arguments choice), ?_, ?_⟩
  · refine (nodup_rowChoices hset).map_on fun choice hc choice' hc' heq => ?_
    exact eq_of_identifier_fragments hset (mem_choices_typeList.1 hc) (mem_choices_typeList.1 hc') heq
  · rw [DispatchTable.identifiers, table, List.map_map]
    apply List.ext_getElem?
    intro i
    simp only [List.getElem?_map, List.getElem?_mapIdx, Option.map_map]
    rfl

end Expansion

namespace Emission

open Expansion

variable {d : Declaration}

theorem areDistinct_map_text {names : List String} (h : names.Nodup) :
    Label.areDistinct (names.map Label.text) = true := by
  induction names with
  | nil => rfl
  | cons n names ih =>
    obtain ⟨hfresh, hnames⟩ := List.nodup_cons.1 h
    rw [List.map_cons, Label.areDistinct, ih hnames, Bool.and_true, Bool.not_eq_true', List.any_map,
      List.any_eq_false]
    rintro m hm heq
    exact hfresh (by simpa [Label.same] using (beq_iff_eq.1 heq : n = m) ▸ hm)

/-- All specialisations of a settled declaration are emitted. -/
theorem specializations_eq (hset : Settled d.arguments) :
    specializations ⟨d, table d⟩ =
      .ok ((table d).combinations.map (Specialization.of ⟨d, table d⟩)) := by
  obtain ⟨symbols, hnodup, hsymbols⟩ := exists_identifiers_table hset
  have hkeys : (symbols.map Label.text).all (·.isKey) = true := by
    rw [List.all_map, List.all_eq_true]
    exact fun _ _ => rfl
  unfold specializations
  simp only [hsymbols, hkeys, areDistinct_map_text hnodup, Bool.not_true, Bool.false_eq_true, if_false,
    if_true]

/-- The native source of a settled declaration is emitted. -/
theorem exists_native (hset : Settled d.arguments) :
    ∃ native, Native.of ⟨d, table d⟩ = .ok native ∧ native.dispatcher = dispatcher d ∧
      native.specializations = (table d).combinations.map (Specialization.of ⟨d, table d⟩) := by
  unfold Native.of
  simp only [specializations_eq hset, dispatcher_eq hset, bind, Except.bind, pure, Except.pure,
    Except.ok.injEq, exists_eq_left', and_self]

end Emission

end Monomorph
