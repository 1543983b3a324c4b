import Mathlib.Data.List.Induction
import Monomorph.Proofs.Resolution.TypeSet
import Monomorph.Proofs.Scan.Draft

/-!
Resolved argument lists. Every argument has a type set, a name and a position of its own, and
derives its types, if it is constrained, from an argument before it. Resolution appends one such
argument after the other, so every scanned and resolved declaration is settled.
-/

namespace Monomorph

/-- What is true of a resolved argument, given the arguments before it. -/
structure Argument.Follows (before : List Argument) (a : Argument) : Prop where
  typed : TypeSet a.typeList
  resolved : a.types.isSome = true
  position : a.position = before.length
  fresh : a.name ∉ before.map (·.name)
  referent : ∀ c, a.constraint? = some c →
    ∃ r ∈ before, r.name = c.reference ∧ Derives c.relation r.typeList a.typeList

/-- Resolved arguments: each follows from those before it. -/
def Settled (args : List Argument) : Prop :=
  ∀ before a after, args = before ++ a :: after → a.Follows before

namespace Settled

variable {args before after : List Argument} {a : Argument}

theorem nil : Settled [] := fun _ _ _ h => absurd h (by simp)

theorem snoc (h : Settled before) (ha : a.Follows before) : Settled (before ++ [a]) := by
  intro b x c hsplit
  rcases List.eq_nil_or_concat c with rfl | ⟨c, y, rfl⟩
  · obtain ⟨rfl, hx⟩ := List.append_inj' hsplit rfl
    cases hx
    exact ha
  · have hinit : before ++ [a] = (b ++ x :: c) ++ [y] := by simp [hsplit]
    obtain ⟨rfl, -⟩ := List.append_inj' hinit rfl
    exact h b x c rfl

theorem of_mem (h : Settled args) (ha : a ∈ args) : ∃ before, a.Follows before := by
  obtain ⟨before, after, rfl⟩ := List.append_of_mem ha
  exact ⟨before, h before a after rfl⟩

theorem of_append (h : Settled (before ++ after)) : Settled before := by
  intro b x c hsplit
  exact h b x (c ++ after) (by simp [hsplit])

theorem names_nodup (h : Settled args) : (args.map (·.name)).Nodup := by
  induction args using List.reverseRecOn with
  | nil => exact List.nodup_nil
  | append_singleton args a ih =>
    rw [List.map_append, List.nodup_append]
    refine ⟨ih h.of_append, by simp, ?_⟩
    rintro n hn _ hm rfl
    rw [List.map_singleton, List.mem_singleton] at hm
    exact (h args a [] rfl).fresh (hm ▸ hn)

theorem eq_of_name (h : Settled args) {b : Argument} (ha : a ∈ args) (hb : b ∈ args)
    (hname : a.name = b.name) : a = b :=
  List.inj_on_of_nodup_map h.names_nodup ha hb hname

theorem find?_name (h : Settled args) (ha : a ∈ args) :
    args.find? (·.name == a.name) = some a := by
  cases hf : args.find? (·.name == a.name) with
  | none => exact absurd (List.find?_eq_none.1 hf a ha) (by simp)
  | some b =>
    have hname : b.name = a.name := by simpa using List.find?_some hf
    rw [h.eq_of_name (List.mem_of_find?_eq_some hf) ha hname]

/-- The position of an argument is its place. -/
theorem position_eq (h : Settled args) {i : Nat} (hi : args[i]? = some a) : a.position = i := by
  obtain ⟨hlt, rfl⟩ := List.getElem?_eq_some_iff.1 hi
  have hsplit : args = args.take i ++ args[i] :: args.drop (i + 1) := by simp
  rw [(h _ _ _ hsplit).position, List.length_take]
  omega

end Settled

namespace Resolution

variable {registry : Registry}

theorem typeSet_of_typesOf (hreg : registry.IsNumeric) {resolved : List Argument}
    {declared : List String} {a : Argument} {ts : List ConcreteType}
    (hres : ∀ r ∈ resolved, TypeSet r.typeList) (h : typesOf registry resolved declared a = .ok ts) :
    TypeSet ts ∧ ∀ c, a.constraint? = some c →
      ∃ r ∈ resolved, r.name = c.reference ∧ Derives c.relation r.typeList ts := by
  unfold typesOf at h
  split at h
  · next c hc =>
    obtain ⟨r, hr, hname, hder⟩ := derives_of_ofConstraint hres h
    refine ⟨hder.typeSet (hres r hr), fun c' hc' => ?_⟩
    obtain rfl : c = c' := by simpa [Argument.constraint?, hc] using hc'
    exact ⟨r, hr, hname, hder⟩
  · next tokens htokens =>
    refine ⟨?_, fun c hc => by simp [Argument.constraint?, htokens] at hc⟩
    split at h
    · next hok =>
      cases h
      exact typeSet_of_ofTokens hreg hok
    · cases h

/-- Resolving further arguments keeps what is settled. -/
theorem settled_of_arguments (hreg : registry.IsNumeric) {declared : List String}
    {resolved args out : List Argument} (hset : Settled resolved)
    (hnames : ((resolved ++ args).map (·.name)).Nodup)
    (hpos : args.map (·.position) = List.range' resolved.length args.length)
    (h : arguments registry declared resolved args = .ok out) : Settled out := by
  induction args generalizing resolved with
  | nil =>
    rw [arguments] at h
    cases h
    exact hset
  | cons a rest ih =>
    rw [arguments] at h
    split at h
    · cases h
    · next ts hts =>
      have hres : ∀ r ∈ resolved, TypeSet r.typeList := fun r hr => by
        obtain ⟨_, hfollows⟩ := hset.of_mem hr
        exact hfollows.typed
      obtain ⟨htyped, href⟩ := typeSet_of_typesOf hreg hres hts
      rw [List.map_cons, List.length_cons, List.range'_succ, List.cons.injEq] at hpos
      have hfresh : a.name ∉ resolved.map (·.name) := fun hmem => by
        rw [List.map_append, List.map_cons, List.nodup_append] at hnames
        exact hnames.2.2 _ hmem _ List.mem_cons_self rfl
      have hfollows : Argument.Follows resolved { a with types := some ts } :=
        ⟨htyped, rfl, hpos.1, hfresh, href⟩
      refine ih (hset.snoc hfollows) ?_ ?_ h
      · simpa using hnames
      · simpa using hpos.2

theorem names_of_arguments {declared : List String} {resolved args out : List Argument}
    (h : arguments registry declared resolved args = .ok out) :
    out.map (·.name) = (resolved ++ args).map (·.name) := by
  induction args generalizing resolved with
  | nil =>
    rw [arguments] at h
    cases h
    rw [List.append_nil]
  | cons a rest ih =>
    rw [arguments] at h
    split at h
    · cases h
    · rw [ih h]
      simp

end Resolution

/-- Resolution keeps the names of the arguments, all of which can be bound. -/
theorem isBindingName_of_scan_resolve {text : String} {path : Option Path} {s : Scanned}
    {registry : Registry} {d : Declaration} (hscan : scan text path = .ok s)
    (hres : s.declaration.resolve registry = .ok d) : ∀ n ∈ d.names, Text.isBindingName n = true := by
  obtain ⟨draft, hdraft, hdecl⟩ := Scan.exists_ordered_of_scan hscan
  unfold Declaration.resolve at hres
  cases hargs : Resolution.arguments registry s.declaration.names [] s.declaration.arguments with
  | error e => simp [hargs, Except.map] at hres
  | ok out =>
    simp only [hargs, Except.map, Except.ok.injEq] at hres
    have hnames := Resolution.names_of_arguments hargs
    rw [List.nil_append, hdecl] at hnames
    rw [← hres, Declaration.names, hnames]
    exact hdraft.bound

/-- A scanned declaration that resolves is settled. -/
theorem settled_of_scan_resolve {text : String} {path : Option Path} {s : Scanned}
    {registry : Registry} {d : Declaration} (hreg : registry.IsNumeric)
    (hscan : scan text path = .ok s) (hres : s.declaration.resolve registry = .ok d) :
    Settled d.arguments := by
  obtain ⟨draft, hdraft, hdecl⟩ := Scan.exists_ordered_of_scan hscan
  unfold Declaration.resolve at hres
  cases hargs : Resolution.arguments registry s.declaration.names [] s.declaration.arguments with
  | error e => simp [hargs, Except.map] at hres
  | ok out =>
    simp only [hargs, Except.map, Except.ok.injEq] at hres
    rw [← hres]
    rw [hdecl] at hargs
    exact Resolution.settled_of_arguments hreg Settled.nil hdraft.distinct
      (by rw [hdraft.positions, List.range_eq_range', List.length_nil]) hargs

/-- A value computed from a text by scanning and resolving is one of its resolved declaration. -/
theorem exists_scan_resolve_in {α : Type} (registry : Registry) (text : String) (f : Declaration → α)
    (v : α) (h : ((scan text).toOption.bind fun s =>
      (s.declaration.resolve registry).toOption.map f) = some v) :
    ∃ s d, scan text = .ok s ∧ s.declaration.resolve registry = .ok d ∧ f d = v := by
  cases hscan : scan text with
  | error e => simp [hscan, Except.toOption] at h
  | ok s =>
    cases hres : s.declaration.resolve registry with
    | error e => simp [hscan, hres, Except.toOption] at h
    | ok d => exact ⟨s, d, rfl, hres, by simpa [hscan, hres, Except.toOption] using h⟩

theorem exists_scan_resolve {α : Type} (text : String) (f : Declaration → α) (v : α)
    (h : ((scan text).toOption.bind fun s => s.declaration.resolve.toOption.map f) = some v) :
    ∃ s d, scan text = .ok s ∧ s.declaration.resolve = .ok d ∧ f d = v :=
  exists_scan_resolve_in .standard text f v h

end Monomorph
