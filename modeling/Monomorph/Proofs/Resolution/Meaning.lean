import Monomorph.Proofs.Resolution.TypeSet

/-!
What the declarations of a list of arguments say about types, without an order of resolution. A list
of tokens gives known types or one host type, and a constraint hands on the types of the argument it
names. The error of an argument that says nothing sensible is described in the same terms.
-/

namespace Monomorph

/-- The types of a named argument, as the declarations of some arguments give them. -/
inductive TypesIn (registry : Registry) (args : List Argument) : String → List ConcreteType → Prop
  | known {a : Argument} {tokens : List String} (mem : a ∈ args)
      (source : a.source = .listed tokens) (all : ∀ t ∈ tokens, (registry.lookup t).isSome) :
      TypesIn registry args a.name (tokens.filterMap registry.lookup).eraseDups
  | host {a : Argument} {t : String} (mem : a ∈ args) (source : a.source = .listed [t])
      (unknown : registry.lookup t = none) (plain : Registry.isTagShaped t = false) :
      TypesIn registry args a.name [.ofHost t]
  | same {a : Argument} {c : Constraint} {ts : List ConcreteType} (mem : a ∈ args)
      (source : a.source = .derived c) (relation : c.relation = .same)
      (referent : TypesIn registry args c.reference ts) : TypesIn registry args a.name ts
  | like {a : Argument} {c : Constraint} {ts ts' : List ConcreteType} (mem : a ∈ args)
      (source : a.source = .derived c) (relation : c.relation ≠ .same)
      (referent : TypesIn registry args c.reference ts)
      (images : ts.mapM c.relation.project = .ok ts') :
      TypesIn registry args a.name ts'.eraseDups

/-- No token is refused by itself: each is known or does not look numeric. -/
def Registry.Admits (registry : Registry) (tokens : List String) : Prop :=
  ∀ t ∈ tokens, registry.lookup t = none → Registry.isTagShaped t = false

/-- Can an argument be resolved, among some arguments of which some stand before it? Listed tokens are
all known, or there is one and it is a host type. A constraint names an argument before, and asks for
storage of numeric types only. -/
def Argument.IsResolvable (registry : Registry) (args before : List Argument) (a : Argument) : Prop :=
  match a.source with
  | .listed tokens => (∀ t ∈ tokens, (registry.lookup t).isSome) ∨
      ∃ t, tokens = [t] ∧ registry.lookup t = none ∧ Registry.isTagShaped t = false
  | .derived c => c.reference ∈ before.map (·.name) ∧ (c.relation = .same ∨
      ∃ ts, TypesIn registry args c.reference ts ∧ ∀ t ∈ ts, t.isHost = false)

/-- The error of an argument that cannot be resolved, among some arguments of which some stand before
it. -/
inductive Argument.Rejects (registry : Registry) (args before : List Argument) (a : Argument) :
    ResolutionError → Prop
  | itself {c : Constraint} (source : a.source = .derived c) (own : c.reference = a.name) :
      Rejects registry args before a (.reference ⟨.itself, a.name, c, a.location⟩)
  | declaredLater {c : Constraint} (source : a.source = .derived c) (other : c.reference ≠ a.name)
      (unseen : c.reference ∉ before.map (·.name)) (declared : c.reference ∈ args.map (·.name)) :
      Rejects registry args before a (.reference ⟨.declaredLater, a.name, c, a.location⟩)
  | unknown {c : Constraint} (source : a.source = .derived c) (other : c.reference ≠ a.name)
      (undeclared : c.reference ∉ args.map (·.name)) :
      Rejects registry args before a (.reference ⟨.unknown, a.name, c, a.location⟩)
  | notNumeric {c : Constraint} {t : ConcreteType} (source : a.source = .derived c)
      (seen : c.reference ∈ before.map (·.name)) (relation : c.relation ≠ .same)
      (referent : TypesIn registry args c.reference [t]) (host : t.isHost = true) :
      Rejects registry args before a (.reference ⟨.notNumeric t.tag, a.name, c, a.location⟩)
  | unknownTag {l r : List String} {t : String} (source : a.source = .listed (l ++ t :: r))
      (first : registry.Admits l) (unknown : registry.lookup t = none) (shaped : Registry.isTagShaped t = true) :
      Rejects registry args before a
        (.declaration ⟨.unknownTag a.name t, a.location, Marker.argument.spelling⟩)
  | mixedTypes {l r : List String} {t : String} (source : a.source = .listed (l ++ t :: r))
      (first : ∀ u ∈ l, (registry.lookup u).isSome) (unknown : registry.lookup t = none)
      (plain : registry.Admits (l ++ t :: r))
      (known : ∃ u ∈ l ++ t :: r, (registry.lookup u).isSome) :
      Rejects registry args before a
        (.declaration ⟨.mixedTypes a.name t, a.location, Marker.argument.spelling⟩)
  | severalHosts {tokens : List String} (source : a.source = .listed tokens)
      (several : 2 ≤ tokens.length) (unknown : ∀ t ∈ tokens, registry.lookup t = none)
      (plain : registry.Admits tokens) :
      Rejects registry args before a
        (.declaration ⟨.severalHosts a.name tokens, a.location, Marker.argument.spelling⟩)

section

variable {registry : Registry} {args before : List Argument} {a b : Argument} {n : String}
  {ts ts' : List ConcreteType}

theorem Argument.isResolvable_listed {tokens : List String} (h : a.source = .listed tokens) :
    a.IsResolvable registry args before ↔ (∀ t ∈ tokens, (registry.lookup t).isSome) ∨
      ∃ t, tokens = [t] ∧ registry.lookup t = none ∧ Registry.isTagShaped t = false := by
  rw [IsResolvable, h]

theorem Argument.isResolvable_derived {c : Constraint} (h : a.source = .derived c) :
    a.IsResolvable registry args before ↔ c.reference ∈ before.map (·.name) ∧ (c.relation = .same ∨
      ∃ ts, TypesIn registry args c.reference ts ∧ ∀ t ∈ ts, t.isHost = false) := by
  rw [IsResolvable, h]

namespace TypesIn

theorem exists_mem (h : TypesIn registry args n ts) : ∃ a ∈ args, a.name = n := by
  cases h with
  | known mem source all => exact ⟨_, mem, rfl⟩
  | host mem source unknown plain => exact ⟨_, mem, rfl⟩
  | same mem source relation referent => exact ⟨_, mem, rfl⟩
  | like mem source relation referent images => exact ⟨_, mem, rfl⟩

/-- What the declarations say when the argument lists tokens. -/
theorem of_listed (hnames : (args.map (·.name)).Nodup) (ha : a ∈ args)
    (h : TypesIn registry args a.name ts) {tokens : List String} (hsource : a.source = .listed tokens) :
    ((∀ t ∈ tokens, (registry.lookup t).isSome) ∧
      ts = (tokens.filterMap registry.lookup).eraseDups) ∨
      ∃ t, tokens = [t] ∧ registry.lookup t = none ∧ ts = [.ofHost t] := by
  generalize hn : a.name = n at h
  cases h with
  | known mem source all =>
    obtain rfl := List.inj_on_of_nodup_map hnames ha mem hn
    obtain rfl : tokens = _ := by simpa [hsource] using source
    exact .inl ⟨all, rfl⟩
  | host mem source unknown plain =>
    obtain rfl := List.inj_on_of_nodup_map hnames ha mem hn
    obtain rfl : tokens = _ := by simpa [hsource] using source
    exact .inr ⟨_, rfl, unknown, rfl⟩
  | same mem source relation referent =>
    obtain rfl := List.inj_on_of_nodup_map hnames ha mem hn
    simp [hsource] at source
  | like mem source relation referent images =>
    obtain rfl := List.inj_on_of_nodup_map hnames ha mem hn
    simp [hsource] at source

/-- What the declarations say when the argument has a constraint. -/
theorem of_derived (hnames : (args.map (·.name)).Nodup) (ha : a ∈ args)
    (h : TypesIn registry args a.name ts) {c : Constraint} (hsource : a.source = .derived c) :
    ∃ us, TypesIn registry args c.reference us ∧ ((c.relation = .same ∧ ts = us) ∨
      c.relation ≠ .same ∧ ∃ images, us.mapM c.relation.project = .ok images ∧
        ts = images.eraseDups) := by
  generalize hn : a.name = n at h
  cases h with
  | known mem source all =>
    obtain rfl := List.inj_on_of_nodup_map hnames ha mem hn
    simp [hsource] at source
  | host mem source unknown plain =>
    obtain rfl := List.inj_on_of_nodup_map hnames ha mem hn
    simp [hsource] at source
  | same mem source relation referent =>
    obtain rfl := List.inj_on_of_nodup_map hnames ha mem hn
    obtain rfl : c = _ := by simpa [hsource] using source
    exact ⟨ts, referent, .inl ⟨relation, rfl⟩⟩
  | like mem source relation referent images =>
    obtain rfl := List.inj_on_of_nodup_map hnames ha mem hn
    obtain rfl : c = _ := by simpa [hsource] using source
    exact ⟨_, referent, .inr ⟨relation, _, images, rfl⟩⟩

/-- Distinct names have one list of types each. -/
theorem unique (hnames : (args.map (·.name)).Nodup) (h : TypesIn registry args n ts)
    (h' : TypesIn registry args n ts') : ts = ts' := by
  induction h generalizing ts' with
  | known mem source all =>
    rcases h'.of_listed hnames mem source with ⟨-, rfl⟩ | ⟨t, rfl, hnone, -⟩
    · rfl
    · have hsome := all t List.mem_cons_self
      simp [hnone] at hsome
  | host mem source unknown plain =>
    rcases h'.of_listed hnames mem source with ⟨hall, -⟩ | ⟨t, ht, -, rfl⟩
    · have hsome := hall _ List.mem_cons_self
      simp [unknown] at hsome
    · obtain rfl : _ = t := by simpa using ht
      rfl
  | same mem source relation referent ih =>
    obtain ⟨us, hus, ⟨-, rfl⟩ | ⟨hne, -⟩⟩ := h'.of_derived hnames mem source
    · exact ih hus
    · exact absurd relation hne
  | like mem source relation referent images ih =>
    obtain ⟨us, hus, ⟨hsame, -⟩ | ⟨-, images', himages, rfl⟩⟩ := h'.of_derived hnames mem source
    · exact absurd hsame relation
    · rw [← ih hus, images] at himages
      cases himages
      rfl

end TypesIn

end

/-! ### Lists of tokens -/

theorem foldl_new_eq_eraseDups {α : Type} [BEq α] [LawfulBEq α] (seen ts : List α) :
    ts.foldl (fun seen t => if seen.contains t then seen else seen ++ [t]) seen =
      seen ++ (ts.filter fun t => !seen.contains t).eraseDups := by
  induction ts generalizing seen with
  | nil => simp
  | cons t ts ih =>
    rw [List.foldl_cons, ih]
    by_cases ht : seen.contains t = true
    · rw [if_pos ht, List.filter_cons_of_neg (by rw [ht]; decide)]
    · have hfilter : (ts.filter fun u => !(seen ++ [t]).contains u) =
          (ts.filter fun u => !seen.contains u).filter fun u => !u == t := by
        rw [List.filter_filter]
        refine List.filter_congr fun u _ => ?_
        rw [List.contains_append, List.contains_cons, List.contains_nil, Bool.or_false, Bool.not_or,
          Bool.and_comm]
      have hnew : (!seen.contains t) = true := by simpa using ht
      rw [if_neg ht, hfilter, List.filter_cons, if_pos hnew, List.eraseDups_cons, List.append_assoc,
        List.singleton_append]

namespace Resolution

variable {registry : Registry} {name t : String} {tokens l r : List String}

/-- What is kept are the first occurrences. -/
theorem distinct_eq_eraseDups (ts : List ConcreteType) : distinct ts = ts.eraseDups := by
  simpa [distinct] using foldl_new_eq_eraseDups [] ts

theorem exists_first {p : String → Bool} (h : ∃ t ∈ tokens, p t = true) :
    ∃ l t r, tokens = l ++ t :: r ∧ p t = true ∧ ∀ u ∈ l, p u = false := by
  obtain ⟨t, ht⟩ := Option.isSome_iff_exists.1 (List.find?_isSome.2 h)
  obtain ⟨hp, l, r, hsplit, hfirst⟩ := List.find?_eq_some_iff_append.1 ht
  exact ⟨l, t, r, hsplit, hp, fun u hu => by simpa using hfirst u hu⟩

/-- Tokens that are admitted are parted into the known types and the others. -/
theorem classify_of_admits (h : registry.Admits tokens) :
    classify registry tokens = .ok (tokens.filterMap registry.lookup,
      tokens.filter fun t => (registry.lookup t).isNone) := by
  induction tokens with
  | nil => rfl
  | cons token rest ih =>
    obtain ⟨htoken, hrest⟩ := List.forall_mem_cons.1 h
    rw [classify, ih hrest, List.filterMap_cons, List.filter_cons]
    cases hlookup : registry.lookup token with
    | some t => simp [Except.map]
    | none => simp [Except.map, htoken hlookup]

/-- The first token that is not admitted ends the classification. -/
theorem classify_of_unknownTag (hl : registry.Admits l) (hnone : registry.lookup t = none)
    (hshaped : Registry.isTagShaped t = true) : classify registry (l ++ t :: r) = .error t := by
  induction l with
  | nil => simp [classify, hnone, hshaped]
  | cons token rest ih =>
    obtain ⟨htoken, hrest⟩ := List.forall_mem_cons.1 hl
    rw [List.cons_append, classify, ih hrest]
    cases hlookup : registry.lookup token with
    | some t => simp [Except.map]
    | none => simp [Except.map, htoken hlookup]

/-! ### The types of a list of tokens -/

theorem ofTokens_of_known (hne : tokens ≠ []) (hall : ∀ t ∈ tokens, (registry.lookup t).isSome) :
    ofTokens registry name tokens = .ok (tokens.filterMap registry.lookup).eraseDups := by
  have hadmits : registry.Admits tokens := fun t ht hnone => by simpa [hnone] using hall t ht
  have hrest : (tokens.filter fun t => (registry.lookup t).isNone) = [] :=
    List.filter_eq_nil_iff.2 fun t ht => by simpa [Option.isSome_iff_ne_none] using hall t ht
  have hempty : tokens.isEmpty = false := by simpa using hne
  simp [ofTokens, hempty, classify_of_admits hadmits, hrest, distinct_eq_eraseDups]

theorem ofTokens_of_host (hnone : registry.lookup t = none)
    (hplain : Registry.isTagShaped t = false) :
    ofTokens registry name [t] = .ok [.ofHost t] := by
  simp [ofTokens, classify, hnone, hplain, Except.map]

theorem ofTokens_of_unknownTag (hl : registry.Admits l) (hnone : registry.lookup t = none)
    (hshaped : Registry.isTagShaped t = true) :
    ofTokens registry name (l ++ t :: r) = .error (.unknownTag name t) := by
  simp [ofTokens, classify_of_unknownTag hl hnone hshaped]

theorem ofTokens_of_mixedTypes (hl : ∀ u ∈ l, (registry.lookup u).isSome)
    (hnone : registry.lookup t = none) (hadmits : registry.Admits (l ++ t :: r))
    (hknown : ∃ u ∈ l ++ t :: r, (registry.lookup u).isSome) :
    ofTokens registry name (l ++ t :: r) = .error (.mixedTypes name t) := by
  have hrest : ((l ++ t :: r).filter fun t => (registry.lookup t).isNone) =
      t :: r.filter fun t => (registry.lookup t).isNone := by
    have hnil : (l.filter fun t => (registry.lookup t).isNone) = [] :=
      List.filter_eq_nil_iff.2 fun u hu => by simpa [Option.isSome_iff_ne_none] using hl u hu
    rw [List.filter_append, hnil, List.nil_append, List.filter_cons_of_pos (by simp [hnone])]
  obtain ⟨u, hu, hsome⟩ := hknown
  obtain ⟨type, htype⟩ := Option.isSome_iff_exists.1 hsome
  have hmem : type ∈ (l ++ t :: r).filterMap registry.lookup := List.mem_filterMap.2 ⟨u, hu, htype⟩
  obtain ⟨first, types, htypes⟩ := List.exists_cons_of_ne_nil (List.ne_nil_of_mem hmem)
  simp [ofTokens, classify_of_admits hadmits, hrest, htypes]

theorem ofTokens_of_severalHosts (hlen : 2 ≤ tokens.length)
    (hnone : ∀ t ∈ tokens, registry.lookup t = none) (hadmits : registry.Admits tokens) :
    ofTokens registry name tokens = .error (.severalHosts name tokens) := by
  have hknown : tokens.filterMap registry.lookup = [] := List.filterMap_eq_nil_iff.2 hnone
  have hrest : (tokens.filter fun t => (registry.lookup t).isNone) = tokens :=
    List.filter_eq_self.2 fun t ht => by simp [hnone t ht]
  match tokens with
  | first :: second :: more =>
    simp only [ofTokens, classify_of_admits hadmits, hknown, hrest]
    rfl

end Resolution

end Monomorph
