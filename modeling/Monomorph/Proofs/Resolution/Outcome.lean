import Monomorph.Proofs.Resolution.Meaning
import Monomorph.Proofs.Resolution.Tags
import Monomorph.Proofs.Scan.WellFormed

/-!
Which declarations resolve, what they resolve to, and which error the others have. One argument
resolves exactly if its declaration makes sense among those before it, to the types that the
declarations say; so resolution of all arguments ends at the first one that makes no sense.
-/

namespace Monomorph

/-- A resolved argument: its types are filled in, as the declarations say. -/
structure Argument.IsFilled (registry : Registry) (args : List Argument) (a a' : Argument) : Prop where
  filled : a' = { a with types := some a'.typeList }
  typed : TypeSet a'.typeList
  meant : TypesIn registry args a.name a'.typeList

theorem Argument.IsFilled.name_eq {registry : Registry} {args : List Argument} {a a' : Argument}
    (h : a.IsFilled registry args a') : a'.name = a.name := by
  have hname := congrArg Argument.name h.filled
  exact hname

/-- What an argument is resolved to, among the resolved arguments. -/
structure Argument.ResolvesTo (registry : Registry) (resolved : List Argument) (a a' : Argument) :
    Prop where
  filled : a' = { a with types := some a'.typeList }
  typed : TypeSet a'.typeList
  known : ∀ tokens, a.source = .listed tokens → (∀ t ∈ tokens, (registry.lookup t).isSome) →
    a'.typeList = (tokens.filterMap registry.lookup).eraseDups
  host : ∀ t, a.source = .listed [t] → registry.lookup t = none → a'.typeList = [.ofHost t]
  same : ∀ c, a.source = .derived c → c.relation = .same →
    ∃ r ∈ resolved, r.name = c.reference ∧ a'.typeList = r.typeList
  like : ∀ c, a.source = .derived c → c.relation ≠ .same →
    ∃ r ∈ resolved, r.name = c.reference ∧
      ∃ ts, r.typeList.mapM c.relation.project = .ok ts ∧ a'.typeList = ts.eraseDups

/-- Resolution of one argument ends as its declaration says, among some arguments of which some stand
before it: with its types, or with its error. -/
def Argument.EndsAs (registry : Registry) (args before : List Argument) (a : Argument) :
    Except ResolutionError (List ConcreteType) → Prop
  | .ok ts => a.IsResolvable registry args before ∧ TypesIn registry args a.name ts
  | .error e => ¬ a.IsResolvable registry args before ∧ a.Rejects registry args before e

namespace Resolution

variable {registry : Registry} {args before resolved rest : List Argument} {a : Argument}
  {tokens declared : List String} {t : String}

/-! ### Listed types -/

theorem typesOf_listed (hsource : a.source = .listed tokens) :
    typesOf registry resolved declared a = (ofTokens registry a.name tokens).mapError fun fault =>
      .declaration ⟨fault, a.location, Marker.argument.spelling⟩ := by
  rw [typesOf, hsource]
  dsimp only
  cases ofTokens registry a.name tokens with
  | ok ts => rfl
  | error fault => rfl

/-- A token that is not known is in the way of an argument, unless it is the only one and does not
look numeric. -/
theorem not_isResolvable_of_unknown (hsource : a.source = .listed tokens) (ht : t ∈ tokens)
    (hnone : registry.lookup t = none) (hone : ∀ u, tokens = [u] → Registry.isTagShaped t = true) :
    ¬ a.IsResolvable registry args before := by
  rw [Argument.isResolvable_listed hsource]
  rintro (hall | ⟨u, rfl, -, hplain⟩)
  · have hsome := hall t ht
    simp [hnone] at hsome
  · rw [← List.mem_singleton.1 ht, hone u rfl] at hplain
    cases hplain

/-- Admitted tokens that are not all known either are one host type, or are rejected. -/
theorem endsAs_of_unknown (ha : a ∈ args) (hsource : a.source = .listed tokens)
    (hadmits : registry.Admits tokens) (ht : t ∈ tokens) (hnone : registry.lookup t = none) :
    a.EndsAs registry args before (typesOf registry resolved declared a) := by
  rw [typesOf_listed hsource]
  by_cases hknown : ∃ u ∈ tokens, (registry.lookup u).isSome
  · obtain ⟨l, v, r, rfl, hv, hl⟩ := exists_first (p := fun t => (registry.lookup t).isNone)
      ⟨t, ht, by simp [hnone]⟩
    have hv : registry.lookup v = none := by simpa using hv
    have hl : ∀ u ∈ l, (registry.lookup u).isSome := fun u hu => by
      simpa [Option.isSome_iff_ne_none] using hl u hu
    rw [ofTokens_of_mixedTypes hl hv hadmits hknown]
    refine ⟨not_isResolvable_of_unknown hsource ht hnone fun u hu => ?_,
      .mixedTypes hsource hl hv hadmits hknown⟩
    -- the only token cannot be known as well
    obtain ⟨w, hw, hsome⟩ := hknown
    rw [hu, List.mem_singleton] at hw ht
    simp [hw, ← ht, hnone] at hsome
  · have hunknown : ∀ u ∈ tokens, registry.lookup u = none := fun u hu => by
      simpa using fun hsome => hknown ⟨u, hu, hsome⟩
    match tokens with
    | [u] =>
      have hu := hunknown u List.mem_cons_self
      have hplain := hadmits u List.mem_cons_self hu
      rw [ofTokens_of_host hu hplain]
      exact ⟨(Argument.isResolvable_listed hsource).2 (.inr ⟨u, rfl, hu, hplain⟩),
        .host ha hsource hu hplain⟩
    | u :: v :: more =>
      have hlen : 2 ≤ (u :: v :: more).length := by simp
      rw [ofTokens_of_severalHosts hlen hunknown hadmits]
      exact ⟨not_isResolvable_of_unknown hsource ht hnone (by simp),
        .severalHosts hsource hlen hunknown hadmits⟩

/-- A list of tokens either gives the types that it says, or is rejected. -/
theorem endsAs_listed (ha : a ∈ args) (hsource : a.source = .listed tokens) (hne : tokens ≠ []) :
    a.EndsAs registry args before (typesOf registry resolved declared a) := by
  by_cases hadmits : registry.Admits tokens
  · by_cases hall : ∀ t ∈ tokens, (registry.lookup t).isSome
    · rw [typesOf_listed hsource, ofTokens_of_known hne hall]
      exact ⟨(Argument.isResolvable_listed hsource).2 (.inl hall), .known ha hsource hall⟩
    · obtain ⟨t, ht, hnone⟩ : ∃ t ∈ tokens, registry.lookup t = none := by simpa using hall
      exact endsAs_of_unknown ha hsource hadmits ht hnone
  · obtain ⟨l, t, r, rfl, hrefused, hl⟩ := exists_first
      (p := fun t => (registry.lookup t).isNone && Registry.isTagShaped t)
      (by simpa [Registry.Admits] using hadmits)
    obtain ⟨hnone, hshaped⟩ : registry.lookup t = none ∧ Registry.isTagShaped t = true := by
      simpa using hrefused
    have hl : registry.Admits l := fun u hu hu' => by simpa [hu'] using hl u hu
    rw [typesOf_listed hsource, ofTokens_of_unknownTag hl hnone hshaped]
    exact ⟨not_isResolvable_of_unknown hsource (by simp) hnone fun _ _ => hshaped,
      .unknownTag hsource hl hnone hshaped⟩

/-! ### Derived types -/

theorem exists_mem_of_forall₂ {α β : Type} {R : α → β → Prop} {l : List α} {m : List β} {x : α}
    (h : List.Forall₂ R l m) (hx : x ∈ l) : ∃ y ∈ m, R x y := by
  induction h with
  | nil => cases hx
  | cons hhead _ ih =>
    rcases List.mem_cons.1 hx with rfl | hx
    · exact ⟨_, List.mem_cons_self, hhead⟩
    · obtain ⟨y, hy, hxy⟩ := ih hx
      exact ⟨y, List.mem_cons_of_mem _ hy, hxy⟩

/-- Resolved arguments have the names of those that they were resolved from. -/
theorem names_of_filled (h : List.Forall₂ (Argument.IsFilled registry args) before resolved) :
    resolved.map (·.name) = before.map (·.name) := by
  induction h with
  | nil => rfl
  | cons hfilled _ ih => rw [List.map_cons, List.map_cons, ih, hfilled.name_eq]

theorem meant_of_mem_filled (h : List.Forall₂ (Argument.IsFilled registry args) before resolved)
    {r : Argument} (hr : r ∈ resolved) :
    TypeSet r.typeList ∧ TypesIn registry args r.name r.typeList := by
  obtain ⟨b, -, hfilled⟩ := exists_mem_of_forall₂ h.flip hr
  exact ⟨hfilled.typed, hfilled.name_eq ▸ hfilled.meant⟩

theorem derive_of_ne_same {relation : Relation} {types images : List ConcreteType}
    (h : relation ≠ .same) (himages : types.mapM relation.project = .ok images) :
    derive relation types = .ok images.eraseDups := by
  unfold derive
  split
  · next hsame => exact absurd rfl h
  · rw [himages, ← distinct_eq_eraseDups]
    rfl

/-- A constraint on a resolved argument either gives the types that follow from it, or asks for the
storage of a host type. -/
theorem endsAs_of_referent (hnames : (args.map (·.name)).Nodup) (ha : a ∈ args) {c : Constraint}
    (hsource : a.source = .derived c) (hother : c.reference ≠ a.name) {r : Argument}
    (hfind : resolved.find? (·.name == c.reference) = some r)
    (hseen : c.reference ∈ before.map (·.name)) (htyped : TypeSet r.typeList)
    (hmeant : TypesIn registry args c.reference r.typeList) :
    a.EndsAs registry args before (ofConstraint resolved declared a c) := by
  rw [ofConstraint, if_neg (by simpa using hother), hfind]
  dsimp only
  by_cases hsame : c.relation = .same
  · rw [hsame, derive]
    exact ⟨(Argument.isResolvable_derived hsource).2 ⟨hseen, .inl hsame⟩,
      .same ha hsource hsame hmeant⟩
  rcases htyped.uniform with hnumeric | ⟨text, hhost⟩
  · have hpassed : r.isPassedThrough = false := by
      obtain ⟨t, ht⟩ := List.exists_mem_of_ne_nil _ htyped.nonempty
      rw [← Argument.isHost_of_isPassedThrough htyped ht, hnumeric t ht]
    have himages : r.typeList.mapM c.relation.project = .ok (r.typeList.map c.relation.image) :=
      Emission.mapM_eq_ok fun t ht => Relation.project_eq_image (.inr (hnumeric t ht))
    rw [hpassed, Bool.and_false, if_neg Bool.false_ne_true, derive_of_ne_same hsame himages]
    exact ⟨(Argument.isResolvable_derived hsource).2 ⟨hseen, .inr ⟨_, hmeant, hnumeric⟩⟩,
      .like ha hsource hsame hmeant himages⟩
  · rw [hhost] at hmeant
    have hpassed : (c.relation != .same && r.isPassedThrough) = true := by
      simp [hsame, Argument.isPassedThrough, hhost, ConcreteType.isHost]
    rw [if_pos hpassed, hhost]
    refine ⟨fun hres => ?_, .notNumeric hsource hseen hsame hmeant rfl⟩
    rcases ((Argument.isResolvable_derived hsource).1 hres).2 with h | ⟨ts, hts, hnumeric⟩
    · exact hsame h
    · have hnot := hnumeric (.host text) (hts.unique hnames hmeant ▸ List.mem_cons_self)
      simp [ConcreteType.isHost] at hnot

/-- A constraint either gives the types that the declarations say, or is rejected. -/
theorem endsAs_derived (hnames : (args.map (·.name)).Nodup) (ha : a ∈ args)
    (hfresh : a.name ∉ before.map (·.name))
    (h : List.Forall₂ (Argument.IsFilled registry args) before resolved) {c : Constraint}
    (hsource : a.source = .derived c) :
    a.EndsAs registry args before (ofConstraint resolved (args.map (·.name)) a c) := by
  have hunseen : c.reference ∉ before.map (·.name) → ¬ a.IsResolvable registry args before :=
    fun hnot hres => hnot ((Argument.isResolvable_derived hsource).1 hres).1
  by_cases hown : c.reference = a.name
  · rw [ofConstraint, if_pos (by simpa using hown)]
    exact ⟨hunseen (hown ▸ hfresh), .itself hsource hown⟩
  cases hfind : resolved.find? (·.name == c.reference) with
  | none =>
    have hnot : c.reference ∉ before.map (·.name) := by
      rw [← names_of_filled h]
      simpa using hfind
    rw [ofConstraint, if_neg (by simpa using hown), hfind]
    dsimp only
    by_cases hdeclared : c.reference ∈ args.map (·.name)
    · rw [if_pos (by simpa using hdeclared)]
      exact ⟨hunseen hnot, .declaredLater hsource hown hnot hdeclared⟩
    · rw [if_neg (by simpa using hdeclared)]
      exact ⟨hunseen hnot, .unknown hsource hown hdeclared⟩
  | some r =>
    have hr := List.mem_of_find?_eq_some hfind
    have hname : r.name = c.reference := by simpa using List.find?_some hfind
    obtain ⟨htyped, hmeant⟩ := meant_of_mem_filled h hr
    have hseen : c.reference ∈ before.map (·.name) := by
      rw [← names_of_filled h, ← hname]
      exact List.mem_map_of_mem hr
    exact endsAs_of_referent hnames ha hsource hown hfind hseen htyped (hname ▸ hmeant)

/-! ### One argument after the other -/

/-- One argument resolves as its declaration says, after those before it have. -/
theorem endsAs_typesOf (hnames : (args.map (·.name)).Nodup)
    (hlisted : ∀ a ∈ args, a.source ≠ .listed []) (hargs : args = before ++ a :: rest)
    (h : List.Forall₂ (Argument.IsFilled registry args) before resolved) :
    a.EndsAs registry args before (typesOf registry resolved (args.map (·.name)) a) := by
  have ha : a ∈ args := by simp [hargs]
  cases hsource : a.source with
  | derived c =>
    have hfresh : a.name ∉ before.map (·.name) := by
      rw [hargs, List.map_append, List.map_cons, List.nodup_append] at hnames
      exact fun hmem => hnames.2.2 _ hmem _ List.mem_cons_self rfl
    rw [typesOf, hsource]
    exact endsAs_derived hnames ha hfresh h hsource
  | listed tokens =>
    have hne : tokens ≠ [] := fun hnil => hlisted a ha (hnil ▸ hsource)
    exact endsAs_listed ha hsource hne

/-- Can each of the next arguments be resolved, among those before it? -/
def AllResolvable (registry : Registry) (args before rest : List Argument) : Prop :=
  ∀ l a r, rest = l ++ a :: r → a.IsResolvable registry args (before ++ l)

theorem allResolvable_nil : AllResolvable registry args before [] :=
  fun _ _ _ h => absurd h (by simp)

theorem allResolvable_cons : AllResolvable registry args before (a :: rest) ↔
    a.IsResolvable registry args before ∧ AllResolvable registry args (before ++ [a]) rest := by
  constructor
  · intro h
    refine ⟨by simpa using h [] a rest rfl, fun l b r hrest => ?_⟩
    simpa using h (a :: l) b r (by rw [hrest, List.cons_append])
  · rintro ⟨ha, hrest⟩ l b r hsplit
    cases l with
    | nil =>
      cases hsplit
      simpa using ha
    | cons x l =>
      obtain ⟨rfl, rfl⟩ := List.cons.inj hsplit
      simpa using hrest l b r rfl

/-- Either every one of the next arguments resolves, or resolution ends at the first that cannot. -/
theorem arguments_outcome (hnames : (args.map (·.name)).Nodup)
    (hlisted : ∀ a ∈ args, a.source ≠ .listed []) (hreg : registry.IsNumeric)
    (hargs : args = before ++ rest)
    (h : List.Forall₂ (Argument.IsFilled registry args) before resolved) :
    (∃ out, arguments registry (args.map (·.name)) resolved rest = .ok out ∧
      AllResolvable registry args before rest ∧
      List.Forall₂ (Argument.IsFilled registry args) args out) ∨
    ∃ e l a r, arguments registry (args.map (·.name)) resolved rest = .error e ∧
      rest = l ++ a :: r ∧ AllResolvable registry args before l ∧
      ¬ a.IsResolvable registry args (before ++ l) ∧ a.Rejects registry args (before ++ l) e := by
  induction rest generalizing before resolved with
  | nil => exact .inl ⟨resolved, rfl, allResolvable_nil, by simpa [hargs] using h⟩
  | cons a rest ih =>
    have hends := endsAs_typesOf hnames hlisted hargs h
    cases htypes : typesOf registry resolved (args.map (·.name)) a with
    | error e =>
      rw [htypes] at hends
      refine .inr ⟨e, [], a, rest, by rw [arguments, htypes], rfl, allResolvable_nil, ?_, ?_⟩
      · simpa using hends.1
      · simpa using hends.2
    | ok ts =>
      rw [htypes] at hends
      have hsets : ∀ r ∈ resolved, TypeSet r.typeList := fun r hr => (meant_of_mem_filled h hr).1
      have htyped := (typeSet_of_typesOf hreg hsets htypes).1
      have hfilled : a.IsFilled registry args { a with types := some ts } := ⟨rfl, htyped, hends.2⟩
      have hsplit : args = (before ++ [a]) ++ rest := by simp [hargs]
      have hnext := ih hsplit (List.rel_append h (.cons hfilled .nil))
      rw [arguments, htypes]
      rcases hnext with ⟨out, hout, hall, hforall⟩ | ⟨e, l, b, r, he, hsplit, hall, hbad, hrej⟩
      · exact .inl ⟨out, hout, allResolvable_cons.2 ⟨hends.1, hall⟩, hforall⟩
      · exact .inr ⟨e, a :: l, b, r, he, by rw [hsplit, List.cons_append],
          allResolvable_cons.2 ⟨hends.1, hall⟩, by simpa using hbad, by simpa using hrej⟩

/-! ### The resolved arguments -/

/-- The types that the declarations give a name are those of the resolved argument with it. -/
theorem exists_mem_of_meant (hnames : (args.map (·.name)).Nodup)
    (h : List.Forall₂ (Argument.IsFilled registry args) args resolved) {n : String}
    {ts : List ConcreteType} (hmeant : TypesIn registry args n ts) :
    ∃ r ∈ resolved, r.name = n ∧ r.typeList = ts := by
  obtain ⟨a, ha, rfl⟩ := hmeant.exists_mem
  obtain ⟨r, hr, hfilled⟩ := exists_mem_of_forall₂ h ha
  exact ⟨r, hr, hfilled.name_eq, hfilled.meant.unique hnames hmeant⟩

theorem resolvesTo_of_filled (hnames : (args.map (·.name)).Nodup)
    (h : List.Forall₂ (Argument.IsFilled registry args) args resolved) {a' : Argument} (ha : a ∈ args)
    (hfilled : a.IsFilled registry args a') : a.ResolvesTo registry resolved a' where
  filled := hfilled.filled
  typed := hfilled.typed
  known := by
    intro tokens hsource hall
    rcases hfilled.meant.of_listed hnames ha hsource with ⟨-, htypes⟩ | ⟨t, rfl, hnone, -⟩
    · exact htypes
    · have hsome := hall t List.mem_cons_self
      simp [hnone] at hsome
  host := by
    intro t hsource hnone
    rcases hfilled.meant.of_listed hnames ha hsource with ⟨hall, -⟩ | ⟨u, hu, -, htypes⟩
    · have hsome := hall t List.mem_cons_self
      simp [hnone] at hsome
    · obtain rfl : t = u := by simpa using hu
      exact htypes
  same := by
    intro c hsource hsame
    obtain ⟨us, hus, ⟨-, htypes⟩ | ⟨hne, -⟩⟩ := hfilled.meant.of_derived hnames ha hsource
    · obtain ⟨r, hr, hname, hlist⟩ := exists_mem_of_meant hnames h hus
      exact ⟨r, hr, hname, htypes.trans hlist.symm⟩
    · exact absurd hsame hne
  like := by
    intro c hsource hne
    obtain ⟨us, hus, ⟨hsame, -⟩ | ⟨-, ts, himages, htypes⟩⟩ :=
      hfilled.meant.of_derived hnames ha hsource
    · exact absurd hsame hne
    · obtain ⟨r, hr, hname, hlist⟩ := exists_mem_of_meant hnames h hus
      exact ⟨r, hr, hname, ts, hlist ▸ himages, htypes⟩

end Resolution

/-- A scanned declaration resolves exactly if every argument makes sense among those before it. Then
each argument gets the types it lists, or those that follow from its referent, and they are a type
set. Otherwise the error is that of the first argument that makes no sense. -/
theorem resolve_outcome {registry : Registry} (hreg : registry.IsNumeric) {text : String}
    {path : Option Path} {s : Scanned} (hscan : scan text path = .ok s) :
    ((∃ d, s.declaration.resolve registry = .ok d) ↔
      ∀ before a after, s.declaration.arguments = before ++ a :: after →
        a.IsResolvable registry s.declaration.arguments before) ∧
    (∀ d, s.declaration.resolve registry = .ok d →
      d = { s.declaration with arguments := d.arguments } ∧
      List.Forall₂ (Argument.ResolvesTo registry d.arguments)
        s.declaration.arguments d.arguments) ∧
    ∀ e, s.declaration.resolve registry = .error e →
      ∃ before a after, s.declaration.arguments = before ++ a :: after ∧
        (∀ l b r, before = l ++ b :: r → b.IsResolvable registry s.declaration.arguments l) ∧
        ¬ a.IsResolvable registry s.declaration.arguments before ∧
        a.Rejects registry s.declaration.arguments before e := by
  have hsound := Scan.wellFormed_of_scan hscan
  generalize s.declaration = declaration at hsound ⊢
  have hnames : (declaration.arguments.map (·.name)).Nodup := hsound.distinct
  have hlisted : ∀ a ∈ declaration.arguments, a.source ≠ .listed [] := fun a ha hsource => by
    have htypes := (hsound.arguments a ha).types
    simp [Argument.tokens, Argument.constraint?, hsource] at htypes
  have hsplit : declaration.arguments = [] ++ declaration.arguments := rfl
  have houtcome := Resolution.arguments_outcome hnames hlisted hreg hsplit .nil
  rw [Declaration.resolve, Declaration.names]
  rcases houtcome with ⟨out, hout, hall, hfilled⟩ | ⟨e, l, a, r, he, hsplit, hall, hbad, hrej⟩
  · rw [hout]
    refine ⟨⟨fun _ => hall, fun _ => ⟨_, rfl⟩⟩, fun d hd => ?_, fun e he => ?_⟩
    · cases hd
      have hboth := (List.forall₂_and_left _ _).2 ⟨fun a ha => ha, hfilled⟩
      exact ⟨rfl, hboth.imp fun a a' h => Resolution.resolvesTo_of_filled hnames hfilled h.1 h.2⟩
    · cases he
  · rw [he]
    refine ⟨⟨fun h => ?_, fun h => absurd (h l a r hsplit) hbad⟩, fun d hd => ?_, fun e' he' => ?_⟩
    · obtain ⟨d, hd⟩ := h
      cases hd
    · cases hd
    · cases he'
      exact ⟨l, a, r, hsplit, hall, hbad, hrej⟩

/-- A token of the project's own, types that repeat, and types that are dense after all. -/
theorem resolve_outcome_extended :
    (Registry.extended [("real", .dense .float64)]).IsNumeric ∧
    ∃ text s d, scan text = .ok s ∧
      s.declaration.resolve (Registry.extended [("real", .dense .float64)]) = .ok d ∧
      d.arguments.map (fun a => (a.name, a.typeList)) =
        [("x", [.dense .float64, .sparse .float64 .csr]), ("y", [.dense .float64]),
          ("n", [.host "void *"])] ∧
      List.Forall₂ (Argument.ResolvesTo (Registry.extended [("real", .dense .float64)]) d.arguments)
        s.declaration.arguments d.arguments := by
  have hreg : (Registry.extended [("real", .dense .float64)]).IsNumeric :=
    Registry.extended_isNumeric (by simp [ConcreteType.isHost])
  obtain ⟨text, htext⟩ : ∃ text, text = "npe_function(f)npe_arg(x, real, csr_f64, dense_double)" ++
      "npe_arg(y, dense_like(x))npe_arg(n, void *)npe_begin_code()npe_end_code()" := ⟨_, rfl⟩
  obtain ⟨s, d, hscan, hres, hvalue⟩ := exists_scan_resolve_in
    (Registry.extended [("real", .dense .float64)]) text
    (fun d => d.arguments.map fun a => (a.name, a.typeList))
    [("x", [.dense .float64, .sparse .float64 .csr]), ("y", [.dense .float64]),
      ("n", [.host "void *"])]
    (by rw [htext]; decide +kernel)
  exact ⟨hreg, text, s, d, hscan, hres, hvalue, ((resolve_outcome hreg hscan).2.1 d hres).2⟩

end Monomorph
