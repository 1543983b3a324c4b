import Monomorph.Build
import Monomorph.Dispatcher
import Monomorph.Proofs.DispatchTable.Manifest
import Monomorph.Proofs.Literal.Notation

/-!
Defaults at run time and in the registration. A dispatcher fills a parameter that a call leaves free with
the value of its default expression, and the registration hands the same expression to the host. A text
that is written as an ordinary literal is the same text to both, unless the interpreter cannot read it;
a text that is written as a raw literal is never the same.
-/

namespace Monomorph

namespace Label

/-- Texts name the same if they are equal. -/
theorem IsText.same_iff {k l : Label} (hk : k.IsText) (hl : l.IsText) : k.same l = true ↔ k = l := by
  obtain ⟨s, rfl⟩ := hk
  obtain ⟨t, rfl⟩ := hl
  simp [same]

/-- What stands in a record stood there before or was put into it. -/
theorem mem_put {α : Type} {key : Label} {value : α} {r : List (Label × α)} {e : Label × α}
    (hkey : key.IsText) (hr : ∀ e ∈ r, e.1.IsText) (h : e ∈ put key value r) :
    e ∈ r ∨ e = (key, value) := by
  induction r with
  | nil => exact .inr (List.mem_singleton.1 h)
  | cons first rest ih =>
    obtain ⟨hfirst, hrest⟩ := List.forall_mem_cons.1 hr
    obtain ⟨k, v⟩ := first
    rw [put] at h
    split at h
    · next hsame =>
      obtain rfl : k = key := (hfirst.same_iff hkey).1 hsame
      rcases List.mem_cons.1 h with rfl | h
      · exact .inr rfl
      · exact .inl (List.mem_cons_of_mem _ h)
    · rcases List.mem_cons.1 h with rfl | h
      · exact .inl List.mem_cons_self
      · exact (ih hrest h).imp_left (List.mem_cons_of_mem _)

theorem mem_recordOf {α : Type} {pairs : List (Label × α)} {e : Label × α}
    (hpairs : ∀ p ∈ pairs, p.1.IsText) (h : e ∈ recordOf pairs) : e ∈ pairs := by
  induction pairs using List.reverseRecOn generalizing e with
  | nil => cases h
  | append_singleton pairs p ih =>
    obtain ⟨hpairs, hp⟩ := List.forall_mem_append.1 hpairs
    have hrecord : recordOf (pairs ++ [p]) = put p.1 p.2 (recordOf pairs) := by
      rw [recordOf, List.foldl_append]
      rfl
    rw [hrecord] at h
    rcases mem_put (hp p List.mem_cons_self) (fun e he => hpairs e (ih hpairs he)) h with h | rfl
    · exact List.mem_append_left _ (ih hpairs h)
    · exact List.mem_append_right _ List.mem_cons_self

theorem mem_of_lookup? {α : Type} {key : Label} {entries : List (Label × α)} {value : α}
    (hkey : key.IsText) (hentries : ∀ e ∈ entries, e.1.IsText)
    (h : key.lookup? entries = some value) : (key, value) ∈ entries := by
  obtain ⟨⟨k, v⟩, hfind, rfl⟩ := Option.map_eq_some_iff.1 h
  have hmem := List.mem_of_find?_eq_some hfind
  have hsame := List.find?_some hfind
  obtain rfl : k = key := ((hentries _ hmem).same_iff hkey).1 hsame
  exact hmem

end Label

namespace Dispatcher

variable {t : DispatchTable} {d : Dispatcher} {arguments values : List Value}
  {keywords : List (String × Value)} {i : Nat}

/-! ### Defaults of a dispatcher -/

/-- The default of a parameter has a value under the name of the parameter. -/
def IsUsable (p : Label × Option Label) (v : Value) : Prop :=
  ∃ e l, p.2 = some (.text e) ∧ Literal.ofDefault e = .ok (some l) ∧ v = .literal l

/-- The defaults that are kept are the values of default expressions. -/
theorem mem_of_literalDefaults {pairs : List (Label × Option Label)} {own : List (Label × Value)}
    (h : literalDefaults pairs = .ok own) {e : Label × Value} (he : e ∈ own) :
    ∃ p ∈ pairs, p.1 = e.1 ∧ IsUsable p e.2 := by
  have hlater : ∀ {p : Label × Option Label} {rest : List (Label × Option Label)},
      (∃ q ∈ rest, q.1 = e.1 ∧ IsUsable q e.2) → ∃ q ∈ p :: rest, q.1 = e.1 ∧ IsUsable q e.2 :=
    fun ⟨q, hq, hrest⟩ => ⟨q, List.mem_cons_of_mem _ hq, hrest⟩
  fun_induction literalDefaults pairs generalizing own with
  | case1 =>
    cases h
    cases he
  | case2 name rest ih => exact hlater (ih h he)
  | case3 name points rest ih => exact hlater (ih h he)
  | case4 => cases h
  | case5 => cases h
  | case6 name expression rest hvalue ih => exact hlater (ih h he)
  | case7 name expression rest l hvalue hkey ih =>
    cases hown : literalDefaults rest with
    | error fault => simp [hown, Except.map] at h
    | ok others =>
      simp only [hown, Except.map, Except.ok.injEq] at h
      subst h
      rcases List.mem_cons.1 he with rfl | he
      · exact ⟨_, List.mem_cons_self, rfl, expression, l, rfl, hvalue, rfl⟩
      · exact hlater (ih hown he)
  | case8 => cases h

theorem table_of_register {identifier : Label} {implementation : Implementation} {d' : Dispatcher}
    (h : d.register identifier implementation = .ok d') : d'.table = d.table := by
  unfold register at h
  split at h
  · cases h
    rfl
  · cases h

/-- A dispatcher keeps its table, and has the usable defaults of it and those that it is given. -/
theorem of_make {implementations : List (Label × Implementation)} {given : List (String × Value)}
    (h : make t implementations given = .ok d) :
    d.table = t ∧ ∃ own, literalDefaults (t.names.zip t.paddedDefaults) = .ok own ∧
      d.defaults = Label.recordOf (own ++ given.map fun v => (Label.text v.1, v.2)) := by
  have htable : ∀ (registered : List (Label × Implementation)) (d₀ d₁ : Dispatcher),
      registered.foldlM (fun d i => d.register i.1 i.2) d₀ = .ok d₁ → d₁.table = d₀.table := by
    intro registered
    induction registered with
    | nil =>
      intro d₀ d₁ h
      cases h
      rfl
    | cons first rest ih =>
      intro d₀ d₁ h
      obtain ⟨d₂, hfirst, hrest⟩ := DispatchTable.bind_eq_ok_iff.1 h
      rw [ih d₂ d₁ hrest, table_of_register hfirst]
  obtain ⟨d₁, hregister, h⟩ := DispatchTable.bind_eq_ok_iff.1 h
  obtain ⟨own, hown, h⟩ := DispatchTable.bind_eq_ok_iff.1 h
  cases h
  exact ⟨htable _ _ _ hregister, own, hown, rfl⟩

/-! ### Parameters that are left free -/

/-- Keywords leave alone the places of the parameters that they do not name. -/
theorem getElem?_of_bindKeywords {function n : String} {names : List Label}
    {places later : List (Option Value)} (h : bindKeywords function names places keywords = .ok later)
    (hn : names[i]? = some (.text n)) (hkeywords : n ∉ keywords.map (·.1)) :
    later[i]? = places[i]? := by
  induction keywords generalizing places with
  | nil =>
    cases h
    rfl
  | cons keyword rest ih =>
    obtain ⟨name, v⟩ := keyword
    rw [List.map_cons, List.mem_cons, not_or] at hkeywords
    rw [bindKeywords] at h
    split at h
    · cases h
    · next k hk =>
      split at h
      · have hne : k ≠ i := by
          rintro rfl
          obtain ⟨hlt, hname, -⟩ := List.idxOf?_eq_some_iff.1 hk
          rw [List.getElem?_eq_getElem hlt, hname] at hn
          exact hkeywords.1 (Label.text.inj (Option.some.inj hn)).symm
        rw [ih h hkeywords.2, List.getElem?_set_ne hne]
      · cases h

/-- A place that is free is filled with a default of that name. -/
theorem getElem?_of_fillDefaults {function : String} {defaults : List (Label × Value)}
    {pairs : List (Label × Option Value)} {name : Label}
    (h : fillDefaults function defaults pairs = .ok values) (hi : pairs[i]? = some (name, none)) :
    ∃ v, name.lookup? defaults = some v ∧ values[i]? = some v := by
  induction pairs generalizing values i with
  | nil => cases hi
  | cons pair rest ih =>
    have hbehind : ∀ {w : Value},
        (fillDefaults function defaults rest).map (w :: ·) = .ok values →
        ∃ others, values = w :: others ∧ fillDefaults function defaults rest = .ok others := by
      intro w h
      cases hrest : fillDefaults function defaults rest with
      | error fault => simp [hrest, Except.map] at h
      | ok others =>
        simp only [hrest, Except.map, Except.ok.injEq] at h
        exact ⟨others, h.symm, rfl⟩
    obtain ⟨first, _ | w⟩ := pair
    · rw [fillDefaults] at h
      split at h
      · cases h
      · split at h
        · cases h
        · next w hw =>
          obtain ⟨others, rfl, hrest⟩ := hbehind h
          cases i with
          | zero =>
            cases hi
            exact ⟨w, hw, rfl⟩
          | succ i =>
            rw [List.getElem?_cons_succ] at hi ⊢
            exact ih hrest hi
    · rw [fillDefaults] at h
      obtain ⟨others, rfl, hrest⟩ := hbehind h
      cases i with
      | zero => cases hi
      | succ i =>
        rw [List.getElem?_cons_succ] at hi ⊢
        exact ih hrest hi

/-- A parameter that a call leaves free is bound to the value of its default expression. -/
theorem exists_default_of_bind {implementations : List (Label × Implementation)}
    (hnames : ∀ l ∈ t.names, l.IsText) (hnodup : t.names.Nodup) (hmake : make t implementations = .ok d)
    (hbind : d.bind arguments keywords = .ok values) {n : String} (hn : t.names[i]? = some (.text n))
    (hfree : arguments.length ≤ i) (hkeywords : n ∉ keywords.map (·.1)) :
    ∃ e l, t.paddedDefaults[i]? = some (some (.text e)) ∧ Literal.ofDefault e = .ok (some l) ∧
      values[i]? = some (.literal l) := by
  obtain ⟨htable, own, hown, hdefaults⟩ := of_make hmake
  obtain ⟨hi, -⟩ := List.getElem?_eq_some_iff.1 hn
  obtain ⟨places, hplaces, hfill⟩ : ∃ places,
      bindKeywords t.function.shown t.names
        (arguments.map some ++ List.replicate (t.names.length - arguments.length) none) keywords =
          .ok places ∧
      fillDefaults t.function.shown d.defaults (t.names.zip places) = .ok values := by
    rw [bind, htable] at hbind
    dsimp only at hbind
    split at hbind
    · cases hbind
    · split at hbind
      · cases hbind
      · exact DispatchTable.bind_eq_ok_iff.1 hbind
  have hplace : places[i]? = some none := by
    rw [getElem?_of_bindKeywords hplaces hn hkeywords,
      List.getElem?_append_right (by rwa [List.length_map]), List.length_map, List.getElem?_replicate,
      if_pos (by omega)]
  have hpair : (t.names.zip places)[i]? = some (.text n, none) :=
    List.getElem?_zip_eq_some.2 ⟨hn, hplace⟩
  obtain ⟨v, hlookup, hv⟩ := getElem?_of_fillDefaults hfill hpair
  have htexts : ∀ e ∈ own, e.1.IsText := fun e he => by
    obtain ⟨p, hp, hsame, -⟩ := mem_of_literalDefaults hown he
    exact hsame ▸ hnames p.1 (List.of_mem_zip hp).1
  rw [hdefaults, List.map_nil, List.append_nil] at hlookup
  have hmem := Label.mem_recordOf htexts (Label.mem_of_lookup? ⟨n, rfl⟩
    (fun e he => htexts e (Label.mem_recordOf htexts he)) hlookup)
  obtain ⟨p, hp, hsame, e, l, hdefault, hl, hvalue⟩ := mem_of_literalDefaults hown hmem
  -- the names are distinct, so the default is the one at the same place
  obtain ⟨j, hj, rfl⟩ := List.getElem_of_mem hp
  obtain ⟨hj, hj'⟩ : j < t.names.length ∧ j < t.paddedDefaults.length := by simpa using hj
  rw [List.getElem_zip] at hsame hdefault
  dsimp only at hsame hdefault hvalue
  obtain rfl : j = i := by
    rw [← List.getElem?_inj hj hnodup, hn, List.getElem?_eq_getElem hj, hsame]
  exact ⟨e, l, by rw [List.getElem?_eq_getElem hj', hdefault], hl, by rw [hv, hvalue]⟩

end Dispatcher

/-! ### Texts as defaults -/

theorem Build.of_expanded {c : Config} {d : Declaration} {f : ExpandedFunction}
    (h : Build.expanded c d = .ok f) :
    d.resolve = .ok f.declaration ∧ f.declaration.expand c.limit = .ok f.table := by
  obtain ⟨d', hresolve, h⟩ := DispatchTable.bind_eq_ok_iff.1 h
  obtain ⟨t, hexpand, h⟩ := DispatchTable.bind_eq_ok_iff.1 h
  cases h
  have hok : ∀ {ε α : Type} {x : Except ε α} {g : ε → BuildError} {a : α},
      x.mapError g = .ok a → x = .ok a := by
    intro ε α x g a hx
    cases x <;> cases hx
    rfl
  exact ⟨hok hresolve, hok hexpand⟩

namespace Dispatcher

open StringLiteral Emission

variable {f : ExpandedFunction} {c : Config} {text : String} {path : Option Path} {s : Scanned}

/-- A parameter of a generated function that a call leaves free is bound to the value of the default
expression that the registration gives for it. -/
theorem default_of_expanded (hscan : scan text path = .ok s)
    (hexpanded : Build.expanded c s.declaration = .ok f) {i : Nat} {a : Argument} {e : String}
    (ha : f.declaration.arguments[i]? = some a) (he : a.default = some e) :
    (Registration.of f).arguments[i]? = some (a.name, some e) ∧
      ∀ implementations d arguments keywords values, make f.table implementations = .ok d →
        d.bind arguments keywords = .ok values → arguments.length ≤ i →
        a.name ∉ keywords.map (·.1) →
          ∃ l, Literal.ofDefault e = .ok (some l) ∧ values[i]? = some (.literal l) := by
  obtain ⟨hresolve, hexpand⟩ := Build.of_expanded hexpanded
  have hset := settled_of_scan_resolve Registry.standard_isNumeric hscan hresolve
  obtain ⟨-, htable⟩ := (Expansion.expand_eq_ok_iff hset).1 hexpand
  refine ⟨by simp [Registration.of, ha, he], ?_⟩
  intro implementations d arguments keywords values hmake hbind hfree hkeywords
  rw [htable] at hmake
  have hpadded : (Expansion.table f.declaration).paddedDefaults =
      (Expansion.table f.declaration).defaults :=
    DispatchTable.paddedDefaults_eq (by simp [Expansion.table, Declaration.names])
  have hnames : ∀ l ∈ (Expansion.table f.declaration).names, l.IsText :=
    List.forall_mem_map.2 fun n _ => ⟨n, rfl⟩
  have hnodup : (Expansion.table f.declaration).names.Nodup :=
    hset.names_nodup.map fun _ _ => Label.text.inj
  obtain ⟨e', l, he', hl, hvalue⟩ := exists_default_of_bind hnames hnodup hmake hbind
    (n := a.name) (by simp [Expansion.table, Declaration.names, ha]) hfree hkeywords
  rw [hpadded] at he'
  obtain rfl : e = e' := by simpa [Expansion.table, ha, he] using he'
  exact ⟨l, hl, hvalue⟩

/-- Texts as defaults. The interpreter reads an ordinary literal as its text, or not at all if the text
has a carriage return or a NUL in it; then the argument has to be passed. It never reads a raw literal as
its text: if the text is plain, the parentheses and delimiters become part of it. To the host both stand
for the text. The registration of a function hands the literal to the host as it stands, and a dispatcher
of the same function fills the parameter, if a call leaves it free and is bound at all, with the text
exactly if the literal is an ordinary one. -/
theorem defaults_of_literals (t : String) :
    (Literal.ofDefault (quoted t) =
        .ok (if '\r' ∈ t.toList ∨ '\x00' ∈ t.toList then none else some (.text t)) ∧
      Literal.ofDefault (raw t) ≠ .ok (some (.text t)) ∧
      ('"' ∉ t.toList → '\n' ∉ t.toList → '\r' ∉ t.toList → '\x00' ∉ t.toList →
        Literal.ofDefault (raw t) = .ok (some (.text ("npe_doc(" ++ t ++ ")npe_doc"))))) ∧
    (∀ style : Style, t.length < 10 ^ 9 → decode? (Lexer.tokens (style.encode t).toList) = some t) ∧
    ∀ text path s c f, scan text path = .ok s → Build.expanded c s.declaration = .ok f →
      ∀ (i : Nat) (a : Argument) (style : Style),
        f.declaration.arguments[i]? = some a → a.default = some (style.encode t) →
          (Registration.of f).arguments[i]? = some (a.name, some (style.encode t)) ∧
          ∀ implementations d arguments keywords values, make f.table implementations = .ok d →
            d.bind arguments keywords = .ok values → arguments.length ≤ i →
            a.name ∉ keywords.map (·.1) →
              (values[i]? = some (.literal (.text t)) ↔ style = .quoted) := by
  refine ⟨⟨Literal.ofDefault_quoted t, Literal.ofDefault_raw_ne t, Literal.ofDefault_raw_of_line⟩,
    fun style hshort => ?_, ?_⟩
  · have hone : ∀ p ∈ [(style, t)], p.2.length < 10 ^ 9 := by simpa using hshort
    have hdecode := decode?_of_content (content_tokens_join hone)
    simpa [String.join, Text.join, Text.joinWith] using hdecode
  · intro text path s c f hscan hexpanded i a style ha hdefault
    obtain ⟨hregistered, hbound⟩ := default_of_expanded hscan hexpanded ha hdefault
    refine ⟨hregistered, ?_⟩
    intro implementations d arguments keywords values hmake hbind hfree hkeywords
    obtain ⟨l, hl, hvalue⟩ := hbound _ _ _ _ _ hmake hbind hfree hkeywords
    rw [hvalue, Option.some.injEq, Value.literal.injEq]
    cases style with
    | quoted =>
      have hread := Literal.ofDefault_quoted t
      rw [Style.encode] at hl
      rw [hl] at hread
      refine iff_of_true ?_ rfl
      split at hread
      · cases hread
      · exact Option.some.inj (Except.ok.inj hread)
    | raw =>
      refine iff_of_false (fun heq => ?_) (by decide)
      rw [heq] at hl
      exact Literal.ofDefault_raw_ne t hl

/-- One text in both notations, and a call that leaves both parameters free. -/
theorem defaults_of_literals_both :
    ∃ text s c f d values, scan text = .ok s ∧ Build.expanded c s.declaration = .ok f ∧
      f.declaration.arguments.map (·.default) =
        [none, some (quoted "a b"), some (raw "a b")] ∧
      make f.table = .ok d ∧ d.bind [.literal .nothing] [] = .ok values ∧
      values[1]? = some (.literal (.text "a b")) ∧ values[2]? ≠ some (.literal (.text "a b")) := by
  obtain ⟨text, htext⟩ : ∃ text, text = "npe_function(f) npe_arg(x, dense_f64) " ++
      "npe_default_arg(s, std::string, \"a b\") " ++
      "npe_default_arg(r, std::string, R\"npe_doc(a b)npe_doc\") npe_begin_code()" := ⟨_, rfl⟩
  obtain ⟨c, hc⟩ : ∃ c : Config, c = { projectRoot := ⟨.relative, []⟩ } := ⟨_, rfl⟩
  have hruns : ((scan text).toOption.bind fun s => (Build.expanded c s.declaration).toOption.bind
      fun f => (make f.table).toOption.bind fun d => (d.bind [.literal .nothing] []).toOption.map
        fun _ => f.declaration.arguments.map fun a => (a.name, a.default)) =
      some [("x", none), ("s", some (quoted "a b")), ("r", some (raw "a b"))] := by
    rw [htext, hc]
    decide +kernel
  cases hscan : scan text with
  | error e => simp [hscan, Except.toOption] at hruns
  | ok s =>
    cases hexpanded : Build.expanded c s.declaration with
    | error e => simp [hscan, hexpanded, Except.toOption] at hruns
    | ok f =>
      cases hmake : make f.table with
      | error e => simp [hscan, hexpanded, hmake, Except.toOption] at hruns
      | ok d =>
        cases hbind : d.bind [.literal .nothing] [] with
        | error e => simp [hscan, hexpanded, hmake, hbind, Except.toOption] at hruns
        | ok values =>
          simp only [hscan, hexpanded, hmake, hbind, Except.toOption, Option.bind_some,
            Option.map_some, Option.some.injEq] at hruns
          obtain ⟨x, a, b, harguments⟩ := List.length_eq_three.1
            (by simpa using congrArg List.length hruns)
          simp only [harguments, List.map_cons, List.map_nil, List.cons.injEq, Prod.mk.injEq,
            and_true] at hruns
          obtain ⟨⟨-, hx⟩, ⟨ha, hdefault⟩, hb, hdefault'⟩ := hruns
          have hall := (defaults_of_literals "a b").2.2 text none s c f hscan hexpanded
          refine ⟨text, s, c, f, d, values, hscan, hexpanded, ?_, hmake, hbind, ?_, ?_⟩
          · simp [harguments, hx, hdefault, hdefault']
          · exact ((hall 1 a .quoted (by simp [harguments]) hdefault).2 [] d _ _ _ hmake hbind
              (by simp) (by simp)).2 rfl
          · exact (hall 2 b .raw (by simp [harguments]) hdefault').2 [] d _ _ _ hmake hbind
              (by simp) (by simp) |>.not.2 (by decide)

/-- The run time takes the delimiters of a raw literal for text. -/
theorem default_changes_of_raw :
    raw "hello" = "R\"npe_doc(hello)npe_doc\"" ∧
      Literal.ofDefault (raw "hello") = .ok (some (.text "npe_doc(hello)npe_doc")) ∧
      Literal.ofDefault (raw "hello") ≠ .ok none ∧
      Literal.ofDefault (raw "hello") ≠ .ok (some (.text "hello")) := by
  have hread : Literal.ofDefault (raw "hello") = .ok (some (.text "npe_doc(hello)npe_doc")) :=
    Literal.ofDefault_raw_of_line (by decide) (by decide) (by decide) (by decide)
  refine ⟨by decide, hread, ?_, Literal.ofDefault_raw_ne _⟩
  rw [hread]
  simp

end Dispatcher

end Monomorph
