import Monomorph.Emission.Specialization
import Monomorph.Proofs.Expansion.Separated
import Monomorph.Proofs.Record
import Monomorph.Proofs.Token.Opening

/-!
Substitution in a body. Putting a spelling for an alias changes the text, so the rest of the body is
cut into pieces anew. It is cut as it was: a piece in front of a replaced identifier sees a letter
where it saw a letter before, and a spelling is made of pieces that depend on nothing behind them. So
the tokens of the result are those of the body with each alias replaced by the tokens of its spelling.
-/

namespace Monomorph.Emission

open Lexer Text

/-- What a lexeme becomes. -/
def replacement (as : List (String × String)) (l : Token.Kind × List Char) :
    List (Token.Kind × List Char) :=
  match l.1, as.lookup (String.ofList l.2) with
  | .ident, some spelling => lexemes spelling.toList
  | _, _ => [l]

/-- A spelling that can stand for an identifier: it starts with a letter, its pieces depend on nothing
behind them, and none of them is an alias. -/
structure IsSpelling (as : List (String × String)) (spelling : List Char) : Prop where
  start : ∃ c ∈ spelling.head?, isAsciiStart c = true
  plain : ∀ q ∈ pieces spelling, isPlain q = true
  settled : ∀ w, (.token .ident, w) ∈ pieces spelling → as.lookup (String.ofList w) = none

/-- A text in which no quote stands alone, no identifier is the mark of a raw string that is none, and
aliases have such spellings. -/
structure IsClear (as : List (String × String)) (s : List Char) : Prop where
  quotes : ∀ w, (.token .punct, w) ∈ pieces s → ∀ quote ∈ quotes, w ≠ [quote]
  prefixes : ∀ before w after, pieces s = before ++ (.token .ident, w) :: after →
    w ∈ encodings.map (· ++ ['R']) → (after.flatMap (·.2)).head? ≠ some '"'
  spellings : ∀ w, (.token .ident, w) ∈ pieces s → ∀ spelling,
    as.lookup (String.ofList w) = some spelling → IsSpelling as spelling.toList

variable {as : List (String × String)} {s lexeme rest : List Char} {p : Piece}

theorem IsClear.of_cuts (hcut : Cuts p lexeme rest) (h : IsClear as (lexeme ++ rest)) :
    IsClear as rest := by
  obtain ⟨hquotes, hprefixes, hspellings⟩ := h
  rw [hcut.pieces_eq] at hquotes hprefixes hspellings
  exact ⟨fun w hw => hquotes w (List.mem_cons_of_mem _ hw),
    fun before w after hsplit => hprefixes ((p, lexeme) :: before) w after (by rw [hsplit]; rfl),
    fun w hw => hspellings w (List.mem_cons_of_mem _ hw)⟩

/-- No identifier of a clear text opens a literal. -/
theorem IsClear.not_opens (hcut : Cuts (.token .ident) lexeme rest)
    (h : IsClear as (lexeme ++ rest)) : ¬ Opens (lexeme ++ rest) := by
  intro hopens
  obtain ⟨hquotes, hprefixes, -⟩ := h
  rw [hcut.pieces_eq] at hquotes hprefixes
  rcases hcut.of_opens hopens with ⟨quote, hmem, s, rfl, hquote⟩ | ⟨hraw, hhead⟩
  · refine hquotes [quote] (List.mem_cons_of_mem _ ?_) quote hmem rfl
    have hpieces := hquote.pieces_eq
    rw [List.singleton_append] at hpieces
    rw [hpieces]
    exact List.mem_cons_self
  · exact hprefixes [] lexeme (pieces rest) rfl hraw (by rwa [flatMap_pieces])

/-- The text with its aliases replaced. -/
def replaced (as : List (String × String)) (s : List Char) : List Char :=
  (pieces s).flatMap (substitutePiece as)

theorem replaced_append (hcut : Cuts p lexeme rest) :
    replaced as (lexeme ++ rest) = substitutePiece as (p, lexeme) ++ replaced as rest := by
  rw [replaced, hcut.pieces_eq, List.flatMap_cons, ← replaced]

/-- A piece is kept, or it is an alias. -/
theorem substitutePiece_cases (as : List (String × String)) (p : Piece) (lexeme : List Char) :
    (substitutePiece as (p, lexeme) = lexeme ∧
      (lexeme? (p, lexeme)).toList.flatMap (replacement as) = (lexeme? (p, lexeme)).toList) ∨
    ∃ spelling, p = .token .ident ∧ as.lookup (String.ofList lexeme) = some spelling ∧
      substitutePiece as (p, lexeme) = spelling.toList := by
  cases p with
  | blanks => exact .inl ⟨rfl, rfl⟩
  | stray => exact .inl ⟨rfl, rfl⟩
  | token kind =>
    cases kind with
    | ident =>
      cases has : as.lookup (String.ofList lexeme) with
      | none => exact .inl ⟨by simp [substitutePiece, has], by simp [replacement, lexeme?, has]⟩
      | some spelling => exact .inr ⟨spelling, rfl, rfl, by simp [substitutePiece, has]⟩
    | number | string | rawString | char | punct | comment => exact .inl ⟨rfl, rfl⟩

theorem meets_replaced (h : IsClear as s) : Meets s (replaced as s) := by
  rcases eq_or_ne s [] with rfl | hs
  · rw [replaced, pieces_nil]
    exact .ends []
  · obtain ⟨p, lexeme, rest, rfl, hcut⟩ := exists_cuts hs
    rw [replaced_append hcut]
    rcases substitutePiece_cases as p lexeme with ⟨hkeep, -⟩ | ⟨spelling, rfl, has, halias⟩
    · obtain ⟨c, w, rfl⟩ := List.exists_cons_of_ne_nil hcut.1
      rw [hkeep]
      exact .same c (w ++ rest) (w ++ replaced as rest)
    · obtain ⟨⟨c, hc, hstart⟩, -, -⟩ := hcut.ident
      have hmem : (.token .ident, lexeme) ∈ pieces (lexeme ++ rest) := by simp [hcut.pieces_eq]
      obtain ⟨d, hd, hletter⟩ := (h.spellings lexeme hmem spelling has).start
      obtain ⟨w, rfl⟩ := List.head?_eq_some_iff.1 hc
      obtain ⟨v, hv⟩ := List.head?_eq_some_iff.1 hd
      rw [halias, hv]
      exact .starts hstart hletter (w ++ rest) (v ++ replaced as rest)

/-- The tokens of the result are those of the text with the aliases replaced. -/
theorem lexemes_replaced (h : IsClear as s) :
    lexemes (replaced as s) = (lexemes s).flatMap (replacement as) := by
  induction s using pieces_induction with
  | nil => rw [replaced, pieces_nil, List.flatMap_nil, lexemes_nil, List.flatMap_nil]
  | cut p lexeme rest hcut ih =>
    have hrest := ih (h.of_cuts hcut)
    have hmeets := meets_replaced (h.of_cuts hcut)
    have hmem : (p, lexeme) ∈ pieces (lexeme ++ rest) := by simp [hcut.pieces_eq]
    rw [replaced_append hcut, hcut.lexemes_eq, List.flatMap_append, ← hrest]
    rcases substitutePiece_cases as p lexeme with ⟨hkeep, hsame⟩ | ⟨spelling, rfl, has, halias⟩
    · rw [hkeep, hsame]
      by_cases hblank : p = .blanks
      · subst hblank
        rw [lexemes_append_of_isBlank hcut.forall_isBlank]
        rfl
      · refine (hcut.replace hblank hmeets (fun hp => ?_) fun hp => ?_).lexemes_eq
        · exact h.quotes lexeme (hp ▸ hmem)
        · subst hp
          exact h.not_opens hcut
    · obtain ⟨-, -, hend⟩ := hcut.ident
      have hnot : ∀ c ∈ (replaced as rest).head?, isWord c = false := by
        refine hmeets.head hend (by decide) fun c _ hc _ hword => ?_
        rw [(unlike_of_isAsciiStart hc).1] at hword
        cases hword
      rw [halias, lexemes_append_of_isPlain (h.spellings lexeme hmem spelling has).plain hnot]
      simp [lexeme?, replacement, has]

/-- No alias is left. -/
theorem lookup_of_mem_replaced (h : IsClear as s) {w : List Char}
    (hw : (.ident, w) ∈ lexemes (replaced as s)) : as.lookup (String.ofList w) = none := by
  rw [lexemes_replaced h, List.mem_flatMap] at hw
  obtain ⟨⟨kind, v⟩, hv, hw⟩ := hw
  unfold replacement at hw
  split at hw
  · next spelling hkind has =>
    obtain rfl : kind = .ident := hkind
    exact (h.spellings v (mem_lexemes.1 hv) spelling has).settled w (mem_lexemes.1 hw)
  · next hnone =>
    obtain ⟨rfl, rfl⟩ := Prod.mk.inj (List.mem_singleton.1 hw)
    by_contra hsome
    obtain ⟨spelling, has⟩ := Option.ne_none_iff_exists'.1 hsome
    exact hnone spelling rfl has

theorem replaced_eq_self (h : ∀ w, (.ident, w) ∈ lexemes s → as.lookup (String.ofList w) = none) :
    replaced as s = s := by
  have hkeep : ∀ q ∈ pieces s, substitutePiece as q = q.2 := by
    rintro ⟨p, lexeme⟩ hq
    rcases substitutePiece_cases as p lexeme with ⟨hkeep, -⟩ | ⟨spelling, rfl, has, -⟩
    · exact hkeep
    · rw [h lexeme (mem_lexemes.2 hq)] at has
      cases has
  rw [replaced, List.flatMap_congr hkeep, flatMap_pieces]

/-! ### The aliases of a combination -/

/-- The words that start the names of aliases. -/
def aliasStarts : List String := ["npe_Matrix_", "npe_Scalar_", "npe_Map_"]

/-- The names of the aliases of an argument. -/
def aliasNames (name : Label) : List String := aliasStarts.map (· ++ name.shown)

/-- Every alias belongs to an argument, and stands for a spelling of its type. -/
theorem exists_of_lookup_aliases {c : Combination} {name spelling : String}
    (h : (aliases c).lookup name = some spelling) :
    ∃ a ∈ c.names.zip c.types, name ∈ aliasNames a.1 ∧
      spelling ∈ [a.2.matrix, a.2.scalar, a.2.parameter] := by
  obtain ⟨before, after, heq, -⟩ := List.lookup_eq_some_iff.1 h
  have hmem : (name, spelling) ∈ aliases c := by simp [heq]
  obtain ⟨a, ha, hpair⟩ := List.mem_flatMap.1 (Record.mem_of_mem_ofPairs hmem)
  simp only [List.mem_cons, Prod.mk.injEq, List.not_mem_nil, or_false] at hpair
  refine ⟨a, ha, ?_⟩
  rcases hpair with ⟨rfl, rfl⟩ | ⟨rfl, rfl⟩ | ⟨rfl, rfl⟩ <;> simp [aliasNames, aliasStarts]

/-- Does a text start with a letter, consist of plain pieces, and hold no name of an alias? -/
def isNeutral (s : List Char) : Bool :=
  s.head?.any isAsciiStart &&
    (pieces s).all fun q => isPlain q && aliasStarts.all fun start => !start.toList.isPrefixOf q.2

/-- The parts of a joined text are faster to evaluate than the text. -/
theorem isNeutral_append {a b c : String}
    (h : isNeutral (a.toList ++ b.toList ++ c.toList) = true) :
    isNeutral (a ++ b ++ c).toList = true := by
  rwa [String.toList_append, String.toList_append]

/-- Every spelling of a numeric type is neutral. There are few of them, so each one is evaluated. -/
theorem isNeutral_spellings (e : Element) :
    isNeutral e.scalar.toList = true ∧
      (isNeutral (ConcreteType.dense e).matrix.toList = true ∧
        isNeutral (ConcreteType.dense e).parameter.toList = true) ∧
      ∀ l, isNeutral (ConcreteType.sparse e l).matrix.toList = true ∧
        isNeutral (ConcreteType.sparse e l).parameter.toList = true := by
  have hjoin : ∀ (start : String) (l : Layout),
      isNeutral ((start.toList ++ e.scalar.toList ++ ", ".toList) ++ l.order.toList ++ ">".toList) =
        true →
      isNeutral (start ++ e.scalar ++ ", " ++ l.order ++ ">").toList = true := fun start l h =>
    isNeutral_append (by rwa [String.toList_append, String.toList_append])
  refine ⟨?_, ⟨isNeutral_append ?_, isNeutral_append ?_⟩, fun l => ⟨hjoin _ l ?_, hjoin _ l ?_⟩⟩
  · cases e <;> decide +kernel
  · cases e <;> decide +kernel
  · cases e <;> decide +kernel
  · cases e <;> cases l <;> decide +kernel
  · cases e <;> cases l <;> decide +kernel

theorem isNeutral_of_numeric {type : ConcreteType} (htype : type.isHost = false)
    {spelling : String} (h : spelling ∈ [type.matrix, type.scalar, type.parameter]) :
    isNeutral spelling.toList = true := by
  simp only [List.mem_cons, List.not_mem_nil, or_false] at h
  cases type with
  | host text => cases htype
  | dense e =>
    obtain ⟨hscalar, ⟨hmatrix, hparameter⟩, -⟩ := isNeutral_spellings e
    rcases h with rfl | rfl | rfl
    · exact hmatrix
    · exact hscalar
    · exact hparameter
  | sparse e l =>
    obtain ⟨hscalar, -, hsparse⟩ := isNeutral_spellings e
    obtain ⟨hmatrix, hparameter⟩ := hsparse l
    rcases h with rfl | rfl | rfl
    · exact hmatrix
    · exact hscalar
    · exact hparameter

/-- A numeric type is spelled so that it can stand for an identifier. -/
theorem isSpelling_of_numeric (c : Combination) {type : ConcreteType} (htype : type.isHost = false)
    {spelling : String} (h : spelling ∈ [type.matrix, type.scalar, type.parameter]) :
    IsSpelling (aliases c) spelling.toList := by
  have hneutral := isNeutral_of_numeric htype h
  simp only [isNeutral, Bool.and_eq_true, List.all_eq_true, Option.any_eq_true,
    Bool.not_eq_eq_eq_not, Bool.not_true] at hneutral
  obtain ⟨⟨c', hc, hstart⟩, hpieces⟩ := hneutral
  refine ⟨⟨c', hc, hstart⟩, fun q hq => (hpieces q hq).1, fun w hw => ?_⟩
  by_contra hsome
  obtain ⟨other, has⟩ := Option.ne_none_iff_exists'.1 hsome
  obtain ⟨a, -, hname, -⟩ := exists_of_lookup_aliases has
  obtain ⟨start, hmem, hname⟩ := List.mem_map.1 hname
  have hstarts : start.toList.isPrefixOf w = true := by
    have heq := congrArg String.toList hname
    rw [String.toList_append, String.toList_ofList] at heq
    exact List.isPrefixOf_iff_prefix.2 ⟨_, heq⟩
  rw [(hpieces _ hw).2 start hmem] at hstarts
  cases hstarts

/-! ### Tokens -/

/-- What the class and the text of a token become: an alias becomes the tokens of its spelling, and
nothing else changes. -/
def substituteContent (as : List (String × String)) (t : Token.Kind × String) :
    List (Token.Kind × String) :=
  match t.1, as.lookup t.2 with
  | .ident, some spelling => (allTokens spelling.toList).map Token.content
  | _, _ => [t]

theorem substituteContent_written (as : List (String × String)) (l : Token.Kind × List Char) :
    substituteContent as (written l) = (replacement as l).map written := by
  obtain ⟨kind, w⟩ := l
  cases kind with
  | ident =>
    cases has : as.lookup (String.ofList w) with
    | none => simp [substituteContent, replacement, written, has]
    | some spelling => simp [substituteContent, replacement, written, has, map_content_allTokens]
  | number | string | rawString | char | punct | comment => rfl

/-- A piece of a text that is a token is one of its tokens, and stops where the pieces after it
start. -/
theorem exists_token_of_pieces {before after : List (Piece × List Char)} {kind : Token.Kind}
    {w : List Char} (h : pieces s = before ++ (.token kind, w) :: after) :
    ∃ t ∈ allTokens s, t.kind = kind ∧ t.text = String.ofList w ∧
      s[t.stop]? = (after.flatMap (·.2)).head? := by
  obtain ⟨here, hoffset, hplace⟩ :=
    exists_place_append ⟨0, 1, 1⟩ before ((.token kind, w) :: after)
  rw [place] at hplace
  refine ⟨_, by rw [allTokens, h, hplace]; exact List.mem_append_right _ List.mem_cons_self, rfl,
    rfl, ?_⟩
  have hs : s = before.flatMap (·.2) ++ w ++ after.flatMap (·.2) := by
    rw [← flatMap_pieces s, h]
    simp
  have hstop : (w.foldl Lexer.Place.step here).offset = (before.flatMap (·.2) ++ w).length := by
    rw [offset_foldl_step, hoffset, List.length_append, Nat.zero_add]
  dsimp only
  rw [hstop, hs, List.getElem?_append_right (le_refl _), Nat.sub_self, List.head?_eq_getElem?]

/-- Substitution is hygienic. If no quote stands alone in a body, no mark of a raw string stands in
front of a quote without opening one, and all aliases in the body belong to arguments of numeric
types, then the tokens of the result are those of the body, comments included, with the tokens of its
spelling for each alias. So no alias is left, and there is nothing to substitute again. -/
theorem allTokens_substitute {c : Combination} {body : String}
    (hquotes : ∀ t ∈ allTokens body.toList, t.isPunct "\"" = false ∧ t.isPunct "'" = false)
    (hprefixes : ∀ t ∈ allTokens body.toList, t.kind = .ident →
      t.text ∈ ["R", "u8R", "uR", "UR", "LR"] → body.toList[t.stop]? ≠ some '"')
    (hnumeric : ∀ t ∈ allTokens body.toList, t.kind = .ident → ∀ a ∈ c.names.zip c.types,
      t.text ∈ aliasNames a.1 → a.2.isHost = false) :
    (allTokens (substitute (aliases c) body).toList).map Token.content =
        ((allTokens body.toList).map Token.content).flatMap (substituteContent (aliases c)) ∧
      (∀ t ∈ allTokens (substitute (aliases c) body).toList, t.kind = .ident →
        t.text ∉ (aliases c).map (·.1)) ∧
      substitute (aliases c) (substitute (aliases c) body) = substitute (aliases c) body := by
  have hclear : IsClear (aliases c) body.toList := by
    refine ⟨fun w hw quote hmem heq => ?_, fun before w after hsplit hraw hhead => ?_,
      fun w hw spelling has => ?_⟩
    · obtain ⟨before, after, hsplit⟩ := List.append_of_mem hw
      obtain ⟨t, ht, hkind, htext, -⟩ := exists_token_of_pieces hsplit
      obtain ⟨hdouble, hsingle⟩ := hquotes t ht
      simp only [quotes, List.mem_cons, List.not_mem_nil, or_false] at hmem
      rcases hmem with rfl | rfl
      · simp [Token.isPunct, hkind, htext, heq] at hdouble
      · simp [Token.isPunct, hkind, htext, heq] at hsingle
    · obtain ⟨t, ht, hkind, htext, hnext⟩ := exists_token_of_pieces hsplit
      have hwords : ∀ w ∈ encodings.map (· ++ ['R']),
          String.ofList w ∈ ["R", "u8R", "uR", "UR", "LR"] := by decide
      exact hprefixes t ht hkind (htext ▸ hwords w hraw) (hnext.trans hhead)
    · obtain ⟨before, after, hsplit⟩ := List.append_of_mem hw
      obtain ⟨t, ht, hkind, htext, -⟩ := exists_token_of_pieces hsplit
      obtain ⟨a, ha, hname, hspelling⟩ := exists_of_lookup_aliases has
      exact isSpelling_of_numeric c (hnumeric t ht hkind a ha (htext ▸ hname)) hspelling
  have hresult : (substitute (aliases c) body).toList = replaced (aliases c) body.toList :=
    String.toList_ofList
  refine ⟨?_, fun t ht hkind hmem => ?_, ?_⟩
  · rw [hresult, map_content_allTokens, map_content_allTokens, lexemes_replaced hclear,
      List.map_flatMap, List.flatMap_map]
    exact List.flatMap_congr fun l _ => (substituteContent_written _ l).symm
  · have hlexeme : (t.kind, t.text) ∈ (lexemes (replaced (aliases c) body.toList)).map written := by
      rw [← hresult, ← map_content_allTokens]
      exact List.mem_map_of_mem ht
    obtain ⟨⟨kind, w⟩, hw, heq⟩ := List.mem_map.1 hlexeme
    obtain ⟨rfl, htext⟩ := Prod.mk.inj heq
    have hnone := lookup_of_mem_replaced hclear (w := w) (hkind ▸ hw)
    rw [htext, List.lookup_eq_none_iff] at hnone
    obtain ⟨q, hq, hname⟩ := List.mem_map.1 hmem
    simpa [hname] using hnone q hq
  · have hself : replaced (aliases c) (replaced (aliases c) body.toList) =
        replaced (aliases c) body.toList :=
      replaced_eq_self fun w hw => lookup_of_mem_replaced hclear hw
    apply String.toList_inj.1
    rw [hresult, ← hself, ← hresult]
    exact String.toList_ofList

/-- Aliases next to literals, comments and longer identifiers, beside an argument of a host type. -/
theorem allTokens_substitute_of_mixed :
    ∃ c : Combination, ∃ body,
      c.types = [.dense .float32, .sparse .float64 .csc, .host "T<\"'\">"] ∧
      substitute (aliases c) body =
        "float x = u8\"npe_Scalar_a\"; // npe_Scalar_a\n" ++
          "Eigen::SparseMatrix<double, Eigen::ColMajor> y(npe_Map_ab, 1'000, h, R\"(\")\");" ∧
      (allTokens (substitute (aliases c) body).toList).map Token.content =
        ((allTokens body.toList).map Token.content).flatMap (substituteContent (aliases c)) := by
  refine ⟨⟨0, ["a", "b", "h"], [.dense .float32, .sparse .float64 .csc, .host "T<\"'\">"], "f"⟩,
    "npe_Scalar_a x = u8\"npe_Scalar_a\"; // npe_Scalar_a\n" ++
      "npe_Matrix_b y(npe_Map_ab, 1'000, h, R\"(\")\");", rfl, by decide +kernel, ?_⟩
  exact (allTokens_substitute (by decide +kernel) (by decide +kernel) (by decide +kernel)).1

end Monomorph.Emission
