import Monomorph.Emission.Registration
import Monomorph.Proofs.StringLiteral.Encoding

/-!
The documentation in a registration. Up to it the text of a registration has the same tokens for every
function, but for the names. None of them reaches into the literal that holds the documentation, so this
literal is one token, the third argument of the call that defines the function. Only with a delimiter of
more characters than are allowed it is no literal at all.
-/

namespace Monomorph

namespace Text

variable {n : String}

theorem isWord_of_asciiPart {c : Char} (hascii : c.toNat < 128)
    (h : (isAsciiStart c || c.isDigit) = true) : isWord c = true := by
  simp only [isAsciiStart, Bool.or_eq_true, beq_iff_eq] at h
  simp only [isWord, isAlphanumeric, hascii, if_true, Char.isAlphanum, Bool.or_eq_true, beq_iff_eq]
  rcases h with (h | h) | h
  · exact .inl (.inl h)
  · exact .inr h
  · exact .inl (.inr h)

/-- A name that can be bound consists of word characters. -/
theorem isWord_of_isBindingName (h : isBindingName n = true) : ∀ c ∈ n.toList, isWord c = true := by
  unfold isBindingName isIdentifier isAscii at h
  cases hn : n.toList with
  | nil => simp
  | cons c r =>
    simp only [hn, Bool.and_eq_true] at h
    obtain ⟨⟨⟨hstart, hpart⟩, hascii⟩, -⟩ := h
    intro x hx
    have hx128 : x.toNat < 128 := by simpa using List.all_eq_true.1 hascii x hx
    refine isWord_of_asciiPart hx128 ?_
    rcases List.mem_cons.1 hx with rfl | hx
    · simp only [isIdentifierStart, hx128, if_true] at hstart
      rw [hstart, Bool.true_or]
    · have hxpart := List.all_eq_true.1 hpart x hx
      simpa only [isIdentifierPart, hx128, if_true] using hxpart

end Text

namespace Lexer

open Text

variable {w rest : List Char}

/-- A text without quotes that ends in blanks keeps its tokens in front of every text. -/
theorem lexemes_append_of_blanks_last (hquote : ∀ quote ∈ quotes, quote ∉ w)
    (hend : (pieces w).getLast?.map (·.1) = some .blanks) :
    lexemes (w ++ rest) = lexemes w ++ lexemes rest := by
  induction w using pieces_induction with
  | nil => simp [pieces_nil] at hend
  | cut p lexeme after hcut ih =>
    rw [hcut.pieces_eq] at hend
    have hkeep : Cuts p lexeme (after ++ rest) ∨ p = .blanks := by
      by_cases hblank : p = .blanks
      · exact .inr hblank
      · cases after with
        | nil =>
          rw [pieces_nil] at hend
          exact absurd (by simpa using hend) hblank
        | cons c r =>
          refine .inl (hcut.replace hblank (.same c r (r ++ rest)) ?_ ?_)
          · rintro - quote hmem rfl
            exact hquote quote hmem (by simp)
          · rintro - ⟨o, ho, hstarts⟩
            have hmem : o.2 ∈ o.1 ++ [o.2] := by simp
            exact hquote o.2 (opening_chars o ho).2 (hstarts.subset hmem)
    have hafter : lexemes (after ++ rest) = lexemes after ++ lexemes rest := by
      rcases eq_or_ne after [] with rfl | hne
      · rw [lexemes_nil]
        rfl
      · refine ih (fun quote hmem hin => hquote quote hmem (List.mem_append_right _ hin)) ?_
        obtain ⟨c, r, rfl⟩ := List.exists_cons_of_ne_nil hne
        obtain ⟨p', lexeme', rest', heq, hcut'⟩ := exists_cuts hne
        rw [heq, hcut'.pieces_eq] at hend ⊢
        rwa [List.getLast?_cons_cons] at hend
    rw [List.append_assoc, hcut.lexemes_eq]
    rcases hkeep with hkeep | rfl
    · rw [hkeep.lexemes_eq, hafter, List.append_assoc]
    · rw [lexemes_append_of_isBlank hcut.forall_isBlank, hafter]
      rfl

/-- A long word is an identifier. -/
theorem cuts_ident_of_long (hstart : ∃ c ∈ w.head?, isAsciiStart c = true)
    (hword : ∀ c ∈ w, isWord c = true) (hlong : 3 < w.length)
    (hrest : ∀ c ∈ rest.head?, isWord c = false) : Cuts (.token .ident) w rest := by
  have hshort : ∀ v ∈ openings.map (·.1), v.length ≤ 3 := by decide
  exact cuts_ident hstart hword hrest fun hmem => absurd (hshort w hmem) (by omega)

end Lexer

namespace Emission.Registration

open Lexer Text

/-- The tokens in front of the documentation. -/
def head (r : Registration) : List (Token.Kind × String) := [
  (.ident, "void"), (.ident, r.symbol), (.punct, "("), (.ident, "pybind11"), (.punct, "::"),
  (.ident, "module_"), (.punct, "&"), (.ident, "m"), (.punct, ")"), (.punct, "\x7b"), (.ident, "m"),
  (.punct, "."), (.ident, "def"), (.punct, "("), (.string, StringLiteral.quoted r.function),
  (.punct, ","), (.punct, "&"), (.ident, r.dispatcher), (.punct, ",")]

/-- The text up to the documentation. -/
theorem exists_render_eq (r : Registration) : ∃ tail,
    r.render.toList = "void ".toList ++ (r.symbol.toList ++
      ("(pybind11::module_& m) \x7b\n    m.def(\n        ".toList ++
        ((StringLiteral.quoted r.function).toList ++ (",\n        ".toList ++ (['&'] ++
          (r.dispatcher.toList ++ (",\n        ".toList ++
            ((StringLiteral.raw r.doc).toList ++ tail)))))))) := by
  have hlast : ∀ item args, ∃ comma more, commaSeparated (item :: args) = (item ++ comma) :: more := by
    intro item args
    cases args with
    | nil => exact ⟨"", [], by rw [commaSeparated, String.append_empty]⟩
    | cons a args => exact ⟨",", _, rfl⟩
  obtain ⟨comma, more, hmore⟩ := hlast (StringLiteral.raw r.doc) (r.arguments.map argumentText)
  have hitems : commaSeparated ([StringLiteral.quoted r.function, "&" ++ r.dispatcher,
      StringLiteral.raw r.doc] ++ r.arguments.map argumentText) =
      (StringLiteral.quoted r.function ++ ",") :: ("&" ++ r.dispatcher ++ ",") ::
        (StringLiteral.raw r.doc ++ comma) :: more := by
    rw [← hmore]
    rfl
  refine ⟨comma.toList ++ "\n".toList ++ ((more.map ("        " ++ ·) ++ ["    );", "\x7d"]).map
    (· ++ "\n")).flatMap String.toList, ?_⟩
  rw [render, unlines, commaLines, hitems, String.toList_join]
  simp

/-- A symbol with the name of a function is an identifier. -/
theorem lexemes_symbol {front name : String} {rest : List Char} (hname : isBindingName name = true)
    (hfront : front ∈ ["npe_register_", "npe_dispatch_"]) (hrest : ∀ c ∈ rest.head?, isWord c = false) :
    lexemes ((front ++ name).toList ++ rest) = (.ident, (front ++ name).toList) :: lexemes rest := by
  have hall : ∀ front ∈ ["npe_register_", "npe_dispatch_"], front.toList ≠ [] ∧
      front.toList.head?.any isAsciiStart = true ∧ (∀ c ∈ front.toList, isWord c = true) ∧
      3 < front.toList.length := by decide
  obtain ⟨hne, hstart, hword, hlong⟩ := hall front hfront
  refine (cuts_ident_of_long (w := (front ++ name).toList) ?_ ?_ ?_ hrest).lexemes_eq
  · rw [String.toList_append, List.head?_append_of_ne_nil _ hne]
    exact (Option.any_eq_true _ _).1 hstart
  · rw [String.toList_append]
    exact fun c hc => (List.mem_append.1 hc).elim (hword c) (isWord_of_isBindingName hname c)
  · rw [String.toList_append, List.length_append]
    omega

/-- The sign in front of a dispatcher's symbol stands alone. -/
theorem lexemes_address (name : String) (rest : List Char) :
    lexemes (['&'] ++ (("npe_dispatch_" ++ name).toList ++ rest)) =
      (.punct, ['&']) :: lexemes (("npe_dispatch_" ++ name).toList ++ rest) := by
  have hcut : Cuts (.token .punct) ['&'] ['n'] := ⟨by simp, by decide⟩
  have hfront : "npe_dispatch_".toList = 'n' :: "pe_dispatch_".toList := by decide
  rw [String.toList_append, hfront, List.cons_append, List.cons_append]
  exact (hcut.replace (by simp) (.same 'n' [] _) (fun _ => by decide) (by simp)).lexemes_eq

theorem visible_cons {kind : Token.Kind} (hkind : kind ≠ .comment) (v : List Char)
    (ls : List (Token.Kind × List Char)) :
    visible ((kind, v) :: ls) = (kind, String.ofList v) :: visible ls := by
  simp [visible, hkind, written]

/-- The fixed stretches of the text in front of the documentation. -/
def stretches : List String :=
  ["void ", "(pybind11::module_& m) \x7b\n    m.def(\n        ", ",\n        "]

theorem lexemes_stretch {w : String} (hw : w ∈ stretches) (rest : List Char) :
    lexemes (w.toList ++ rest) = lexemes w.toList ++ lexemes rest := by
  have hall : ∀ w ∈ stretches, (∀ quote ∈ quotes, quote ∉ w.toList) ∧
      (pieces w.toList).getLast?.map (·.1) = some .blanks := by decide +kernel
  exact lexemes_append_of_blanks_last (hall w hw).1 (hall w hw).2

variable {f : ExpandedFunction}

/-- The tokens of a registration are those in front of the documentation, and then those of its literal
and of what follows. -/
theorem exists_content_tokens_render (hname : isBindingName f.name = true) :
    ∃ tail, (tokens (of f).render.toList).map Token.content =
      (of f).head ++ visible (lexemes ((StringLiteral.raw (f.declaration.doc.getD "")).toList ++ tail)) := by
  obtain ⟨hvoid, hopen, hcomma⟩ : visible (lexemes "void ".toList) = [(.ident, "void")] ∧
      visible (lexemes "(pybind11::module_& m) \x7b\n    m.def(\n        ".toList) =
        [(.punct, "("), (.ident, "pybind11"), (.punct, "::"), (.ident, "module_"), (.punct, "&"),
          (.ident, "m"), (.punct, ")"), (.punct, "\x7b"), (.ident, "m"), (.punct, "."), (.ident, "def"),
          (.punct, "(")] ∧
      visible (lexemes ",\n        ".toList) = [(.punct, ",")] := by decide +kernel
  have hquoted : ∀ rest, lexemes ((StringLiteral.quoted f.name).toList ++ rest) =
      (.string, (StringLiteral.quoted f.name).toList) :: lexemes rest := fun rest => by
    rw [StringLiteral.quoted, String.toList_ofList]
    exact (StringLiteral.cuts_quotedOf f.name.toList rest).lexemes_eq
  obtain ⟨tail, hrender⟩ := exists_render_eq (of f)
  refine ⟨tail, ?_⟩
  have hsymbol : (of f).symbol = "npe_register_" ++ f.name := rfl
  have hdispatcher : (of f).dispatcher = "npe_dispatch_" ++ f.name := rfl
  have hfunction : (of f).function = f.name := rfl
  have hdoc : (of f).doc = f.declaration.doc.getD "" := rfl
  rw [map_content_tokens, hrender, hsymbol, hdispatcher, hfunction, hdoc,
    lexemes_stretch (by decide), lexemes_symbol hname (by simp) (by simp +decide),
    lexemes_stretch (by decide), hquoted, lexemes_stretch (by decide), lexemes_address,
    lexemes_symbol hname (by simp) (by simp +decide), lexemes_stretch (by decide)]
  have hident : Token.Kind.ident ≠ .comment := by decide
  have hpunct : Token.Kind.punct ≠ .comment := by decide
  have hstring : Token.Kind.string ≠ .comment := by decide
  rw [visible_append, hvoid, visible_cons hident, visible_append, hopen, visible_cons hstring,
    visible_append, hcomma, visible_cons hpunct, visible_cons hident, visible_append, hcomma]
  simp only [String.ofList_toList, head, hsymbol, hdispatcher, hfunction]
  rfl

/-- The token stands in the place of the documentation, the third argument of the call that defines the
function. -/
def DocToken (r : Registration) (t : Token) : Prop :=
  ∃ before after, tokens r.render.toList = before ++ t :: after ∧ before.map Token.content = r.head

theorem DocToken.unique {r : Registration} {t t' : Token} (h : r.DocToken t) (h' : r.DocToken t') :
    t = t' := by
  obtain ⟨before, after, htokens, hbefore⟩ := h
  obtain ⟨before', after', htokens', hbefore'⟩ := h'
  have hlength : before.length = before'.length := by
    rw [← List.length_map Token.content, hbefore, ← hbefore', List.length_map]
  exact (List.cons.inj (List.append_inj (htokens.symm.trans htokens') hlength).2).1

/-- The registration has the text in the place of the documentation, as one literal. -/
def Documents (r : Registration) (text : String) : Prop :=
  ∃ t, r.DocToken t ∧ t.kind = .rawString ∧ StringLiteral.decode? [t] = some text

/-- What the text of the documentation starts with, stands in its place. -/
theorem exists_docToken {c : Token.Kind × String} (hname : isBindingName f.name = true)
    (h : ∀ tail, ∃ more, visible (lexemes ((StringLiteral.raw (f.declaration.doc.getD "")).toList ++ tail)) =
      c :: more) : ∃ t, (of f).DocToken t ∧ t.content = c := by
  obtain ⟨tail, hrender⟩ := exists_content_tokens_render hname
  obtain ⟨more, hmore⟩ := h tail
  rw [hmore] at hrender
  obtain ⟨before, rest, htokens, hbefore, hrest⟩ := List.map_eq_append_iff.1 hrender
  obtain ⟨t, after, rfl, ht, -⟩ := List.map_eq_cons_iff.1 hrest
  exact ⟨t, ⟨before, after, htokens, hbefore⟩, ht⟩

/-- The documentation is one literal if its delimiter is no longer than allowed. -/
theorem exists_docToken_of_short (hname : isBindingName f.name = true)
    (hdoc : (StringLiteral.freeDelimiter (f.declaration.doc.getD "").toList).length ≤ 16) :
    ∃ t, (of f).DocToken t ∧
      t.content = (.rawString, StringLiteral.raw (f.declaration.doc.getD "")) := by
  refine exists_docToken hname fun tail => ⟨visible (lexemes tail), ?_⟩
  have hcut := StringLiteral.cuts_rawOf hdoc tail
  rw [StringLiteral.raw, String.toList_ofList, hcut.lexemes_eq]
  exact visible_cons (by decide) _ _

/-- Otherwise there is no literal in the place of the documentation, but the letter in front of one. -/
theorem exists_docToken_of_long (hname : isBindingName f.name = true)
    (hdoc : 16 < (StringLiteral.freeDelimiter (f.declaration.doc.getD "").toList).length) :
    ∃ t, (of f).DocToken t ∧ t.content = (.ident, "R") := by
  refine exists_docToken hname fun tail => ?_
  obtain ⟨after, hafter⟩ := StringLiteral.exists_lexemes_rawOf_of_long hdoc tail
  rw [StringLiteral.raw, String.toList_ofList, hafter]
  exact ⟨visible after, visible_cons (by decide) _ _⟩

/-- The registration documents the function exactly if the delimiter of the documentation is no longer
than allowed. -/
theorem documents_iff (hname : isBindingName f.name = true) :
    (of f).Documents (f.declaration.doc.getD "") ↔
      (StringLiteral.freeDelimiter (f.declaration.doc.getD "").toList).length ≤ 16 := by
  constructor
  · rintro ⟨t, ht, hkind, -⟩
    by_contra hlong
    obtain ⟨t', ht', hletter⟩ := exists_docToken_of_long hname (not_le.1 hlong)
    rw [ht'.unique ht] at hletter
    have hident : t.kind = .ident := congrArg Prod.fst hletter
    rw [hkind] at hident
    cases hident
  · intro hshort
    obtain ⟨t, ht, hraw⟩ := exists_docToken_of_short hname hshort
    refine ⟨t, ht, congrArg Prod.fst hraw, ?_⟩
    have hone : [t].map Token.content =
        [(StringLiteral.Style.raw, f.declaration.doc.getD "")].map StringLiteral.literal :=
      congrArg (· :: []) hraw
    rw [StringLiteral.decode?_of_content hone]
    simp [String.join]

end Emission.Registration

end Monomorph
