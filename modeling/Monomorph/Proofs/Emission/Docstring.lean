import Monomorph.Proofs.Emission.Annotation
import Monomorph.Proofs.Emission.Registration
import Monomorph.Proofs.Literal.Verbatim
import Monomorph.Proofs.Scan.WellFormed

/-!
The docstring of a stub. It is printed between three quotes as it is, so the interpreter reads it as it
was printed exactly if every line of the author's documentation can be printed so. Everything else in a
stub is harmless: up to the docstring there are a comment and words without quotes, and the listed
combinations have neither quotes nor backslashes.
-/

namespace Monomorph

namespace Literal

open Text

variable {w s : List Char}

/-! ### The first literal of a source text -/

/-- Where a reader of a source text is. -/
inductive Spot where
  | free
  | name
  | comment
  deriving DecidableEq, Repr

/-- The first literal from some spot on, if it is a text: its code points, and what follows it. Comments
are passed over, and so are names, of which a quote behind them takes no letters. -/
def firstText? : Spot → List Char → Option (List Nat × List Char)
  | _, [] => none
  | .comment, c :: r => firstText? (if c == '\n' then .free else .comment) r
  | spot, c :: r =>
    if c == '#' then firstText? .comment r
    else if spot == .name && isNamePart c then firstText? .name r
    else match quoted? (c :: r) with
      | some _ => textAt? (c :: r)
      | none => firstText? (if isNamePart c then .name else .free) r

/-- The first literal of a source text, in which no character is NUL. -/
def sourceText? (source : String) : Option (List Nat × List Char) :=
  if source.toList.any (·.toNat = 0) then none else firstText? .free (unixNewlinesOf source.toList)

theorem firstText?_comment (h : '\n' ∉ w) (s : List Char) :
    firstText? .comment (w ++ '\n' :: s) = firstText? .free s := by
  induction w with
  | nil => rfl
  | cons c w ih =>
    simp only [List.mem_cons, not_or] at h
    rw [List.cons_append, firstText?, if_neg (by simpa using Ne.symm h.1), ih h.2]

/-- No literal starts in text without quotes that ends in a blank. -/
theorem quoted?_eq_none (h : ∀ c ∈ w, isQuote c = false) (s : List Char) :
    quoted? (w ++ ' ' :: s) = none := by
  have hletters : ∀ q ∈ quoteLetters, ' ' ∉ q.1 := by decide
  rw [quoted?, List.findSome?_eq_none_iff]
  rintro ⟨letters, isRaw, kind⟩ hq
  dsimp only
  split
  · rfl
  · next htake =>
    -- the letters in front of a quote stand in front of the blank
    have hlength : letters.length ≤ w.length := by
      by_contra hlong
      have hblank : ' ' ∈ (w ++ ' ' :: s).take letters.length :=
        List.mem_take_iff_getElem.2 ⟨w.length, by simp; omega, by simp⟩
      have hmem := List.mem_map_of_mem (f := Char.toLower) hblank
      simp only [bne_iff_ne, ne_eq, not_not] at htake
      rw [htake] at hmem
      exact hletters _ hq hmem
    rw [List.drop_append_of_le_length hlength]
    cases hrest : w.drop letters.length with
    | nil => rfl
    | cons c r =>
      have hc : c ∈ w := List.mem_of_mem_drop (hrest ▸ List.mem_cons_self)
      simp [h c hc]

/-- Words without quotes are passed over. -/
theorem firstText?_words {spot : Spot} (hspot : spot ≠ .comment)
    (h : ∀ c ∈ w, isQuote c = false ∧ c ≠ '#') (s : List Char) :
    firstText? spot (w ++ ' ' :: s) = firstText? .free s := by
  induction w generalizing spot with
  | nil =>
    have hnone : quoted? (' ' :: s) = none := quoted?_eq_none (w := []) (by simp) s
    have hpart : isNamePart ' ' = false := by decide
    cases spot with
    | comment => exact absurd rfl hspot
    | free => simp [firstText?, hnone, hpart]
    | name => simp [firstText?, hnone, hpart]
  | cons c w ih =>
    have hnone : quoted? (c :: w ++ ' ' :: s) = none := quoted?_eq_none (fun c hc => (h c hc).1) s
    obtain ⟨⟨-, hcomment⟩, hw⟩ := List.forall_mem_cons.1 h
    have hnext : ∀ b : Bool, firstText? (if b then .name else .free) (w ++ ' ' :: s) =
        firstText? .free s := fun b => ih (by cases b <;> decide) hw
    rw [List.cons_append] at hnone ⊢
    cases spot with
    | comment => exact absurd rfl hspot
    | free => simp [firstText?, hcomment, hnone, hnext]
    | name =>
      have hname := hnext true
      simp only [if_true] at hname
      simp [firstText?, hcomment, hnone, hnext, hname]

theorem firstText?_threeQuotes (s : List Char) :
    firstText? .free (threeQuotes ++ s) = textAt? (threeQuotes ++ s) := rfl

/-- A comment and words are passed over, if nothing in the text is NUL. -/
theorem sourceText?_eq {title words rest : List Char} (htitle : '\n' ∉ title ∧ '\r' ∉ title)
    (hwords : ∀ c ∈ words, c ∉ ['"', '\'', '#', '\r']) (hrest : '\r' ∉ rest) {source : String}
    (hsource : source.toList = '#' :: (title ++ '\n' :: (words ++ ' ' :: rest))) :
    sourceText? source = if '\x00' ∈ source.toList then none else firstText? .free rest := by
  have hwords' : ∀ c ∈ words, isQuote c = false ∧ c ≠ '#' := by
    intro c hc
    have hnot := hwords c hc
    simp only [List.mem_cons, List.not_mem_nil, or_false, not_or] at hnot
    simp [isQuote, hnot]
  have hreturn : '\r' ∉ source.toList := by
    have hinside : '\r' ∉ words := fun hmem => hwords _ hmem (by simp)
    simp [hsource, htitle.2, hinside, hrest]
  have hread : firstText? .free source.toList = firstText? .free rest := by
    have hcomment : ∀ s, firstText? .free ('#' :: s) = firstText? .comment s := fun _ => rfl
    rw [hsource, hcomment, firstText?_comment htitle.1, firstText?_words (by decide) hwords']
  rw [sourceText?, unixNewlinesOf_eq_self hreturn, hread]
  exact if_congr any_isNul rfl rfl

end Literal

namespace Text

/-- Text without quotes, backslashes, comment marks and carriage returns, in which nothing is NUL. -/
def IsPlain (s : String) : Prop := ∀ c ∈ s.toList, c ∉ ['"', '\'', '\\', '#', '\r', '\x00']

instance (s : String) : Decidable (IsPlain s) :=
  inferInstanceAs (Decidable (∀ c ∈ s.toList, c ∉ ['"', '\'', '\\', '#', '\r', '\x00']))

variable {a b sep : String} {parts : List String}

theorem IsPlain.append (ha : IsPlain a) (hb : IsPlain b) : IsPlain (a ++ b) := by
  intro c hc
  rw [String.toList_append] at hc
  exact (List.mem_append.1 hc).elim (ha c) (hb c)

theorem IsPlain.join (hsep : IsPlain sep) (hparts : ∀ p ∈ parts, IsPlain p) :
    IsPlain (join sep parts) := by
  rw [IsPlain, Text.join, String.toList_ofList]
  exact forall_mem_joinWith hsep (List.forall_mem_map.2 hparts)

theorem isPlain_of_isBindingName (h : isBindingName a = true) : IsPlain a := by
  have hword : ∀ c ∈ ['"', '\'', '\\', '#', '\r', '\x00'], isWord c = false := by decide
  intro c hc hspecial
  have htrue := isWord_of_isBindingName h c hc
  rw [hword c hspecial] at htrue
  cases htrue

end Text

namespace Emission

open Text Expansion Position Literal

variable {d : Declaration} {c : Combination}

theorem toList_unlines (ls : List String) :
    (unlines ls).toList = ls.flatMap fun l => l.toList ++ ['\n'] := by
  rw [unlines, String.toList_join, List.flatMap_map]
  exact List.flatMap_congr fun l _ => String.toList_append

theorem unlines_append (ls ls' : List String) : unlines (ls ++ ls') = unlines ls ++ unlines ls' := by
  rw [← String.toList_inj, String.toList_append]
  simp only [toList_unlines, List.flatMap_append]

theorem unlines_cons (l : String) (ls : List String) : unlines (l :: ls) = l ++ "\n" ++ unlines ls := by
  rw [← String.toList_inj, String.toList_append, String.toList_append, toList_unlines, toList_unlines,
    List.flatMap_cons]
  rfl

theorem isPlain_unlines {ls : List String} (h : ∀ l ∈ ls, IsPlain l) : IsPlain (unlines ls) := by
  intro c hc
  rw [toList_unlines] at hc
  obtain ⟨l, hl, hc⟩ := List.mem_flatMap.1 hc
  rcases List.mem_append.1 hc with hc | hc
  · exact h l hl c hc
  · obtain rfl := List.mem_singleton.1 hc
    decide

/-! ### Signatures -/

theorem isPlain_stubType (t : ConcreteType) : IsPlain t.stub :=
  (by decide : ∀ word ∈ ConcreteType.stubWords, IsPlain word) _ t.stub_mem

theorem isPlain_typeText (a : Argument) : IsPlain (Stub.typeText a) := by
  have hall : ∀ x ∈ Stub.distinct (a.typeList.map (·.stub)), IsPlain x := by
    intro x hx
    obtain ⟨t, -, rfl⟩ := List.mem_map.1 (Stub.mem_distinct.1 hx)
    exact isPlain_stubType t
  rw [Stub.typeText]
  split
  · next heq => exact hall _ (by simp [heq])
  · exact ((by decide : IsPlain "Union[").append (IsPlain.join (by decide) hall)).append (by decide)

theorem isPlain_parameterText {a : Argument} (h : IsPlain a.name) :
    IsPlain (Stub.parameterText a) := by
  rw [Stub.parameterText]
  refine ((h.append (by decide)).append (isPlain_typeText a)).append ?_
  split <;> decide

namespace Stub

/-- The first line of a stub, a comment. -/
def title (s : Stub) : String := "# Generated by npegen from " ++ s.source ++ ". Do not edit."

/-- The lines of a stub from the second one to the end of the signature. -/
def signature (s : Stub) : List String :=
  [if s.usesUnion then "from typing import Any, Union" else "from typing import Any",
    "", "import numpy", "import scipy.sparse", "", "", "def " ++ s.name ++ "("] ++
  s.parameters.map (fun p => "    " ++ p ++ ",") ++ [") -> Any:"]

/-- What stands between the quotes of the docstring. -/
def docText (s : Stub) : String := "\n" ++ unlines (s.docLines.map docLine) ++ "    "

/-- The last line of a stub. -/
def lastLine : String := "    ...\n"

/-- What has to be read of a docstring: the code points of its text, and behind it the last line. -/
def docstring (s : Stub) : List Nat × List Char :=
  (s.docText.toList.map Char.toNat, '\n' :: lastLine.toList)

theorem render_eq (s : Stub) : s.render =
    s.title ++ "\n" ++ (unlines s.signature ++ (unlines s.docBlock ++ lastLine)) := by
  have hsplit : ∀ (l : String) (ls ps bs : List String) (r e : String),
      (l :: ls) ++ ps ++ [r] ++ bs ++ [e] = l :: ((ls ++ ps ++ [r]) ++ (bs ++ [e])) := by simp
  have hlines : s.render = unlines (s.title :: (s.signature ++ (s.docBlock ++ ["    ..."]))) :=
    congrArg unlines (hsplit _ _ _ _ _ _)
  have hlast : unlines ["    ..."] = lastLine := by decide
  rw [hlines, unlines_cons, unlines_append, unlines_append, hlast]

theorem unlines_docBlock {s : Stub} (h : s.docLines ≠ []) :
    unlines s.docBlock = "    " ++ ("\"\"\"" ++ s.docText ++ "\"\"\"\n") := by
  have hblock : s.docBlock = "    \"\"\"" :: (s.docLines.map docLine ++ ["    \"\"\""]) :=
    if_neg (by simpa using h)
  have hopen : "    \"\"\"" = "    " ++ "\"\"\"" := by decide
  have hclose : unlines ["    \"\"\""] = "    " ++ "\"\"\"\n" := by decide
  rw [hblock, unlines_cons, unlines_append, hclose, hopen, docText]
  simp only [String.append_assoc]

theorem isVerbatim_docLine (l : String) :
    IsVerbatim (docLine l).toList ↔ IsVerbatim l.toList := by
  rw [docLine]
  split
  · next hempty =>
    rw [beq_iff_eq.1 hempty]
  · rw [String.toList_append]
    exact isVerbatim_append_iff (by decide)

theorem isVerbatim_unlines_append {ls : List String} {r : List Char} :
    IsVerbatim ((unlines ls).toList ++ r) ↔ (∀ l ∈ ls, IsVerbatim l.toList) ∧ IsVerbatim r := by
  induction ls with
  | nil =>
    have hnil : (unlines []).toList = [] := rfl
    simp [hnil]
  | cons l ls ih =>
    have hlist : (unlines (l :: ls)).toList ++ r = l.toList ++ '\n' :: ((unlines ls).toList ++ r) := by
      rw [unlines_cons, String.toList_append, String.toList_append, List.append_assoc,
        List.append_assoc]
      rfl
    rw [hlist, isVerbatim_append_newline_iff, ih, List.forall_mem_cons, and_assoc]

/-- A docstring can be printed as it is if each of its lines can. -/
theorem isVerbatim_docText (s : Stub) :
    IsVerbatim s.docText.toList ↔ ∀ l ∈ s.docLines, IsVerbatim l.toList := by
  have hlist : s.docText.toList =
      '\n' :: ((unlines (s.docLines.map docLine)).toList ++ "    ".toList) := by
    rw [docText, String.toList_append, String.toList_append]
    rfl
  rw [hlist, isVerbatim_cons_iff (by decide), isVerbatim_unlines_append, and_iff_left (by decide),
    List.forall_mem_map]
  simp only [isVerbatim_docLine]

theorem getLast?_docText (s : Stub) : s.docText.toList.getLast? = some ' ' := by
  rw [docText, String.toList_append, List.getLast?_append]
  rfl

theorem toList_docText (s : Stub) : ("\"\"\"" ++ s.docText ++ "\"\"\"\n" ++ lastLine).toList =
    threeQuotes ++ (s.docText.toList ++ threeQuotes ++ '\n' :: lastLine.toList) := by
  simp only [String.toList_append, List.append_assoc]
  rfl

/-- The docstring is read back from its opening quotes on exactly if all its lines can be printed. -/
theorem textAt?_docText_iff (s : Stub) :
    textAt? ("\"\"\"" ++ s.docText ++ "\"\"\"\n" ++ lastLine).toList = some s.docstring ↔
      ∀ l ∈ s.docLines, IsVerbatim l.toList := by
  rw [toList_docText, docstring, textAt?_eq_iff (getLast?_docText s), isVerbatim_docText]

end Stub

/-! ### Lines of the docstring -/

theorem return_not_mem_linesOf {s : List Char} : ∀ l ∈ Text.linesOf s, '\r' ∉ l := by
  fun_induction Text.linesOf s with
  | case1 => simp
  | case2 r ih => exact List.forall_mem_cons.2 ⟨List.not_mem_nil, ih⟩
  | case3 c r _ _ ih => exact List.forall_mem_cons.2 ⟨List.not_mem_nil, ih⟩
  | case4 c r _ hbreak l ls heq ih =>
    rw [heq] at ih
    obtain ⟨hl, hls⟩ := List.forall_mem_cons.1 ih
    refine List.forall_mem_cons.2 ⟨?_, hls⟩
    rw [List.mem_cons, not_or]
    refine ⟨?_, hl⟩
    rintro rfl
    exact hbreak (by decide)
  | case5 c r _ hbreak heq ih =>
    refine List.forall_mem_singleton.2 ?_
    rw [List.mem_singleton]
    rintro rfl
    exact hbreak (by decide)

theorem return_not_mem_docLinesOf (doc : Option String) :
    ∀ l ∈ Stub.docLinesOf doc, '\r' ∉ l.toList := by
  unfold Stub.docLinesOf
  split
  · simp
  · split
    · simp
    · rw [List.forall_mem_append, lines, List.forall_mem_map]
      refine ⟨fun l hl => ?_, by simp⟩
      rw [String.toList_ofList]
      exact return_not_mem_linesOf l hl

/-- The lines that list the combinations have plain characters only. -/
theorem isPlain_listing (hset : Settled d.arguments)
    (hnames : ∀ n ∈ d.names, isBindingName n = true) :
    ∀ l ∈ listing (dispatchedNames d)
      ((table d).combinations.map fun c => restrict (table d).positions c.tags), IsPlain l := by
  have hdispatched : ∀ n ∈ dispatchedNames d, IsPlain n := by
    rw [dispatchedNames_eq_map hset, List.forall_mem_map]
    exact fun a ha => isPlain_of_isBindingName
      (hnames _ (List.mem_map_of_mem (List.mem_of_mem_filter ha)))
  have htags : ∀ c ∈ (table d).combinations, ∀ tag ∈ restrict (table d).positions c.tags,
      IsPlain tag := by
    intro c hc tag htag
    obtain ⟨p, hp, htag⟩ := mem_restrict.1 htag
    obtain ⟨i, a, hi, ha, rfl⟩ := (mem_positions hset).1 hp
    obtain ⟨type, htype, hnum⟩ := isHost_of_place hset hc hi ha
    obtain rfl : type.tag = tag := by simpa [elementIn_index, Combination.tags, htype] using htag
    have hall : ∀ type ∈ ConcreteType.numeric, IsPlain type.tag := by decide
    exact hall type (ConcreteType.mem_numeric hnum)
  unfold listing
  split
  · simp
  · rw [List.forall_mem_cons, List.map_map, List.forall_mem_map]
    refine ⟨?_, fun c hc => ?_⟩
    · exact ((by decide : IsPlain "Accepted combinations (").append
        (IsPlain.join (by decide) hdispatched)).append (by decide)
    · exact ((by decide : IsPlain "    (").append
        (IsPlain.join (by decide) (htags c hc))).append (by decide)

/-! ### Whole stubs -/

namespace Stub

variable {s : Stub}

/-- The characters of a docstring are those of its lines, but for its quotes and blanks. -/
theorem mem_unlines_docBlock {c : Char} (hc : c ∉ [' ', '"', '\n']) :
    c ∈ (unlines s.docBlock).toList ↔ ∃ l ∈ s.docLines, c ∈ l.toList := by
  have hline : ∀ l : String, c ∈ (docLine l).toList ++ ['\n'] ↔ c ∈ l.toList := by
    have hblanks : c ∉ "    ".toList ++ ['\n'] :=
      fun hmem => hc ((by decide : ∀ x ∈ "    ".toList ++ ['\n'], x ∈ [' ', '"', '\n']) c hmem)
    simp only [List.mem_append, not_or] at hblanks
    intro l
    rw [docLine, List.mem_append, or_iff_left hblanks.2]
    split
    · next hempty => rw [beq_iff_eq.1 hempty]
    · rw [String.toList_append, List.mem_append, or_iff_right hblanks.1]
  have hquotes : c ∉ "    \"\"\"".toList ++ ['\n'] := fun hmem =>
    hc ((by decide : ∀ x ∈ "    \"\"\"".toList ++ ['\n'], x ∈ [' ', '"', '\n']) c hmem)
  rw [toList_unlines, List.mem_flatMap, docBlock]
  split
  · next hempty => simp [List.isEmpty_iff.1 hempty]
  · constructor
    · rintro ⟨l, hl, hmem⟩
      rcases List.mem_append.1 hl with hl | hl
      · rcases List.mem_cons.1 hl with rfl | hl
        · exact absurd hmem hquotes
        · obtain ⟨l', hl', rfl⟩ := List.mem_map.1 (by simpa using hl)
          exact ⟨l', hl', (hline l').1 hmem⟩
      · obtain rfl := List.mem_singleton.1 hl
        exact absurd hmem hquotes
    · rintro ⟨l, hl, hmem⟩
      exact ⟨docLine l, by simp [List.mem_map_of_mem hl], (hline l).2 hmem⟩

theorem isPlain_signature (hname : IsPlain s.name) (hparameters : ∀ p ∈ s.parameters, IsPlain p) :
    IsPlain (unlines s.signature) := by
  have hdef : IsPlain ("def " ++ s.name ++ "(") :=
    ((by decide : IsPlain "def ").append hname).append (by decide)
  refine isPlain_unlines fun l hl => ?_
  rw [signature, List.mem_append, List.mem_append] at hl
  rcases hl with (hl | hl) | hl
  · have hfixed : ∀ l ∈ ["", "import numpy", "import scipy.sparse", "", ""], IsPlain l := by decide
    rcases List.mem_cons.1 hl with rfl | hl
    · split <;> decide
    · have hsplit : l ∈ ["", "import numpy", "import scipy.sparse", "", ""] ++
          ["def " ++ s.name ++ "("] := hl
      rcases List.mem_append.1 hsplit with hl | hl
      · exact hfixed l hl
      · exact List.mem_singleton.1 hl ▸ hdef
  · obtain ⟨p, hp, rfl⟩ := List.mem_map.1 hl
    exact ((by decide : IsPlain "    ").append (hparameters p hp)).append (by decide)
  · rw [List.mem_singleton.1 hl]
    decide

/-- A stub is read up to its docstring, or to its last line. -/
theorem sourceText?_render (rest : List Char)
    (hsource : '\n' ∉ s.source.toList ∧ '\r' ∉ s.source.toList)
    (hsignature : IsPlain (unlines s.signature)) (hlines : ∀ l ∈ s.docLines, '\r' ∉ l.toList)
    (hrest : (unlines s.docBlock ++ lastLine).toList = [' ', ' ', ' '] ++ ' ' :: rest) :
    sourceText? s.render =
      if '\x00' ∈ s.source.toList ∨ ∃ l ∈ s.docLines, '\x00' ∈ l.toList then none
      else firstText? .free rest := by
  obtain ⟨front, back, hopen, hclose, hfixed⟩ : ∃ front back,
      "# Generated by npegen from ".toList = '#' :: front ∧ ". Do not edit.".toList = back ∧
        ∀ c ∈ ['\n', '\r', '\x00'], c ∉ front ∧ c ∉ back :=
    ⟨" Generated by npegen from ".toList, _, by decide, rfl, by decide⟩
  have hlist : s.render.toList = '#' :: ((front ++ s.source.toList ++ back) ++
      '\n' :: (((unlines s.signature).toList ++ [' ', ' ', ' ']) ++ ' ' :: rest)) := by
    have hsplit : ∀ a b c x y : String, (a ++ b ++ c ++ "\n" ++ (x ++ y)).toList =
        a.toList ++ b.toList ++ c.toList ++ '\n' :: (x.toList ++ y.toList) := by simp
    have hrender := (congrArg String.toList (render_eq s)).trans (hsplit _ _ _ _ _)
    rw [hrender, hopen, hclose, hrest]
    simp only [List.append_assoc, List.cons_append]
  have hmem : ∀ c ∈ ['\r', '\x00'], c ∈ rest ↔ ∃ l ∈ s.docLines, c ∈ l.toList := by
    have hblank : ∀ c ∈ ['\r', '\x00'], c ∉ [' ', '"', '\n'] ∧ c ∉ lastLine.toList := by decide
    intro c hc
    obtain ⟨hnot, hlast⟩ := hblank c hc
    have hall : c ∈ (unlines s.docBlock ++ lastLine).toList ↔ c ∈ rest := by
      simp only [List.mem_cons, List.not_mem_nil, or_false, not_or] at hnot
      simp [hrest, hnot.1]
    rw [← hall, String.toList_append, List.mem_append, or_iff_left hlast, mem_unlines_docBlock hnot]
  have hreturn : '\r' ∉ rest := by
    rw [hmem _ (by simp)]
    rintro ⟨l, hl, hin⟩
    exact hlines l hl hin
  have hnul : '\x00' ∈ s.render.toList ↔
      '\x00' ∈ s.source.toList ∨ ∃ l ∈ s.docLines, '\x00' ∈ l.toList := by
    have hsign : '\x00' ∉ (unlines s.signature).toList := fun hin =>
      hsignature _ hin (by simp)
    rw [← hmem _ (by simp), hlist]
    simp [hfixed, hsign]
  rw [sourceText?_eq ⟨?_, ?_⟩ ?_ hreturn hlist]
  · exact if_congr hnul rfl rfl
  · simp [hfixed, hsource]
  · simp [hfixed, hsource]
  · intro c hc
    rcases List.mem_append.1 hc with hc | hc
    · have hnot := hsignature c hc
      simp only [List.mem_cons, List.not_mem_nil, or_false, not_or] at hnot ⊢
      exact ⟨hnot.1, hnot.2.1, hnot.2.2.2.1, hnot.2.2.2.2.1⟩
    · obtain rfl : c = ' ' := by simpa using hc
      decide

end Stub

/-! ### Documentation -/

/-- Whatever the author's documentation is, the rest of the docstring can be printed as it is. -/
theorem isVerbatim_docLines (hset : Settled d.arguments)
    (hnames : ∀ n ∈ d.names, isBindingName n = true) :
    (∀ l ∈ (stub d).docLines, IsVerbatim l.toList) ↔
      ∀ l ∈ Stub.docLinesOf d.doc, IsVerbatim l.toList := by
  rw [stub, List.forall_mem_append, and_iff_left]
  intro l hl
  refine isVerbatim_of_forall fun c hc hspecial => isPlain_listing hset hnames l hl c hc ?_
  have hsub : ∀ c ∈ ['"', '\\'], c ∈ ['"', '\'', '\\', '#', '\r', '\x00'] := by decide
  exact hsub c hspecial

/-- What the interpreter finds in a stub first. -/
theorem sourceText?_stub (hset : Settled d.arguments) (hnames : ∀ n ∈ d.names, isBindingName n = true)
    (hname : isBindingName d.name = true)
    (hsource : '\n' ∉ d.sourceName.toList ∧ '\r' ∉ d.sourceName.toList) :
    sourceText? (stub d).render =
      if '\x00' ∈ d.sourceName.toList ∨ ∃ l ∈ Stub.docLinesOf d.doc, '\x00' ∈ l.toList then none
      else if (stub d).docLines = [] then none
      else textAt? ("\"\"\"" ++ (stub d).docText ++ "\"\"\"\n" ++ Stub.lastLine).toList := by
  have hlisting := isPlain_listing hset hnames
  have hsignature : IsPlain (unlines (stub d).signature) := by
    refine Stub.isPlain_signature (isPlain_of_isBindingName hname) fun p hp => ?_
    obtain ⟨a, ha, rfl⟩ := List.mem_map.1 hp
    exact isPlain_parameterText (isPlain_of_isBindingName (hnames _ (List.mem_map_of_mem ha)))
  have hlines : ∀ l ∈ (stub d).docLines, '\r' ∉ l.toList :=
    List.forall_mem_append.2 ⟨return_not_mem_docLinesOf d.doc,
      fun l hl hmem => hlisting l hl _ hmem (by simp)⟩
  have hnul : (∃ l ∈ (stub d).docLines, '\x00' ∈ l.toList) ↔
      ∃ l ∈ Stub.docLinesOf d.doc, '\x00' ∈ l.toList := by
    constructor
    · rintro ⟨l, hl, hmem⟩
      rcases List.mem_append.1 hl with hl | hl
      · exact ⟨l, hl, hmem⟩
      · exact absurd (by simp) (hlisting l hl _ hmem)
    · rintro ⟨l, hl, hmem⟩
      exact ⟨l, List.mem_append_left _ hl, hmem⟩
  by_cases hnil : (stub d).docLines = []
  · have hblock : (stub d).docBlock = [] := if_pos (by simp [hnil])
    have hrest : (unlines (stub d).docBlock ++ Stub.lastLine).toList =
        [' ', ' ', ' '] ++ ' ' :: "...\n".toList := by
      rw [hblock]
      decide
    rw [if_pos hnil, Stub.sourceText?_render _ hsource hsignature hlines hrest]
    exact if_congr (or_congr_right hnul) rfl rfl
  · have hrest : (unlines (stub d).docBlock ++ Stub.lastLine).toList = [' ', ' ', ' '] ++
        ' ' :: ("\"\"\"" ++ (stub d).docText ++ "\"\"\"\n" ++ Stub.lastLine).toList := by
      rw [Stub.unlines_docBlock hnil, String.append_assoc, String.toList_append]
      rfl
    rw [if_neg hnil, Stub.sourceText?_render _ hsource hsignature hlines hrest, Stub.toList_docText,
      firstText?_threeQuotes]
    exact if_congr (or_congr_right hnul) rfl rfl

/-- The docstring of the stub of a scanned, resolved and expanded function. If there is anything to say,
the stub has a text between three quotes behind the signature, which is the author's documentation and
then the listed combinations. From its opening quotes on the interpreter reads this text as it is, with
the last line of the stub behind it, exactly if every line of the documentation can be printed as it is.
In the whole stub it is the first literal, unless the name of the source breaks the comment in the first
line or something is NUL. Without anything to say there is no literal. -/
theorem docstring_read_iff {text : String} {path : Option Path} {s : Scanned} {registry : Registry}
    {limit : Option Int} {t : DispatchTable} (hreg : registry.IsNumeric)
    (hscan : scan text path = .ok s) (hres : s.declaration.resolve registry = .ok d)
    (hexp : d.expand limit = .ok t) :
    ∃ stub, Stub.of ⟨d, t⟩ = .ok stub ∧
      stub.docLines = Stub.docLinesOf d.doc ++ listing (dispatchedNames d)
        (t.combinations.map fun c => restrict t.positions c.tags) ∧
      (stub.docLines ≠ [] →
        stub.render = stub.title ++ "\n" ++ (unlines stub.signature ++
          ("    " ++ ("\"\"\"" ++ stub.docText ++ "\"\"\"\n") ++ Stub.lastLine)) ∧
        (textAt? ("\"\"\"" ++ stub.docText ++ "\"\"\"\n" ++ Stub.lastLine).toList =
            some stub.docstring ↔ ∀ l ∈ Stub.docLinesOf d.doc, IsVerbatim l.toList) ∧
        ('\n' ∉ d.sourceName.toList ∧ '\r' ∉ d.sourceName.toList →
          (sourceText? stub.render = some stub.docstring ↔ '\x00' ∉ d.sourceName.toList ∧
            ∀ l ∈ Stub.docLinesOf d.doc, '\x00' ∉ l.toList ∧ IsVerbatim l.toList))) ∧
      (stub.docLines = [] → '\n' ∉ d.sourceName.toList ∧ '\r' ∉ d.sourceName.toList →
        sourceText? stub.render = none) := by
  have hset := settled_of_scan_resolve hreg hscan hres
  have hnames := isBindingName_of_scan_resolve hscan hres
  have hname := ((Scan.wellFormed_of_scan hscan).resolve hres).function
  obtain ⟨-, rfl⟩ := (expand_eq_ok_iff hset).1 hexp
  have hread := (Stub.textAt?_docText_iff (stub d)).trans (isVerbatim_docLines hset hnames)
  refine ⟨stub d, stub_eq hset, rfl, fun hne => ⟨?_, hread, fun hsource => ?_⟩, fun hnil hsource => ?_⟩
  · rw [← Stub.unlines_docBlock hne]
    exact Stub.render_eq (stub d)
  · rw [sourceText?_stub hset hnames hname hsource, if_neg hne]
    split
    · next hnul => grind
    · next hnul =>
      rw [hread]
      grind
  · rw [sourceText?_stub hset hnames hname hsource, if_pos hnil, ite_self]

/-- Two quotes in a row and a backslash that means nothing, in front of a combination. -/
theorem docstring_read_of_quotes :
    ∃ s d t stub, scan ("npe_function(f) npe_arg(x, dense_f32) npe_doc(\"say \\\"\\\" or \\\\d\") " ++
        "npe_begin_code()") = .ok s ∧
      s.declaration.resolve = .ok d ∧ d.expand none = .ok t ∧ Stub.of ⟨d, t⟩ = .ok stub ∧
      stub.docText = "\n    say \"\" or \\d\n\n    Accepted combinations (x):\n        (dense_f32)\n    " ∧
      sourceText? stub.render = some stub.docstring := by
  obtain ⟨s, d, hscan, hres, hvalue⟩ := exists_scan_resolve
    ("npe_function(f) npe_arg(x, dense_f32) npe_doc(\"say \\\"\\\" or \\\\d\") " ++
        "npe_begin_code()")
    (fun d => ((stub d).docText, d.sourceName, d.doc))
    ("\n    say \"\" or \\d\n\n    Accepted combinations (x):\n        (dense_f32)\n    ", "f",
      some "say \"\" or \\d") (by decide +kernel)
  rw [Prod.mk.injEq, Prod.mk.injEq] at hvalue
  obtain ⟨htext, hsource, hdoc⟩ := hvalue
  have hset := settled_of_scan_resolve Registry.standard_isNumeric hscan hres
  have hexp : d.expand none = .ok (table d) := (expand_eq_ok_iff hset).2 ⟨by simp, rfl⟩
  obtain ⟨_, hstub, -, hread, -⟩ :=
    docstring_read_iff Registry.standard_isNumeric hscan hres hexp
  obtain rfl := Except.ok.inj ((stub_eq hset).symm.trans hstub)
  have hne : (stub d).docLines ≠ [] := by
    rw [stub, hdoc]
    simp [Stub.docLinesOf]
  refine ⟨s, d, _, _, hscan, hres, hexp, hstub, htext, ((hread hne).2.2 ?_).2 ⟨?_, ?_⟩⟩
  · rw [hsource]
    decide
  · rw [hsource]
    decide
  · rw [hdoc]
    decide

/-- Three quotes in the documentation close the docstring, and what follows them is no longer text. -/
theorem docstring_ends_at_quotes :
    ∃ s d t stub, scan ("npe_function(f)\nnpe_doc(\"a\\\"\\\"\\\"b\")\n" ++
        "npe_begin_code()\nnpe_end_code()\n") = .ok s ∧
      s.declaration.resolve = .ok d ∧ d.expand none = .ok t ∧ Stub.of ⟨d, t⟩ = .ok stub ∧
      d.doc = some "a\"\"\"b" ∧ stub.docText = "\n    a\"\"\"b\n\n    " ∧
      sourceText? stub.render =
        some ("\n    a".toList.map Char.toNat, "b\n\n    \"\"\"\n    ...\n".toList) := by
  obtain ⟨s, d, hscan, hres, hvalue⟩ := exists_scan_resolve
    ("npe_function(f)\nnpe_doc(\"a\\\"\\\"\\\"b\")\nnpe_begin_code()\nnpe_end_code()\n")
    (fun d => (d.doc, (stub d).docText, sourceText? (stub d).render))
    (some "a\"\"\"b", "\n    a\"\"\"b\n\n    ",
      some ("\n    a".toList.map Char.toNat, "b\n\n    \"\"\"\n    ...\n".toList))
    (by decide +kernel)
  rw [Prod.mk.injEq, Prod.mk.injEq] at hvalue
  have hset := settled_of_scan_resolve Registry.standard_isNumeric hscan hres
  exact ⟨s, d, _, _, hscan, hres, (expand_eq_ok_iff hset).2 ⟨by simp, rfl⟩, stub_eq hset, hvalue⟩

end Emission

end Monomorph
