import Monomorph.Proofs.MarkerCall.Shape
import Monomorph.Proofs.Token.Clip

/-!
Tokens and the stretches of text between them. Tokens that follow each other stand in front of a rest,
at whose start the next ones are cut, and the text from one to the other is made of whole pieces. Only
their places tell where such a stretch begins and ends.
-/

namespace Monomorph.Lexer

open Text

/-- The tokens of a text that starts at a place, without its comments. -/
def tokensFrom (here : Place) (s : List Char) : List Token :=
  (place here (pieces s)).filter (·.kind != .comment)

/-- The classes and texts of lexemes other than comments. -/
def visible (ls : List (Token.Kind × List Char)) : List (Token.Kind × String) :=
  (ls.filter (·.1 != .comment)).map written

variable {here : Place} {s : List Char} {t : Token} {ts us : List Token}

theorem visible_append (ls ks : List (Token.Kind × List Char)) :
    visible (ls ++ ks) = visible ls ++ visible ks := by
  rw [visible, List.filter_append, List.map_append]
  rfl

theorem visible_token (h : t.kind ≠ .comment) :
    visible [(t.kind, t.text.toList)] = [t.content] := by
  simp [visible, h, written, Token.content]

theorem map_content_filter (ts : List Token) :
    (ts.filter (·.kind != .comment)).map Token.content =
      (ts.map Token.content).filter (·.1 != .comment) := by
  rw [List.filter_map]
  rfl

theorem visible_eq (ls : List (Token.Kind × List Char)) :
    visible ls = (ls.map written).filter (·.1 != .comment) := by
  rw [visible, List.filter_map]
  rfl

theorem map_content_tokens (s : List Char) (line : Int) :
    (tokens s line).map Token.content = visible (lexemes s) := by
  rw [tokens, map_content_filter, map_content_allTokens, visible_eq]

/-- Where the first token stands. Before it there are only blanks, comments and stray characters. -/
theorem exists_of_tokensFrom_cons (h : tokensFrom here s = t :: ts) :
    ∃ u ls r after, s = u ++ (t.text.toList ++ r) ∧ Passes u ls (t.text.toList ++ r) ∧
      visible ls = [] ∧ Cuts (.token t.kind) t.text.toList r ∧ t.kind ≠ .comment ∧
      t.start = here.offset + u.length ∧ t.stop = t.start + t.text.toList.length ∧
      after.offset = t.stop ∧ ts = tokensFrom after r := by
  induction s using pieces_induction generalizing here with
  | nil => simp [tokensFrom, pieces_nil, place] at h
  | cut p w rest hcut ih =>
    have hpass : ∀ {ls}, Passes w ls rest → visible ls = [] →
        tokensFrom (w.foldl Place.step here) rest = t :: ts →
        ∃ u ls r after, w ++ rest = u ++ (t.text.toList ++ r) ∧ Passes u ls (t.text.toList ++ r) ∧
          visible ls = [] ∧ Cuts (.token t.kind) t.text.toList r ∧ t.kind ≠ .comment ∧
          t.start = here.offset + u.length ∧ t.stop = t.start + t.text.toList.length ∧
          after.offset = t.stop ∧ ts = tokensFrom after r := by
      intro ls hw hls hrest
      obtain ⟨u, ks, r, after, rfl, hu, hks, hcut, hkind, hstart, hrest⟩ := ih hrest
      refine ⟨w ++ u, ls ++ ks, r, after, by rw [List.append_assoc], hw.append hu,
        by rw [visible_append, hls, hks]; rfl, hcut, hkind, ?_, hrest⟩
      rw [hstart, offset_foldl_step, List.length_append, Nat.add_assoc]
    rw [tokensFrom, hcut.pieces_eq] at h
    cases p with
    | blanks => exact hpass (.of_isBlank hcut.forall_isBlank rest) rfl h
    | stray =>
      have hone := Passes.piece (u := []) hcut (by simp) (.nil rest)
      rw [List.append_nil] at hone
      exact hpass hone rfl h
    | token kind =>
      rw [place] at h
      by_cases hkind : kind = .comment
      · subst hkind
        exact hpass (.token hcut) rfl (by simpa [tokensFrom] using h)
      · rw [List.filter_cons_of_pos (by simpa using hkind)] at h
        obtain ⟨rfl, rfl⟩ := List.cons.inj h
        have htext : (String.ofList w).toList = w := String.toList_ofList
        refine ⟨[], [], rest, _, by rw [htext]; rfl, .nil _, rfl, by rwa [htext], hkind, rfl, ?_,
          rfl, rfl⟩
        dsimp only
        rw [htext, offset_foldl_step]

/-- Consecutive tokens stand in front of a rest. -/
theorem exists_of_tokensFrom_append (h : tokensFrom here s = ts ++ us) :
    ∃ u ls r after, s = u ++ r ∧ Passes u ls r ∧ visible ls = ts.map Token.content ∧
      after.offset = here.offset + u.length ∧ us = tokensFrom after r := by
  induction ts generalizing here s with
  | nil => exact ⟨[], [], s, here, rfl, .nil s, rfl, rfl, h.symm⟩
  | cons t ts ih =>
    obtain ⟨u, ls, r, after, rfl, hu, hls, hcut, hkind, hstart, hstop, hafter, hrest⟩ :=
      exists_of_tokensFrom_cons h
    obtain ⟨v, ks, r', after', rfl, hv, hks, hafter', hrest'⟩ := ih hrest.symm
    have htoken := (hu.append (.token hcut)).append hv
    refine ⟨_, _, r', after', by simp, htoken, ?_, ?_, hrest'⟩
    · rw [visible_append, visible_append, hls, hks, visible_token hkind, List.map_cons]
      rfl
    · rw [hafter', hafter, hstop, hstart]
      simp only [List.length_append]
      omega

/-- The text from the first to the last of consecutive tokens: whole pieces, and the last token. -/
theorem exists_of_tokensFrom_item {item : List Token} {first last : Token}
    (h : tokensFrom here s = item ++ us) (hfirst : item.head? = some first)
    (hlast : item.getLast? = some last) :
    ∃ u x ls r, s = u ++ (x ++ (last.text.toList ++ r)) ∧ first.start = here.offset + u.length ∧
      last.stop = first.start + (x ++ last.text.toList).length ∧
      Passes x ls (last.text.toList ++ r) ∧
      visible (ls ++ [(last.kind, last.text.toList)]) = item.map Token.content ∧
      Cuts (.token last.kind) last.text.toList r ∧ last.kind ≠ .comment ∧
      ∀ c ∈ (x ++ last.text.toList).head?, isBlank c = false := by
  obtain ⟨ts, rfl⟩ := List.head?_eq_some_iff.1 hfirst
  obtain ⟨u, -, r, after, rfl, -, -, hcut, hkind, hstart, hstop, hafter, hrest⟩ :=
    exists_of_tokensFrom_cons h
  have hhead : ∀ v : List Char, ∀ c ∈ (first.text.toList ++ v).head?, isBlank c = false := by
    intro v c hc
    rw [List.head?_append_of_ne_nil _ hcut.1] at hc
    exact hcut.not_isBlank_head (by simp) c hc
  rcases List.eq_nil_or_concat ts with rfl | ⟨mid, t, rfl⟩
  · obtain rfl : first = last := by simpa using hlast
    refine ⟨u, [], [], r, rfl, hstart, hstop, .nil _, visible_token hkind, hcut, hkind,
      ?_⟩
    have hsolid := hhead []
    rwa [List.append_nil] at hsolid
  · rw [List.concat_eq_append, ← List.cons_append, List.getLast?_concat] at hlast
    obtain rfl := Option.some.inj hlast
    have hmid : tokensFrom after r = mid ++ (t :: us) := by simpa using hrest.symm
    obtain ⟨v, ks, r', after', rfl, hv, hks, hoffset, hnext⟩ := exists_of_tokensFrom_append hmid
    obtain ⟨v', ks', r'', after'', rfl, hv', hks', hcut', hkind', hstart', hstop', -, -⟩ :=
      exists_of_tokensFrom_cons hnext.symm
    have hpass : Passes (first.text.toList ++ (v ++ v')) ([(first.kind, first.text.toList)] ++
        (ks ++ ks')) (t.text.toList ++ r'') :=
      .append (.token (by simpa using hcut)) (hv.append hv')
    refine ⟨u, _, _, r'', by simp, hstart, ?_, hpass, ?_, hcut', hkind', ?_⟩
    · rw [hstop', hstart', hoffset, hafter, hstop]
      simp only [List.length_append]
      omega
    · simp only [visible_append, visible_token hkind, visible_token hkind', hks, hks',
        List.append_nil, List.concat_eq_append, List.map_cons, List.map_append, List.map_nil]
      simp
    · rw [List.append_assoc]
      exact hhead _

/-- A call ends where its last parenthesis stops. -/
theorem exists_of_isCall {items : List (List Token)} {close : Token}
    (h : MarkerCall.IsCall (tokensFrom here s) items close us) :
    ∃ u r after, s = u ++ r ∧ close.stop = here.offset + u.length ∧ after.offset = close.stop ∧
      us = tokensFrom after r := by
  obtain ⟨opener, inner, htokens, -⟩ := h
  rw [← List.cons_append] at htokens
  obtain ⟨u, -, r, after, rfl, -, -, hafter, hrest⟩ := exists_of_tokensFrom_append htokens
  obtain ⟨v, -, r', after', rfl, -, -, -, -, hstart, hstop, hafter', hrest'⟩ :=
    exists_of_tokensFrom_cons hrest.symm
  refine ⟨u ++ (v ++ close.text.toList), r', after', by simp, ?_, hafter', hrest'⟩
  rw [hstop, hstart, hafter]
  simp only [List.length_append]
  omega

end Monomorph.Lexer
