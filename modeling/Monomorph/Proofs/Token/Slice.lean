import Monomorph.Proofs.Token.Clip
import Monomorph.Proofs.Token.Tighten

/-!
Slices of a text. A piece does not look back, and behind it nothing is needed to recognise it that a
text would lose by ending there: what is cut off leaves no longer run of blanks, joins no sign, and
closes no literal. So the pieces of a slice between two pieces are those that the text has there, and
with them the tokens, with comments or without, are the same up to where they are counted from.
-/

namespace Monomorph

/-- The class, the text and the span of a token, counted from some characters further left. -/
def Token.extent (n : Nat) (t : Token) : Token.Kind × String × Nat × Nat :=
  (t.kind, t.text, t.start + n, t.stop + n)

namespace Lexer

open Text

variable {s w r x : List Char} {p : Piece} {ps qs : List (Piece × List Char)} {t u : Token}
  {before between after ts : List Token} {here there : Place}

/-! ### Pieces -/

/-- The characters of consecutive pieces. -/
def source (ps : List (Piece × List Char)) : List Char := ps.flatMap (·.2)

theorem source_append : source (ps ++ qs) = source ps ++ source qs := List.flatMap_append

theorem source_pieces (s : List Char) : source (pieces s) = s := flatMap_pieces s

/-- A run of blanks is one in front of any text that starts with no blank. -/
theorem Cuts.blanks (h : Cuts .blanks w r) (hx : ∀ c ∈ x.head?, isBlank c = false) :
    Cuts .blanks w x := by
  have hall := h.forall_isBlank
  obtain ⟨c, w, rfl⟩ := List.exists_cons_of_ne_nil h.1
  obtain ⟨hc, hw⟩ := List.forall_mem_cons.1 hall
  refine ⟨h.1, ?_⟩
  rw [List.cons_append, piece_of_isBlank hc, List.length_cons, length_takeWhile_append_iff.2 ⟨hw, hx⟩]

/-- A piece is the same if the text ends somewhere behind it. -/
theorem Cuts.of_append (h : Cuts p w (r ++ x)) : Cuts p w r := by
  by_cases hp : p = .blanks
  · subst hp
    refine h.blanks fun c hc => h.not_isBlank_next c ?_
    rw [List.head?_append, hc]
    rfl
  · have hmeets : Meets (r ++ x) r := by
      cases r with
      | nil => exact .ends x
      | cons c r => exact .same c (r ++ x) r
    have hthin : Thin (w ++ (r ++ x)) (w ++ r) := by
      simpa using ((Thin.done x).append r).append w
    exact h.congr hp hmeets hthin.rawStringLength?_eq_none
      fun quote hquote => hthin.quotedLength?_eq_none hquote

/-- The pieces of a text from one of them on are those that the text has there. -/
theorem pieces_back (h : pieces s = ps ++ qs) : pieces (source qs) = qs := by
  induction s using pieces_induction generalizing ps with
  | nil =>
    obtain ⟨-, rfl⟩ := List.append_eq_nil_iff.1 (h.symm.trans pieces_nil)
    exact pieces_nil
  | cut p w r hcut ih =>
    cases ps with
    | nil =>
      rw [List.nil_append] at h
      rw [← h, source_pieces]
    | cons q ps =>
      rw [hcut.pieces_eq] at h
      exact ih (List.cons.inj h).2

/-- The pieces of a text up to one of them are those that the text has there. -/
theorem pieces_front (h : pieces s = ps ++ qs) : pieces (source ps) = ps := by
  induction s using pieces_induction generalizing ps with
  | nil =>
    obtain ⟨rfl, -⟩ := List.append_eq_nil_iff.1 (h.symm.trans pieces_nil)
    exact pieces_nil
  | cut p w r hcut ih =>
    cases ps with
    | nil => exact pieces_nil
    | cons q ps =>
      rw [hcut.pieces_eq, List.cons_append] at h
      obtain ⟨rfl, hrest⟩ := List.cons.inj h
      have hr : r = source ps ++ source qs := by
        rw [← source_append, ← hrest, source_pieces]
      rw [hr] at hcut
      exact hcut.of_append.pieces_eq.trans (by rw [ih hrest])

/-! ### Tokens of pieces -/

/-- Tokens are counted from where the first piece stands. -/
theorem map_extent_place {m n : Nat} (h : here.offset + m = there.offset + n)
    (ps : List (Piece × List Char)) :
    (place here ps).map (·.extent m) = (place there ps).map (·.extent n) := by
  induction ps generalizing here there with
  | nil => rfl
  | cons q ps ih =>
    obtain ⟨p, w⟩ := q
    have hafter : (w.foldl Place.step here).offset + m = (w.foldl Place.step there).offset + n := by
      rw [offset_foldl_step, offset_foldl_step]
      omega
    cases p with
    | token kind =>
      rw [place, place, List.map_cons, List.map_cons, ih hafter]
      simp only [Token.extent, h, hafter]
    | blanks => exact ih hafter
    | stray => exact ih hafter

/-- A token among those of consecutive pieces is one of the pieces, and stands behind the others. -/
theorem exists_of_place_eq (h : place here ps = before ++ t :: after) :
    ∃ qs rs next, ps = qs ++ (.token t.kind, t.text.toList) :: rs ∧ place here qs = before ∧
      t.start = here.offset + (source qs).length ∧ t.stop = t.start + t.text.toList.length ∧
      next.offset = t.stop ∧ place next rs = after := by
  induction ps generalizing here before with
  | nil => simp [place] at h
  | cons q ps ih =>
    obtain ⟨p, w⟩ := q
    have hbehind : ∀ {before : List Token},
        place (w.foldl Place.step here) ps = before ++ t :: after →
        ∃ qs rs next, ps = qs ++ (.token t.kind, t.text.toList) :: rs ∧
          place (w.foldl Place.step here) qs = before ∧
          t.start = here.offset + (source ((p, w) :: qs)).length ∧
          t.stop = t.start + t.text.toList.length ∧ next.offset = t.stop ∧ place next rs = after := by
      intro before h
      obtain ⟨qs, rs, next, hps, hqs, hstart, hrest⟩ := ih h
      refine ⟨qs, rs, next, hps, hqs, ?_, hrest⟩
      rw [hstart, offset_foldl_step, source, source, List.flatMap_cons, List.length_append,
        Nat.add_assoc]
    cases p with
    | token kind =>
      rw [place] at h
      cases before with
      | nil =>
        obtain ⟨rfl, rfl⟩ := List.cons.inj h
        have htext : (String.ofList w).toList = w := String.toList_ofList
        refine ⟨[], ps, _, by rw [htext]; rfl, rfl, rfl, ?_, rfl, rfl⟩
        dsimp only
        rw [htext, offset_foldl_step]
      | cons b before =>
        obtain ⟨rfl, hrest⟩ := List.cons.inj h
        obtain ⟨qs, rs, next, rfl, hqs, hstart⟩ := hbehind hrest
        exact ⟨(.token kind, w) :: qs, rs, next, rfl, by rw [place, hqs], hstart⟩
    | blanks | stray =>
      obtain ⟨qs, rs, next, rfl, hqs, hstart⟩ := hbehind h
      exact ⟨_ :: qs, rs, next, rfl, hqs, hstart⟩

/-! ### Tokens of slices -/

theorem slice_of_append {u v w : List Char} : slice (u ++ (v ++ w)) u.length (u ++ v).length = v := by
  rw [slice, List.drop_left, List.length_append, Nat.add_sub_cancel_left, List.take_left]

/-- The tokens of a text up to one of them. -/
theorem allTokens_slice_zero (h : allTokens s = before ++ t :: after) :
    allTokens (slice s 0 t.start) = before := by
  obtain ⟨ps, rs, -, hps, hbefore, hstart, -⟩ := exists_of_place_eq h
  have hs : s = [] ++ (source ps ++ source ((.token t.kind, t.text.toList) :: rs)) := by
    rw [List.nil_append, ← source_append, ← hps, source_pieces]
  have hslice : slice s 0 t.start = source ps := by
    rw [hs, hstart]
    simpa using slice_of_append (u := []) (v := source ps)
  rw [hslice, allTokens, pieces_front hps, hbefore]

/-- Where the first of some tokens of a text starts, or where the text ends if there is none. -/
def upTo (s : List Char) (rest : List Token) : Nat := (rest.head?.map (·.start)).getD s.length

/-- A stretch behind a token: the text in it, and the pieces of that text, whose tokens are counted
from where the token stops. -/
structure Between (s : List Char) (t : Token) (between : List Token) (stop : Nat) (x : List Char) :
    Prop where
  text : ∃ v w, s = v ++ (x ++ w) ∧ v.length = t.stop ∧ stop = (v ++ x).length
  placed : ∃ next, next.offset = t.stop ∧ place next (pieces x) = between

theorem Between.slice_eq {stop : Nat} (h : Between s t between stop x) :
    slice s t.stop stop = x := by
  obtain ⟨⟨v, w, rfl, hv, rfl⟩, -⟩ := h
  rw [← hv]
  exact slice_of_append

/-- Consecutive tokens stand in a stretch between the token before them and the one behind. -/
theorem exists_between (h : allTokens s = before ++ t :: (between ++ after)) :
    ∃ x, Between s t between (upTo s after) x := by
  obtain ⟨qs, rs, next, hps, -, hstart, hstop, hnext, hrs⟩ := exists_of_place_eq h
  have hps' : pieces s = (qs ++ [(.token t.kind, t.text.toList)]) ++ rs := by
    rw [hps, List.append_assoc]
    rfl
  have hs : s = source (qs ++ [(.token t.kind, t.text.toList)]) ++ source rs := by
    rw [← source_append, ← hps', source_pieces]
  have hv : (source (qs ++ [(.token t.kind, t.text.toList)])).length = t.stop := by
    rw [hstop, hstart, source_append, List.length_append, Nat.zero_add]
    simp [source]
  cases after with
  | nil =>
    rw [List.append_nil] at hrs
    refine ⟨source rs, ⟨_, [], by rwa [List.append_nil], hv, ?_⟩, next, hnext, ?_⟩
    · rw [← hs]
      rfl
    · rw [pieces_back hps', hrs]
  | cons u after =>
    obtain ⟨rs, rest, -, rfl, rfl, hstart', -⟩ := exists_of_place_eq hrs
    refine ⟨source rs, ⟨_, _, by rwa [← source_append], hv, ?_⟩, next, hnext, ?_⟩
    · rw [List.length_append, hv, ← hnext]
      exact hstart'
    · rw [pieces_front (pieces_back hps')]

/-- The tokens of a text behind one of them and up to another one or to the end. -/
theorem allTokens_slice (h : allTokens s = before ++ t :: (between ++ after)) :
    (allTokens (slice s t.stop (upTo s after))).map (·.extent t.stop) = between.map (·.extent 0) := by
  obtain ⟨x, hx⟩ := exists_between h
  obtain ⟨next, hnext, hbetween⟩ := hx.placed
  rw [hx.slice_eq, ← hbetween, allTokens]
  exact map_extent_place (by rw [hnext, Nat.zero_add, Nat.add_zero]) _

/-! ### With comments or without -/

/-- Is a token kept, comments or none? -/
def isKept (comments : Bool) (t : Token) : Bool := comments || t.kind != .comment

/-- The tokens of a text, its comments among them or not. -/
def tokensWith (comments : Bool) (s : List Char) : List Token :=
  (allTokens s).filter (isKept comments)

theorem tokensWith_true (s : List Char) : tokensWith true s = allTokens s :=
  List.filter_eq_self.2 fun _ _ => rfl

theorem tokensWith_false (s : List Char) : tokensWith false s = tokens s := rfl

variable {comments : Bool}

/-- What is filtered splits as what it is filtered from, right before the first one kept. -/
theorem exists_of_filter_eq_append {p : Token → Bool} {us : List Token}
    (h : ts.filter p = before ++ us) :
    ∃ before' us', ts = before' ++ us' ∧ before'.filter p = before ∧ us'.filter p = us ∧
      us'.head? = us.head? := by
  cases us with
  | nil => exact ⟨ts, [], by simp, by simpa using h, rfl, rfl⟩
  | cons t us =>
    obtain ⟨before', rest, rfl, rfl, hrest⟩ := List.filter_eq_append_iff.1 h
    obtain ⟨between, us', rfl, hbetween, ht, rfl⟩ := List.filter_eq_cons_iff.1 hrest
    refine ⟨before' ++ between, t :: us', by rw [List.append_assoc], ?_, List.filter_cons_of_pos ht,
      rfl⟩
    rw [List.filter_append, List.filter_eq_nil_iff.2 hbetween, List.append_nil]

/-- A token among those of a text stands among all of them, and what stands behind it splits alike. -/
theorem exists_of_tokensWith_eq
    (h : tokensWith comments s = before ++ t :: (between ++ after)) :
    ∃ before' between' after', allTokens s = before' ++ t :: (between' ++ after') ∧
      before'.filter (isKept comments) = before ∧
      between'.filter (isKept comments) = between ∧
      after'.head? = after.head? := by
  obtain ⟨before', rest, hs, hbefore, hrest, hhead⟩ := exists_of_filter_eq_append h
  obtain ⟨rest, rfl⟩ := List.head?_eq_some_iff.1 hhead
  have hkeep : isKept comments t = true :=
    (List.mem_filter.1 (hrest ▸ List.mem_cons_self : t ∈ List.filter _ (t :: rest))).2
  rw [List.filter_cons_of_pos hkeep] at hrest
  obtain ⟨between', after', rfl, hbetween, -, hafter⟩ :=
    exists_of_filter_eq_append (List.cons.inj hrest).2
  exact ⟨before', between', after', hs, hbefore, hbetween, hafter⟩

/-- Tokens that stand alike elsewhere do so if the comments are left out of both. -/
theorem map_extent_filter {m n : Nat} {us : List Token}
    (h : ts.map (·.extent m) = us.map (·.extent n)) :
    (ts.filter (isKept comments)).map (·.extent m) =
      (us.filter (isKept comments)).map (·.extent n) := by
  have hfilter := congrArg (List.filter fun e => comments || e.1 != .comment) h
  rwa [List.filter_map, List.filter_map] at hfilter

theorem tokensWith_slice_zero (h : tokensWith comments s = before ++ t :: after) :
    tokensWith comments (slice s 0 t.start) = before := by
  obtain ⟨before', _, _, hall, rfl, -⟩ :=
    exists_of_tokensWith_eq (show tokensWith comments s = before ++ t :: ([] ++ after) from h)
  rw [tokensWith, allTokens_slice_zero hall]

theorem tokensWith_slice (h : tokensWith comments s = before ++ t :: (between ++ after)) :
    (tokensWith comments (slice s t.stop (upTo s after))).map (·.extent t.stop) =
      between.map (·.extent 0) := by
  obtain ⟨before', between', after', hall, -, rfl, hafter⟩ := exists_of_tokensWith_eq h
  have hstop : upTo s after' = upTo s after := by rw [upTo, hafter, upTo]
  rw [← hstop]
  exact map_extent_filter (allTokens_slice hall)

end Lexer

end Monomorph
