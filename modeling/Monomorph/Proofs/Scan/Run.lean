import Monomorph.Scan

/-!
The stretches of a scan as relations. A run through the declarations passes host tokens, lets every
declaring call extend the draft, and ends at the call that begins the body. `declarations` answers a
draft exactly when there is such a run to it, so what a scan keeps is an induction on runs. The
other three stretches are decomposed at their first marker.
-/

namespace Monomorph.Scan

open Text

/-- Tokens of the host language: none of them is a marker. -/
def HostTokens (ts : List Token) : Prop := ∀ t ∈ ts, Marker.ofToken? t = none

/-- What the call of a declaring marker makes of a draft. -/
inductive Draft.Declares (source : List Char) (d : Draft) : Marker → MarkerCall → Draft → Prop
  | argument {call : MarkerCall} {d' : Draft} (h : d.argument source call = .ok d') :
    d.Declares source .argument call d'
  | defaultArgument {call : MarkerCall} {d' : Draft} (h : d.defaultArgument source call = .ok d') :
    d.Declares source .defaultArgument call d'
  | doc {call : MarkerCall} {d' : Draft} (h : d.document call = .ok d') :
    d.Declares source .doc call d'

/-- A run through the declarations, from a draft and the tokens left to the finished draft, the
place where the body starts, and the tokens from there on. -/
inductive DeclarationRun (source : List Char) : Draft → List Token → Draft × Nat × List Token → Prop
  | host {d : Draft} {t : Token} {rest : List Token} {r : Draft × Nat × List Token}
    (plain : Marker.ofToken? t = none) (next : DeclarationRun source d rest r) :
    DeclarationRun source d (t :: rest) r
  | declare {d d' : Draft} {t : Token} {rest rest' : List Token} {m : Marker} {call : MarkerCall}
    {r : Draft × Nat × List Token} (marker : Marker.ofToken? t = some m)
    (read : MarkerCall.read t rest = .ok (call, rest'))
    (step : (d.keepGap source t.start).Declares source m call d')
    (next : DeclarationRun source { d' with gapStart := call.close.stop } rest' r) :
    DeclarationRun source d (t :: rest) r
  | begin {d : Draft} {t : Token} {rest rest' : List Token} {call : MarkerCall}
    (marker : Marker.ofToken? t = some .beginCode)
    (read : MarkerCall.read t rest = .ok (call, rest')) (empty : call.items = []) :
    DeclarationRun source d (t :: rest) (d.keepGap source t.start, call.close.stop, rest')

variable {path : Option Path} {source : List Char} {d : Draft} {ts rest : List Token}
  {r : Draft × Nat × List Token}

theorem declarationRun_of_declarations (h : declarations source d ts = .ok r) :
    DeclarationRun source d ts r := by
  fun_induction declarations source d ts with
  | case2 d t rest plain ih => exact .host plain (ih h)
  | case5 d t rest d₁ call rest' read _ resume marker ih =>
    cases hs : d₁.argument source call with
    | error b => simp [resume, hs] at h
    | ok d' => exact .declare marker read (.argument hs) (ih d' (by simpa [resume, hs] using h))
  | case6 d t rest d₁ call rest' read _ resume marker ih =>
    cases hs : d₁.defaultArgument source call with
    | error b => simp [resume, hs] at h
    | ok d' =>
      exact .declare marker read (.defaultArgument hs) (ih d' (by simpa [resume, hs] using h))
  | case7 d t rest d₁ call rest' read _ resume marker ih =>
    cases hs : d₁.document call with
    | error b => simp [resume, hs] at h
    | ok d' => exact .declare marker read (.doc hs) (ih d' (by simpa [resume, hs] using h))
  | case8 d t rest d₁ call rest' read _ empty marker _ =>
    cases h
    exact .begin marker read (List.isEmpty_iff.1 empty)
  | _ => cases h

theorem declarations_of_declarationRun (h : DeclarationRun source d ts r) :
    declarations source d ts = .ok r := by
  induction h with
  | host plain _ ih => rw [declarations]; simp only [plain, ih]
  | declare marker read step _ ih =>
    -- the match on the call binds its own equation, so it is split and not rewritten
    rw [declarations]
    cases step with
    | argument hs | defaultArgument hs | doc hs =>
      simp only [marker]
      split
      · next hb => rw [read] at hb; cases hb
      · next hc =>
        rw [read] at hc; cases hc
        simp only [hs, ih]
  | begin marker read empty =>
    rw [declarations]
    simp only [marker]
    split
    · next hb => rw [read] at hb; cases hb
    · next hc =>
      rw [read] at hc; cases hc
      simp only [empty, List.isEmpty_nil, if_true]

/-- Reading the declarations is running through them. -/
theorem declarations_eq_ok_iff : declarations source d ts = .ok r ↔ DeclarationRun source d ts r :=
  ⟨declarationRun_of_declarations, declarations_of_declarationRun⟩

/-- What every declaring call keeps, a run keeps. The invariant may not speak of the place up to
which host code is kept. -/
theorem DeclarationRun.keeps {P : Draft → Prop} (hrun : DeclarationRun source d ts r) (hd : P d)
    (hgap : ∀ d n, P d → P (d.keepGap source n))
    (hstep : ∀ d m call d', P d → Draft.Declares source d m call d' → P d')
    (hmove : ∀ d n, P d → P { d with gapStart := n }) : P r.1 := by
  induction hrun with
  | host _ _ ih => exact ih hd
  | declare _ _ step _ ih => exact ih (hmove _ _ (hstep _ _ _ _ (hgap _ _ hd) step))
  | begin => exact hgap _ _ hd

/-! ### The stretches around the declarations -/

theorem hostTokens_nil : HostTokens [] := fun _ h => absurd h (List.not_mem_nil)

theorem hostTokens_cons {t : Token} :
    HostTokens (t :: ts) ↔ Marker.ofToken? t = none ∧ HostTokens ts :=
  List.forall_mem_cons

/-- The first marker of the text opens the call that names the function. -/
theorem exists_of_preamble_ok (h : preamble path source ts = .ok (d, rest)) :
    ∃ gap t after call item name, ts = gap ++ t :: after ∧ HostTokens gap ∧
      Marker.ofToken? t = some .function ∧ MarkerCall.read t after = .ok (call, rest) ∧
      call.items = [item] ∧ readName source call "function name" item = .ok name ∧
      d = { path, name, location := ⟨path, t.line, t.column⟩, preamble := source.take t.start
            gapStart := call.close.stop } := by
  induction ts with
  | nil => simp [preamble] at h
  | cons t after ih =>
    rw [preamble] at h
    split at h
    · next plain =>
      obtain ⟨gap, t', after', call, item, name, rfl, hgap, hrest⟩ := ih h
      exact ⟨t :: gap, t', after', call, item, name, rfl, hostTokens_cons.2 ⟨plain, hgap⟩, hrest⟩
    · next marker =>
      cases hread : MarkerCall.read t after with
      | error b => simp [hread, bind, Except.bind] at h
      | ok c =>
        obtain ⟨call, rest'⟩ := c
        simp only [hread, bind, Except.bind] at h
        split at h
        · next item hitems =>
          cases hname : readName source call "function name" item with
          | error b => simp [hname] at h
          | ok name =>
            simp only [hname, Except.ok.injEq, Prod.mk.injEq] at h
            obtain ⟨rfl, rfl⟩ := h
            exact ⟨[], t, after, call, item, name, rfl, hostTokens_nil, marker, hread, hitems,
              hname, rfl⟩
        · cases h
    · cases h

theorem preamble_of_function {gap after : List Token} {t : Token} {call : MarkerCall}
    {item : List Token} {name : String} (hgap : HostTokens gap)
    (marker : Marker.ofToken? t = some .function)
    (read : MarkerCall.read t after = .ok (call, rest)) (items : call.items = [item])
    (hname : readName source call "function name" item = .ok name) :
    ∃ d, preamble path source (gap ++ t :: after) = .ok (d, rest) := by
  induction gap with
  | nil => simp [preamble, marker, read, items, hname, bind, Except.bind]
  | cons g gap ih =>
    obtain ⟨plain, hgap⟩ := hostTokens_cons.1 hgap
    simpa [preamble, plain] using ih hgap

/-- A body ends with the text, or at its first marker, which has to close it. -/
theorem body_ok_cases {e : BodyEnd} {moves : List Int} (h : body ts = .ok (e, moves)) :
    (HostTokens ts ∧ e = .unclosed) ∨
    ∃ gap t after call rest, ts = gap ++ t :: after ∧ HostTokens gap ∧
      Marker.ofToken? t = some .endCode ∧ MarkerCall.read t after = .ok (call, rest) ∧
      call.items = [] ∧ e = .closed t.start call.close.stop rest := by
  induction ts generalizing moves with
  | nil =>
    simp only [body, Except.ok.injEq, Prod.mk.injEq] at h
    exact .inl ⟨hostTokens_nil, h.1.symm⟩
  | cons t after ih =>
    rw [body] at h
    split at h
    · next marker =>
      split at h
      · cases h
      · next call rest hread =>
        split at h
        · next empty =>
          simp only [Except.ok.injEq, Prod.mk.injEq] at h
          exact .inr ⟨[], t, after, call, rest, rfl, hostTokens_nil, marker, hread,
            List.isEmpty_iff.1 empty, h.1.symm⟩
        · cases h
    · cases h
    · next plain =>
      split at h
      · cases h
      · next e' moves' hbody =>
        simp only [Except.ok.injEq, Prod.mk.injEq] at h
        obtain ⟨rfl, -⟩ := h
        rcases ih hbody with ⟨hhost, rfl⟩ | ⟨gap, t', after', call, rest, rfl, hgap, hrest⟩
        · exact .inl ⟨hostTokens_cons.2 ⟨plain, hhost⟩, rfl⟩
        · exact .inr ⟨t :: gap, t', after', call, rest, rfl, hostTokens_cons.2 ⟨plain, hgap⟩,
            hrest⟩

theorem body_of_hostTokens (h : HostTokens ts) : ∃ moves, body ts = .ok (.unclosed, moves) := by
  induction ts with
  | nil => exact ⟨[], rfl⟩
  | cons t ts ih =>
    obtain ⟨plain, h⟩ := hostTokens_cons.1 h
    obtain ⟨moves, hbody⟩ := ih h
    simp [body, plain, hbody]

theorem body_of_endCode {gap after : List Token} {t : Token} {call : MarkerCall}
    (hgap : HostTokens gap) (marker : Marker.ofToken? t = some .endCode)
    (read : MarkerCall.read t after = .ok (call, rest)) (empty : call.items = []) :
    ∃ moves, body (gap ++ t :: after) = .ok (.closed t.start call.close.stop rest, moves) := by
  induction gap with
  | nil => exact ⟨[], by simp [body, marker, read, empty]⟩
  | cons g gap ih =>
    obtain ⟨plain, hgap⟩ := hostTokens_cons.1 hgap
    obtain ⟨moves, hbody⟩ := ih hgap
    simp [body, plain, hbody]

theorem epilogue_eq_ok_iff : epilogue ts = .ok () ↔ HostTokens ts := by
  induction ts with
  | nil => exact ⟨fun _ => hostTokens_nil, fun _ => rfl⟩
  | cons t ts ih =>
    rw [epilogue, hostTokens_cons]
    cases hm : Marker.ofToken? t with
    | none => simpa [hm] using ih
    | some m => cases m <;> simp

/-! ### The whole scan -/

/-- Where the body stops in a source of some length. -/
def BodyEnd.stop (length : Nat) : BodyEnd → Nat
  | .unclosed => length
  | .closed stop _ _ => stop

/-- Where the host code after the body starts in a source of some length. -/
def BodyEnd.resume (length : Nat) : BodyEnd → Nat
  | .unclosed => length
  | .closed _ resume _ => resume

/-- The tokens after the body. -/
def BodyEnd.after : BodyEnd → List Token
  | .unclosed => []
  | .closed _ _ rest => rest

/-- The declaration that a finished draft, the place of its body and the end of the body make. -/
def Draft.finish (d : Draft) (path : Option Path) (source : List Char) (start : Nat) (e : BodyEnd)
    (moves : List Int) : Declaration where
  name := d.name
  arguments := d.arguments
  doc := d.doc
  path := path
  location := d.location
  moveLines := moves
  preamble := String.ofList d.preamble
  body := String.ofList (slice source start (e.stop source.length))
  epilogue := String.ofList (source.drop (e.resume source.length))

/-- A scan is a run through its four stretches. -/
theorem tokensToDeclaration_eq_ok_iff {decl : Declaration} {unclosed : Bool} :
    tokensToDeclaration path source ts = .ok (decl, unclosed) ↔
      ∃ d₀ ts₁ d start ts₂ e moves, preamble path source ts = .ok (d₀, ts₁) ∧
        DeclarationRun source d₀ ts₁ (d, start, ts₂) ∧ body ts₂ = .ok (e, moves) ∧
        HostTokens e.after ∧ decl = d.finish path source start e moves ∧
        unclosed = (e matches .unclosed) := by
  constructor
  · intro h
    unfold tokensToDeclaration at h
    cases hpre : preamble path source ts with
    | error b => simp [hpre, bind, Except.bind] at h
    | ok p =>
      cases hdecl : declarations source p.1 p.2 with
      | error b => simp [hpre, hdecl, bind, Except.bind] at h
      | ok q =>
        obtain ⟨d, start, ts₂⟩ := q
        cases hbody : body ts₂ with
        | error b => simp [hpre, hdecl, hbody, bind, Except.bind] at h
        | ok m =>
          refine ⟨p.1, p.2, d, start, ts₂, m.1, m.2, rfl, declarationRun_of_declarations hdecl,
            hbody, ?_⟩
          obtain ⟨e, moves⟩ := m
          simp only [hpre, hdecl, hbody, bind, Except.bind] at h
          cases e with
          | unclosed =>
            cases h
            exact ⟨hostTokens_nil, by simp [Draft.finish, BodyEnd.stop, BodyEnd.resume], rfl⟩
          | closed stop resume rest =>
            cases hepi : epilogue rest with
            | error b => simp [hepi] at h
            | ok u =>
              simp only [hepi] at h
              cases h
              exact ⟨epilogue_eq_ok_iff.1 hepi, rfl, rfl⟩
  · rintro ⟨d₀, ts₁, d, start, ts₂, e, moves, hpre, hrun, hbody, hhost, rfl, rfl⟩
    have hdecl := declarations_eq_ok_iff.2 hrun
    cases e with
    | unclosed =>
      simp [tokensToDeclaration, hpre, hdecl, hbody, bind, Except.bind, Draft.finish, BodyEnd.stop,
        BodyEnd.resume]
    | closed stop resume rest =>
      have hepi : epilogue rest = .ok () := epilogue_eq_ok_iff.2 hhost
      simp [tokensToDeclaration, hpre, hdecl, hbody, hepi, bind, Except.bind, Draft.finish,
        BodyEnd.stop, BodyEnd.resume]

/-- A text that scans has such a run over its tokens. -/
theorem exists_of_scan_ok {text : String} {s : Scanned} (h : scan text path = .ok s) :
    ∃ d₀ ts₁ d start ts₂ e moves,
      preamble path text.toList (Lexer.tokens text.toList) = .ok (d₀, ts₁) ∧
      DeclarationRun text.toList d₀ ts₁ (d, start, ts₂) ∧ body ts₂ = .ok (e, moves) ∧
      HostTokens e.after ∧ s.declaration = d.finish path text.toList start e moves := by
  unfold scan at h
  dsimp only at h
  split at h
  · next decl unclosed hok =>
    cases h
    obtain ⟨d₀, ts₁, d, start, ts₂, e, moves, hpre, hrun, hbody, hhost, hdecl, -⟩ :=
      tokensToDeclaration_eq_ok_iff.1 hok
    exact ⟨d₀, ts₁, d, start, ts₂, e, moves, hpre, hrun, hbody, hhost, hdecl⟩
  · cases h

end Monomorph.Scan
