import Monomorph.Proofs.Scan.Accepted

/-!
What the error of a rejected text is about. A scan stops at one marker: the calls before it begin a
sentence of the grammar, and the error stands at this marker or at a token of its call and names it.
Only a repeated argument is put down to `npe_arg` even where a call of `npe_default_arg` repeats it.
A text that ends too early is the one other way to be rejected; there no marker is to blame.
-/

namespace Monomorph

/-- Is the fault that an argument is declared again? -/
def Fault.isRepetition : Fault → Bool
  | duplicateArgument _ _ => true
  | _ => false

/-- The marker that a fault in a call of some marker is put down to. -/
def Marker.blamed (m : Marker) (fault : Fault) : Marker :=
  if fault.isRepetition then .argument else m

/-- The blame is about a call of the marker and stands at one of some tokens. -/
def Blame.Concerns (b : Blame) (m : Marker) (own : Token → Prop) : Prop :=
  ∃ fault u, b = .here fault u (m.blamed fault).spelling ∧ own u ∧
    (fault.isRepetition = true → m = .argument ∨ m = .defaultArgument)

theorem Marker.text_of_ofToken? {t : Token} {m : Marker} (h : ofToken? t = some m) :
    t.text = m.spelling := by
  unfold ofToken? at h
  split at h
  · have hfound := List.find?_some h
    exact (beq_iff_eq.1 hfound).symm
  · cases h

variable {b : Blame} {m : Marker} {own own' : Token → Prop}

/-- Any fault but a repeated argument is put down to the marker itself. -/
theorem Blame.concerns_here {fault : Fault} {u : Token} (hfault : fault.isRepetition = false)
    (hu : own u) : (Blame.here fault u m.spelling).Concerns m own :=
  ⟨fault, u, by rw [Marker.blamed, hfault]; rfl, hu, by simp [hfault]⟩

theorem Blame.Concerns.mono (h : b.Concerns m own) (himp : ∀ u, own u → own' u) :
    b.Concerns m own' := by
  obtain ⟨fault, u, hb, hu, hrep⟩ := h
  exact ⟨fault, u, hb, himp u hu, hrep⟩

/-! ### Calls that cannot be read -/

namespace MarkerCall

variable {marker t : Token} {p p' : Progress} {before ts rest : List Token} {call : MarkerCall}
  {source : List Char}

/-- A token of the call in parentheses with which some tokens start. Up to it all brackets nest, so
the last one of these tokens is the parenthesis that closes the call, or a bracket that does not
nest. -/
def InCall (ts : List Token) (u : Token) : Prop :=
  ∃ opener inner rest, ts = opener :: (inner ++ u :: rest) ∧ opener.isPunct "(" = true ∧
    (nesting inner).isSome = true

/-- The marker of a call, or a token of one of its items. -/
def Has (call : MarkerCall) (u : Token) : Prop := u = call.marker ∨ ∃ item ∈ call.items, u ∈ item

theorem Progress.step_failed (h : p.step marker t = .failed b) :
    ∃ fault, b = .here fault t marker.text ∧ fault.isRepetition = false := by
  unfold Progress.step at h
  repeat' split at h
  all_goals first | cases h; exact ⟨_, rfl, rfl⟩ | cases h

theorem Progress.Follows.step (hp : p.Follows before) (h : p.step marker t = .open p') :
    p'.Follows (before ++ [t]) := by
  by_cases hclose : p.Closes t
  · rw [step_of_closes hclose] at h
    repeat' split at h
    all_goals cases h
  · cases hnest : nest p.stack t with
    | none =>
      obtain ⟨b, hb⟩ := step_of_nest_none marker hnest hclose
      rw [hb] at h
      cases h
    | some stack =>
      cases hsep : separates before t with
      | false =>
        rw [step_of_nest hp hnest hsep] at h
        cases h
        exact hp.push hnest
      | true =>
        rw [(step_of_separates marker hp hsep).2.2] at h
        split at h
        · cases h
        · cases h
          exact hp.separate hsep

/-- Reading stops at the marker, or at a token up to which the brackets nest. -/
theorem readFrom_error (hm : marker.text = m.spelling) (hp : p.Follows before)
    (h : readFrom marker p ts = .error b) :
    b.Concerns m fun u => u = marker ∨
      ∃ inner rest, ts = inner ++ u :: rest ∧ (nesting (before ++ inner)).isSome = true := by
  induction ts generalizing p before with
  | nil =>
    cases h
    rw [hm]
    exact Blame.concerns_here rfl (.inl rfl)
  | cons t ts ih =>
    rw [readFrom] at h
    split at h
    · next p' hstep =>
      refine (ih (hp.step hstep) h).mono fun u hu => hu.imp_right ?_
      rintro ⟨inner, rest, rfl, hnest⟩
      exact ⟨t :: inner, rest, rfl, by simpa using hnest⟩
    · cases h
    · next hstep =>
      cases h
      obtain ⟨fault, rfl, hfault⟩ := Progress.step_failed hstep
      rw [hm]
      exact Blame.concerns_here hfault (.inr ⟨[], ts, rfl, by simp [hp.stack]⟩)

theorem read_error (hm : marker.text = m.spelling) (h : read marker ts = .error b) :
    b.Concerns m fun u => u = marker ∨ InCall ts u := by
  unfold read at h
  split at h
  · next opener rest =>
    split at h
    · next hopen =>
      have hstart : Progress.Follows {} [] := ⟨rfl, rfl⟩
      refine (readFrom_error hm hstart h).mono fun u hu => hu.imp_right ?_
      rintro ⟨inner, rest, rfl, hnest⟩
      exact ⟨opener, inner, rest, rfl, hopen, hnest⟩
    · cases h
      rw [hm]
      exact Blame.concerns_here rfl (.inl rfl)
  · cases h
    rw [hm]
    exact Blame.concerns_here rfl (.inl rfl)

/-- The items of a call are made of its tokens. -/
theorem inCall_of_has (h : read t ts = .ok (call, rest)) {u : Token} (hu : call.Has u) :
    u = t ∨ InCall ts u := by
  obtain ⟨hmarker, opener, inner, rfl, hopen, -, hnest, hitems, -⟩ := read_eq_ok_iff.1 h
  rcases hu with rfl | ⟨item, hitem, hu⟩
  · exact .inl hmarker
  · rw [hitems, itemsOf] at hitem
    split at hitem
    · cases hitem
    · obtain ⟨inner₁, inner₂, rfl⟩ := List.append_of_mem ((infix_of_mem_cut hitem).subset hu)
      refine .inr ⟨opener, inner₁, inner₂ ++ call.close :: rest, by simp, hopen, ?_⟩
      rw [nesting_append] at hnest
      cases hinner : nesting inner₁ with
      | none => simp [hinner] at hnest
      | some _ => rfl

end MarkerCall

/-! ### Calls that a handler refuses -/

namespace Scan

variable {path : Option Path} {source : List Char} {d d' : Draft} {calls more : List Call}
  {call : MarkerCall} {item ts rest : List Token} {name : String}

theorem readName_error {what : String} (hm : call.marker.text = m.spelling)
    (h : readName source call what item = .error b) :
    b.Concerns m fun u => u = call.marker ∨ u ∈ item := by
  unfold readName at h
  dsimp only at h
  rw [hm] at h
  repeat' split at h
  all_goals cases h
  all_goals exact Blame.concerns_here rfl (by simp)

theorem readConstraint_error {relation : Relation} {head : Token}
    (h : readConstraint source name relation item head = .error b) :
    b.Concerns .argument (· = head) := by
  unfold readConstraint at h
  repeat' split at h
  all_goals cases h
  all_goals exact Blame.concerns_here rfl rfl

theorem readTypes_error {alone : Bool} {items : List (List Token)}
    (h : readTypes source name alone items = .error b) :
    b.Concerns .argument fun u => ∃ item ∈ items, u ∈ item := by
  induction items with
  | nil => cases h
  | cons item items ih =>
    rw [readTypes] at h
    split at h
    · next head relation hhead =>
      obtain ⟨tail, rfl, -⟩ := isType_of_some 0 hhead
      have hmem : ∃ item ∈ (head :: tail) :: items, head ∈ item :=
        ⟨head :: tail, List.mem_cons_self, List.mem_cons_self⟩
      split at h
      · cases hread : readConstraint source name relation (head :: tail) head with
        | error b' =>
          rw [hread] at h
          cases h
          exact (readConstraint_error hread).mono fun u hu => hu ▸ hmem
        | ok c => simp [hread, Except.map] at h
      · cases h
        exact Blame.concerns_here rfl hmem
    · split at h
      · cases h
      · refine (ih h).mono fun u hu => ?_
        obtain ⟨item', hitem', hu⟩ := hu
        exact ⟨item', List.mem_cons_of_mem _ hitem', hu⟩

/-- A repeated argument is the one fault that is not put down to the marker of the call. -/
theorem Draft.add_error {a : Argument} {t : Token} (hm : m = .argument ∨ m = .defaultArgument)
    (h : d.add a t = .error b) : b.Concerns m (· = t) := by
  unfold Draft.add at h
  split at h
  · cases h
    exact ⟨_, t, rfl, rfl, fun _ => hm⟩
  · cases h

theorem Draft.argument_error (hm : call.marker.text = Marker.argument.spelling)
    (h : d.argument source call = .error b) : b.Concerns .argument call.Has := by
  unfold Draft.argument at h
  dsimp only at h
  split at h
  · cases h
    exact Blame.concerns_here rfl (.inl rfl)
  · split at h
    · next nameItem first more hitems =>
      have hname : ∀ u, u = call.marker ∨ u ∈ nameItem → call.Has u := fun u hu =>
        hu.imp_right fun hu => ⟨nameItem, by simp [hitems], hu⟩
      cases hread : readName source call "argument name" nameItem with
      | error b' =>
        simp only [hread, bind, Except.bind, Except.error.injEq] at h
        exact h ▸ (readName_error hm hread).mono hname
      | ok name =>
        cases htypes : readTypes source name more.isEmpty (first :: more) with
        | error b' =>
          simp only [hread, htypes, bind, Except.bind, Except.error.injEq] at h
          refine h ▸ (readTypes_error htypes).mono fun u hu => .inr ?_
          obtain ⟨item, hitem, hu⟩ := hu
          exact ⟨item, by simp [hitems, hitem], hu⟩
        | ok declared =>
          simp only [hread, htypes, bind, Except.bind] at h
          refine (Draft.add_error (.inl rfl) h).mono fun u hu => hname u ?_
          subst hu
          cases nameItem <;> simp
    · cases h
      exact Blame.concerns_here rfl (.inl rfl)

theorem Draft.defaultArgument_error (hm : call.marker.text = Marker.defaultArgument.spelling)
    (h : d.defaultArgument source call = .error b) : b.Concerns .defaultArgument call.Has := by
  unfold Draft.defaultArgument at h
  split at h
  · next nameItem type value hitems =>
    have hname : ∀ u, u = call.marker ∨ u ∈ nameItem → call.Has u := fun u hu =>
      hu.imp_right fun hu => ⟨nameItem, by simp [hitems], hu⟩
    cases hread : readName source call "argument name" nameItem with
    | error b' =>
      simp only [hread, bind, Except.bind, Except.error.injEq] at h
      exact h ▸ (readName_error hm hread).mono hname
    | ok name =>
      simp only [hread, bind, Except.bind] at h
      refine (Draft.add_error (.inr rfl) h).mono fun u hu => hname u ?_
      subst hu
      cases nameItem <;> simp
  · cases h
    exact Blame.concerns_here rfl (.inl rfl)

theorem Draft.document_error (h : d.document call = .error b) : b.Concerns .doc call.Has := by
  unfold Draft.document at h
  dsimp only at h
  repeat' split at h
  all_goals cases h
  all_goals exact Blame.concerns_here rfl (.inl rfl)

/-! ### Beginnings of sentences -/

/-- Calls with which the calls of a sentence begin. -/
def IsOpening (calls : List Call) : Prop :=
  ∃ name decls tail, IsName name ∧ Declarations decls ∧ (tail = [] ∨ tail = [(.endCode, [])]) ∧
    calls <+: (.function, [name]) :: (decls ++ (.beginCode, []) :: tail)

theorem Declarations.begin_not_mem (h : Declarations calls) : (.beginCode, []) ∉ calls := by
  intro hmem
  cases h.declaring _ hmem

/-- A sentence begins with nothing, with some declarations of a function, or with all of them and the
calls around the body. -/
theorem isOpening_iff : IsOpening calls ↔ calls = [] ∨ ∃ name decls, IsName name ∧
    Declarations decls ∧ (calls = (.function, [name]) :: decls ∨ ∃ tail,
      (tail = [] ∨ tail = [(.endCode, [])]) ∧
        calls = (.function, [name]) :: (decls ++ (.beginCode, []) :: tail)) := by
  constructor
  · rintro ⟨name, decls, tail, hname, hdecls, htail, hprefix⟩
    rcases List.prefix_cons_iff.1 hprefix with rfl | ⟨some, rfl, more, hmore⟩
    · exact .inl rfl
    · refine .inr ?_
      rcases List.append_eq_append_iff.1 hmore with ⟨left, rfl, -⟩ | ⟨part, rfl, hpart⟩
      · exact ⟨name, some, hname, hdecls.of_append, .inl rfl⟩
      · refine ⟨name, decls, hname, hdecls, ?_⟩
        cases part with
        | nil => exact .inl (by simp)
        | cons c part =>
          obtain ⟨rfl, rfl⟩ := List.cons.inj hpart
          refine .inr ⟨part, ?_, rfl⟩
          cases part with
          | nil => exact .inl rfl
          | cons c part => simp_all
  · rintro (rfl | ⟨name, decls, hname, hdecls, rfl | ⟨tail, htail, rfl⟩⟩)
    · exact ⟨[⟨.ident, "f", 0, 0, 0, 0⟩], [], [], ⟨_, rfl, rfl, by decide⟩, declarations_nil, .inl rfl,
        List.nil_prefix⟩
    · exact ⟨name, decls, [], hname, hdecls, .inl rfl,
        List.cons_prefix_cons.2 ⟨rfl, List.prefix_append _ _⟩⟩
    · exact ⟨name, decls, tail, hname, hdecls, htail, List.prefix_rfl⟩

variable {c : Call} {decls : List Call}

/-- The call that names the function. -/
def IsFunction (c : Call) : Prop := ∃ name, IsName name ∧ c = (.function, [name])

theorem IsOpening.first (h : IsOpening [c]) : IsFunction c := by
  rcases isOpening_iff.1 h with h | ⟨name, decls, hname, -, h | ⟨tail, -, h⟩⟩
  · cases h
  · exact ⟨name, hname, (List.cons.inj h).1⟩
  · simp at h

/-- After declarations comes one more declaration, or the body begins. -/
theorem IsOpening.declared (hdecls : Declarations decls)
    (h : IsOpening ((.function, [item]) :: (decls ++ [c]))) :
    Extends decls c ∨ c = (.beginCode, []) := by
  rcases isOpening_iff.1 h with h | ⟨name, decls', -, hdecls', h | ⟨tail, -, h⟩⟩
  · cases h
  · obtain ⟨-, rfl⟩ := List.cons.inj h
    exact .inl (declarations_concat_iff.1 hdecls').2
  · exact .inr ((List.append_cons_inj_of_notMem hdecls.begin_not_mem List.not_mem_nil).1
      (List.cons.inj h).2).2.1

/-- After the call that begins the body comes at most the one that closes it. -/
theorem IsOpening.begun {after : List Call}
    (h : IsOpening ((.function, [item]) :: (decls ++ (.beginCode, []) :: after))) :
    after = [] ∨ after = [(.endCode, [])] := by
  rcases isOpening_iff.1 h with h | ⟨name, decls', -, hdecls', h | ⟨tail, htail, h⟩⟩
  · cases h
  · obtain ⟨-, rfl⟩ := List.cons.inj h
    exact absurd (by simp) hdecls'.begin_not_mem
  · have hnot : (.beginCode, []) ∉ tail := by
      rcases htail with rfl | rfl <;> simp
    obtain ⟨-, -, rfl⟩ := (List.append_cons_inj_of_notMem hdecls'.begin_not_mem hnot).1
      (List.cons.inj h).2.symm
    exact htail

/-! ### The marker at which a scan stops -/

/-- Calls lead to a marker that the blame is about, and it stands at this marker or in its call. If
the call is well-formed, it is none of those that are allowed after the calls before it. -/
def StopsAt (allowed : Call → Prop) (calls : List Call) (ts : List Token) (b : Blame) : Prop :=
  ∃ t after m, Passed calls ts (t :: after) ∧ Marker.ofToken? t = some m ∧
    (∀ items close rest, MarkerCall.IsCall after items close rest → ¬ allowed (m, items)) ∧
    b.Concerns m fun u => u = t ∨ MarkerCall.InCall after u

variable {t : Token} {allowed : Call → Prop}

theorem Passed.stopsAt (h : Passed calls ts rest) (hstop : StopsAt allowed more rest b) :
    StopsAt allowed (calls ++ more) ts b := by
  obtain ⟨t, after, m, hpass, hstop⟩ := hstop
  exact ⟨t, after, m, h.trans hpass, hstop⟩

theorem StopsAt.mono {allowed' : Call → Prop} (h : StopsAt allowed calls ts b)
    (himp : ∀ c, allowed' c → allowed c) : StopsAt allowed' calls ts b := by
  obtain ⟨t, after, m, hpass, marker, hnot, hb⟩ := h
  exact ⟨t, after, m, hpass, marker, fun items close rest shape hc =>
    hnot items close rest shape (himp _ hc), hb⟩

/-- No call of the marker is allowed at all. -/
theorem stopsAt_marker (marker : Marker.ofToken? t = some m) (hnot : ∀ items, ¬ allowed (m, items))
    (hb : b.Concerns m (· = t)) : StopsAt allowed [] (t :: rest) b :=
  ⟨t, rest, m, .refl _, marker, fun items _ _ _ => hnot items, hb.mono fun _ hu => .inl hu⟩

/-- The call cannot be read. -/
theorem stopsAt_of_read (marker : Marker.ofToken? t = some m)
    (h : MarkerCall.read t rest = .error b) : StopsAt allowed [] (t :: rest) b := by
  refine ⟨t, rest, m, .refl _, marker, fun items close rest' shape => ?_,
    MarkerCall.read_error (Marker.text_of_ofToken? marker) h⟩
  have hread : MarkerCall.read t rest = .ok (⟨t, items, close⟩, rest') :=
    MarkerCall.read_eq_ok_iff.2 ⟨rfl, shape⟩
  rw [hread] at h
  cases h

/-- The call is refused on account of its tokens. -/
theorem stopsAt_of_has {after : List Token} (marker : Marker.ofToken? t = some m)
    (read : MarkerCall.read t rest = .ok (call, after)) (hnot : ¬ allowed (m, call.items))
    (hb : b.Concerns m call.Has) : StopsAt allowed [] (t :: rest) b := by
  refine ⟨t, rest, m, .refl _, marker, fun items close rest' shape => ?_,
    hb.mono fun _ hu => MarkerCall.inCall_of_has read hu⟩
  have hread : MarkerCall.read t rest = .ok (⟨t, items, close⟩, rest') :=
    MarkerCall.read_eq_ok_iff.2 ⟨rfl, shape⟩
  rw [hread] at read
  cases read
  exact hnot

theorem preamble_error (h : preamble path source ts = .error b) :
    b.fault = .functionMissing ∧ Interleaved [] ts ∨ StopsAt IsFunction [] ts b := by
  induction ts with
  | nil =>
    cases h
    exact .inl ⟨rfl, .done⟩
  | cons t ts ih =>
    rw [preamble] at h
    split at h
    · next plain =>
      exact (ih h).imp (And.imp_right (.host plain)) (Passed.host plain).stopsAt
    · next marker =>
      refine .inr ?_
      cases hread : MarkerCall.read t ts with
      | error b' =>
        simp only [hread, bind, Except.bind, Except.error.injEq] at h
        exact stopsAt_of_read marker (h ▸ hread)
      | ok p =>
        obtain ⟨call, rest⟩ := p
        have hm : call.marker.text = Marker.function.spelling := by
          rw [(MarkerCall.read_eq_ok_iff.1 hread).1, Marker.text_of_ofToken? marker]
        simp only [hread, bind, Except.bind] at h
        split at h
        · next item hitems =>
          split at h
          · next b' hname =>
            cases h
            refine stopsAt_of_has marker hread ?_ ((readName_error hm hname).mono fun u hu =>
              hu.imp_right fun hu => ⟨item, by simp [hitems], hu⟩)
            rintro ⟨name, hname', heq⟩
            obtain rfl : item = name := by simpa [hitems] using heq
            obtain ⟨_, hok⟩ := exists_readName_iff.2 hname'
            rw [hok] at hname
            cases hname
          · cases h
        · next hshape =>
          cases h
          refine stopsAt_of_has marker hread ?_ (Blame.concerns_here rfl (.inl rfl))
          rintro ⟨name, -, heq⟩
          exact hshape name (Prod.mk.inj heq).2
    · next hne marker =>
      cases h
      refine .inr (stopsAt_marker marker ?_ (Blame.concerns_here rfl rfl))
      rintro items ⟨name, -, heq⟩
      exact hne (Prod.mk.inj heq).1

/-- The declarations after some calls end without a body, or stop at a call that goes on with them in
no way. -/
def DeclarationsFail (calls : List Call) (ts : List Token) (b : Blame) : Prop :=
  ∃ decls, Declarations (calls ++ decls) ∧
    ((∃ f, b.fault = .beginMissing f) ∧ Interleaved decls ts ∨
      StopsAt (fun c => Extends (calls ++ decls) c ∨ c = (.beginCode, [])) decls ts b)

theorem declarationsFail_of_stopsAt (hcalls : Declarations calls)
    (hstop : StopsAt (fun c => Extends calls c ∨ c = (.beginCode, [])) [] ts b) :
    DeclarationsFail calls ts b :=
  ⟨[], by simpa using hcalls, .inr (by simpa using hstop)⟩

theorem Passed.declarationsFail (h : Passed more ts rest)
    (hfail : DeclarationsFail (calls ++ more) rest b) : DeclarationsFail calls ts b := by
  obtain ⟨decls, hdecls, hend⟩ := hfail
  rw [List.append_assoc] at hdecls hend
  exact ⟨more ++ decls, hdecls, hend.imp (And.imp_right h.interleaved) h.stopsAt⟩

theorem Draft.declares_argument_iff {d' : Draft} :
    d.Declares source .argument call d' ↔ d.argument source call = .ok d' := by
  constructor
  · intro h
    cases h with
    | argument h => exact h
  · exact .argument

theorem Draft.declares_defaultArgument_iff {d' : Draft} :
    d.Declares source .defaultArgument call d' ↔ d.defaultArgument source call = .ok d' := by
  constructor
  · intro h
    cases h with
    | defaultArgument h => exact h
  · exact .defaultArgument

theorem Draft.declares_doc_iff {d' : Draft} :
    d.Declares source .doc call d' ↔ d.document call = .ok d' := by
  constructor
  · intro h
    cases h with
    | doc h => exact h
  · exact .doc

/-- A handler refuses its call, or the declarations fail after it. -/
theorem declarationsFail_of_handler {handled : Except Blame Draft} {after : List Token}
    (marker : Marker.ofToken? t = some m) (read : MarkerCall.read t rest = .ok (call, after))
    (hm : m ≠ .beginCode) (hd : d.After calls) (hcalls : Declarations calls)
    (hdecode : Decodable (t :: rest))
    (haccepts : ∀ d', d.Declares source m call d' ↔ handled = .ok d')
    (hrefuses : ∀ b', handled = .error b' → b'.Concerns m call.Has)
    (h : (match handled with
      | .error b' => Except.error b'
      | .ok d' => declarations source { d' with gapStart := call.close.stop } after) = .error b)
    (ih : ∀ (d' : Draft) calls', Draft.After { d' with gapStart := call.close.stop } calls' →
      Declarations calls' → Decodable after →
      declarations source { d' with gapStart := call.close.stop } after = .error b →
      DeclarationsFail calls' after b) : DeclarationsFail calls (t :: rest) b := by
  cases hhandled : handled with
  | error b' =>
    rw [hhandled] at h
    cases h
    refine declarationsFail_of_stopsAt hcalls (stopsAt_of_has marker read ?_ (hrefuses _ hhandled))
    rintro (hextends | heq)
    · obtain ⟨d', hstep⟩ := (@Draft.After.exists_declares_iff source _ _ _ _ hd).2 hextends
      rw [(haccepts d').1 hstep] at hhandled
      cases hhandled
    · exact hm (Prod.mk.inj heq).1
  | ok d' =>
    rw [hhandled] at h
    have hstep := (haccepts d').2 hhandled
    have hshape := (MarkerCall.read_eq_ok_iff.1 read).2
    obtain ⟨hitems, hafter⟩ := Decodable.of_isCall
      (fun t ht => hdecode t (List.mem_cons_of_mem _ ht)) hshape
    have hextends := hd.exists_declares_iff.1 ⟨d', hstep⟩
    have hnext := hd.declares hstep hitems
    exact (Passed.marked marker hshape).declarationsFail
      (ih d' _ ⟨hnext.names, hnext.hasDefault, hnext.doc⟩
        (declarations_concat_iff.2 ⟨hcalls, hextends⟩) hafter h)

theorem declarations_error (h : declarations source d ts = .error b) : ∀ calls, d.After calls →
    Declarations calls → Decodable ts → DeclarationsFail calls ts b := by
  fun_induction declarations source d ts with
  | case1 d =>
    intro calls hd hcalls hdecode
    cases h
    exact ⟨[], by simpa using hcalls, .inl ⟨⟨_, rfl⟩, .done⟩⟩
  | case2 d t rest plain ih =>
    intro calls hd hcalls hdecode
    have hfail := ih h calls hd hcalls fun t ht => hdecode t (List.mem_cons_of_mem _ ht)
    exact (Passed.host plain).declarationsFail (by simpa using hfail)
  | case3 d t rest m marker b' read =>
    intro calls hd hcalls hdecode
    cases h
    exact declarationsFail_of_stopsAt hcalls (stopsAt_of_read marker read)
  | case4 d t rest call rest' read _ marker =>
    intro calls hd hcalls hdecode
    cases h
    refine declarationsFail_of_stopsAt hcalls (stopsAt_marker marker ?_ (Blame.concerns_here rfl rfl))
    rintro items (⟨hdecl, -⟩ | heq)
    · cases hdecl
    · cases heq
  | case5 d t rest d₁ call rest' read _ resume marker ih =>
    intro calls hd hcalls hdecode
    have hm : call.marker.text = Marker.argument.spelling := by
      rw [(MarkerCall.read_eq_ok_iff.1 read).1, Marker.text_of_ofToken? marker]
    exact declarationsFail_of_handler marker read (by simp) (hd.keepGap t.start) hcalls hdecode
      (fun d' => Draft.declares_argument_iff) (fun b' => Draft.argument_error hm) h
      fun d' calls' hd' hcalls' hdecode' h' => ih d' h' calls' hd' hcalls' hdecode'
  | case6 d t rest d₁ call rest' read _ resume marker ih =>
    intro calls hd hcalls hdecode
    have hm : call.marker.text = Marker.defaultArgument.spelling := by
      rw [(MarkerCall.read_eq_ok_iff.1 read).1, Marker.text_of_ofToken? marker]
    exact declarationsFail_of_handler marker read (by simp) (hd.keepGap t.start) hcalls hdecode
      (fun d' => Draft.declares_defaultArgument_iff) (fun b' => Draft.defaultArgument_error hm) h
      fun d' calls' hd' hcalls' hdecode' h' => ih d' h' calls' hd' hcalls' hdecode'
  | case7 d t rest d₁ call rest' read _ resume marker ih =>
    intro calls hd hcalls hdecode
    exact declarationsFail_of_handler marker read (by simp) (hd.keepGap t.start) hcalls hdecode
      (fun d' => Draft.declares_doc_iff) (fun b' => Draft.document_error) h
      fun d' calls' hd' hcalls' hdecode' h' => ih d' h' calls' hd' hcalls' hdecode'
  | case8 => cases h
  | case9 d t rest call rest' read _ hsome marker =>
    intro calls hd hcalls hdecode
    cases h
    refine declarationsFail_of_stopsAt hcalls
      (stopsAt_of_has marker read ?_ (Blame.concerns_here rfl (.inl rfl)))
    rintro (⟨hdecl, -⟩ | heq)
    · cases hdecl
    · exact hsome (List.isEmpty_iff.2 (Prod.mk.inj heq).2)
  | case10 d t rest call rest' read _ marker =>
    intro calls hd hcalls hdecode
    cases h
    refine declarationsFail_of_stopsAt hcalls (stopsAt_marker marker ?_ (Blame.concerns_here rfl rfl))
    rintro items (⟨hdecl, -⟩ | heq)
    · cases hdecl
    · cases heq

theorem body_error (h : body ts = .error b) : StopsAt (· = (.endCode, [])) [] ts b := by
  induction ts with
  | nil => cases h
  | cons t ts ih =>
    rw [body] at h
    split at h
    · next marker =>
      split at h
      · next hread =>
        cases h
        exact stopsAt_of_read marker hread
      · next call rest hread =>
        split at h
        · cases h
        · next hsome =>
          cases h
          refine stopsAt_of_has marker hread (fun heq => hsome ?_)
            (Blame.concerns_here rfl (.inl (MarkerCall.read_eq_ok_iff.1 hread).1.symm))
          simp [(Prod.mk.inj heq).2]
    · next hne marker =>
      cases h
      exact stopsAt_marker marker (fun items heq => hne (Prod.mk.inj heq).1)
        (Blame.concerns_here rfl rfl)
    · next plain =>
      split at h
      · next hbody =>
        cases h
        exact (Passed.host plain).stopsAt (ih hbody)
      · cases h

theorem epilogue_error (h : epilogue ts = .error b) : StopsAt (fun _ => False) [] ts b := by
  induction ts with
  | nil => cases h
  | cons t ts ih =>
    rw [epilogue] at h
    split at h
    · next marker =>
      cases h
      exact stopsAt_marker marker (fun _ => id) (Blame.concerns_here rfl rfl)
    · next marker =>
      cases h
      exact stopsAt_marker marker (fun _ => id) (Blame.concerns_here rfl rfl)
    · next plain => exact (Passed.host plain).stopsAt (ih h)

/-! ### Whole texts -/

/-- A scan that fails does so in the first stretch that fails. -/
theorem tokensToDeclaration_error_cases (h : tokensToDeclaration path source ts = .error b) :
    preamble path source ts = .error b ∨ ∃ d₀ ts₁, preamble path source ts = .ok (d₀, ts₁) ∧
      (declarations source d₀ ts₁ = .error b ∨ ∃ d start ts₂,
        DeclarationRun source d₀ ts₁ (d, start, ts₂) ∧ (body ts₂ = .error b ∨
          ∃ stop resume rest moves, body ts₂ = .ok (.closed stop resume rest, moves) ∧
            epilogue rest = .error b)) := by
  unfold tokensToDeclaration at h
  cases hpre : preamble path source ts with
  | error b' => exact .inl (by simpa [hpre, bind, Except.bind] using h)
  | ok p =>
    obtain ⟨d₀, ts₁⟩ := p
    refine .inr ⟨d₀, ts₁, rfl, ?_⟩
    cases hdecl : declarations source d₀ ts₁ with
    | error b' => exact .inl (by simpa [hpre, hdecl, bind, Except.bind] using h)
    | ok q =>
      obtain ⟨d, start, ts₂⟩ := q
      refine .inr ⟨d, start, ts₂, declarationRun_of_declarations hdecl, ?_⟩
      cases hbody : body ts₂ with
      | error b' => exact .inl (by simpa [hpre, hdecl, hbody, bind, Except.bind] using h)
      | ok r =>
        obtain ⟨e, moves⟩ := r
        cases e with
        | unclosed => simp [hpre, hdecl, hbody, bind, Except.bind] at h
        | closed stop resume rest =>
          refine .inr ⟨stop, resume, rest, moves, rfl, ?_⟩
          cases hepi : epilogue rest with
          | error b' => simpa [hpre, hdecl, hbody, hepi, bind, Except.bind] using h
          | ok u => simp [hpre, hdecl, hbody, hepi, bind, Except.bind] at h

/-- The declarations start behind the call that names the function, with nothing declared. -/
theorem exists_passed_of_preamble (h : preamble path source ts = .ok (d, rest)) :
    d.After [] ∧ ∃ item, IsName item ∧ Passed [(.function, [item])] ts rest := by
  obtain ⟨gap, t, after, call, item, name, rfl, hgap, marker, read, hitems, hname, rfl⟩ :=
    exists_of_preamble_ok h
  have hshape := (MarkerCall.read_eq_ok_iff.1 read).2
  rw [hitems] at hshape
  exact ⟨⟨by simp [Draft.names], by simp, by simp⟩, item, exists_readName_iff.1 ⟨name, hname⟩,
    hgap.passed.trans (.marked marker hshape)⟩

/-- A scan that fails comes to the end of the tokens too early, or stops at the first marker whose call
does not go on with the calls before it. -/
theorem tokensToDeclaration_error (hdecode : Decodable ts)
    (h : tokensToDeclaration path source ts = .error b) :
    ∃ calls, IsOpening calls ∧
      ((b.fault = .functionMissing ∨ ∃ f, b.fault = .beginMissing f) ∧ Interleaved calls ts ∨
        StopsAt (fun c => IsOpening (calls ++ [c])) calls ts b) := by
  rcases tokensToDeclaration_error_cases h with hpre | ⟨d₀, ts₁, hpre, hlater⟩
  · exact ⟨[], isOpening_iff.2 (.inl rfl), (preamble_error hpre).imp (And.imp_left .inl)
      fun hstop => hstop.mono fun c hc => hc.first⟩
  · obtain ⟨hstart, item, hitem, hfunction⟩ := exists_passed_of_preamble hpre
    have hdecode₁ : Decodable ts₁ := by
      obtain ⟨front, rfl, -⟩ := hfunction
      exact fun t ht => hdecode t (List.mem_append_right _ ht)
    rcases hlater with hdecl | ⟨d, start, ts₂, hrun, hlater⟩
    · obtain ⟨decls, hdecls, hend⟩ := declarations_error hdecl [] hstart declarations_nil hdecode₁
      refine ⟨(.function, [item]) :: decls, isOpening_iff.2 (.inr ⟨item, decls, hitem, hdecls, .inl rfl⟩),
        hend.imp ?_ fun hstop => ?_⟩
      · exact And.imp .inr hfunction.interleaved
      · exact (hfunction.stopsAt hstop).mono fun c hc => hc.declared hdecls
    · obtain ⟨decls, hdecls, hdeclared⟩ := exists_passed_of_run hrun hstart declarations_nil hdecode₁
      rcases hlater with hbody | ⟨stop, resume, rest, moves, hbody, hepi⟩
      · refine ⟨(.function, [item]) :: (decls ++ [(.beginCode, [])]),
          isOpening_iff.2 (.inr ⟨item, decls, hitem, hdecls, .inr ⟨[], .inl rfl, rfl⟩⟩), .inr ?_⟩
        have hstop := (hfunction.trans hdeclared).stopsAt (body_error hbody)
        rw [List.append_nil] at hstop
        refine hstop.mono fun c hc => ?_
        have hopening : IsOpening ((.function, [item]) :: (decls ++ (.beginCode, []) :: [c])) := by
          simpa using hc
        rcases hopening.begun with hnil | hend
        · cases hnil
        · exact (List.cons.inj hend).1
      · refine ⟨(.function, [item]) :: (decls ++ [(.beginCode, []), (.endCode, [])]),
          isOpening_iff.2 (.inr ⟨item, decls, hitem, hdecls, .inr ⟨[(.endCode, [])], .inr rfl, rfl⟩⟩),
          .inr ?_⟩
        rcases body_ok_cases hbody with ⟨-, hend⟩ | ⟨gap, t, after, call, rest, rfl, hgap, marker, read,
          hitems, hend⟩
        · cases hend
        · cases hend
          have hshape := (MarkerCall.read_eq_ok_iff.1 read).2
          rw [hitems] at hshape
          have hclosed := ((hfunction.trans hdeclared).trans hgap.passed).trans (.marked marker hshape)
          have hstop := hclosed.stopsAt (epilogue_error hepi)
          refine StopsAt.mono (by simpa using hstop) fun c hc => ?_
          have hopening : IsOpening ((.function, [item]) ::
              (decls ++ (.beginCode, []) :: [(.endCode, []), c])) := by
            simpa using hc
          rcases hopening.begun with hnil | hend
          · cases hnil
          · cases (List.cons.inj hend).2

/-- A rejected text is rejected because it ends too early, or because of the first marker at which its
calls cease to be the beginning of a sentence: no sentence goes on with a call of this marker as it
stands there. The error stands at the marker or at a token of its call and names the marker, save that a
default argument with a name that is taken is put down to `npe_arg`. -/
theorem scan_error_concerns {text : String} {e : DeclarationError} (h : scan text path = .error e) :
    ∃ calls, IsOpening calls ∧
      ((e.fault = .functionMissing ∨ ∃ f, e.fault = .beginMissing f) ∧
          Interleaved calls (Lexer.tokens text.toList) ∨
        ∃ t after m u, Passed calls (Lexer.tokens text.toList) (t :: after) ∧
          Marker.ofToken? t = some m ∧
          (∀ items close rest, MarkerCall.IsCall after items close rest →
            ¬ IsOpening (calls ++ [(m, items)])) ∧
          (u = t ∨ MarkerCall.InCall after u) ∧ e.location = ⟨path, u.line, u.column⟩ ∧
          e.construct = (m.blamed e.fault).spelling ∧
          (e.construct = t.text ↔ ¬ (m = .defaultArgument ∧ e.fault.isRepetition = true))) := by
  have hdecode : Decodable (Lexer.tokens text.toList) := fun t ht hstring =>
    StringLiteral.isSome_decodeToken? ht hstring
  unfold scan at h
  dsimp only at h
  split at h
  · cases h
  · next b herror =>
    cases h
    obtain ⟨calls, hopening, hend⟩ := tokensToDeclaration_error hdecode herror
    refine ⟨calls, hopening, hend.imp_right ?_⟩
    rintro ⟨t, after, m, hpass, marker, hnot, fault, u, rfl, hu, hrep⟩
    refine ⟨t, after, m, u, hpass, marker, hnot, hu, rfl, rfl, ?_⟩
    show (m.blamed fault).spelling = t.text ↔ ¬ (m = .defaultArgument ∧ fault.isRepetition = true)
    rw [Marker.text_of_ofToken? marker, Marker.blamed]
    cases hfault : fault.isRepetition with
    | false => simp
    | true =>
      -- only the two markers that declare arguments can repeat one
      rcases hrep hfault with rfl | rfl <;> simp [Marker.spelling]

/-- A bracket that closes none. -/
theorem scan_error_concerns_of_unbalanced :
    ∃ text e calls t after u, scan text = .error e ∧ e.fault = .unbalanced "]" "npe_arg" ∧
      Passed calls (Lexer.tokens text.toList) (t :: after) ∧
      (u = t ∨ MarkerCall.InCall after u) ∧ e.location = ⟨none, u.line, u.column⟩ ∧
      e.location = ⟨none, 2, 16⟩ ∧ e.construct = t.text := by
  obtain ⟨text, htext⟩ : ∃ text, text = "npe_function(f)\nnpe_arg(x, (int])" := ⟨_, rfl⟩
  have hvalue : (match scan text with | .error e => some e | .ok _ => none) =
      some ⟨.unbalanced "]" "npe_arg", ⟨none, 2, 16⟩, "npe_arg"⟩ := by
    rw [htext]
    decide +kernel
  cases hscan : scan text with
  | ok s => simp [hscan] at hvalue
  | error e =>
    obtain rfl : e = ⟨.unbalanced "]" "npe_arg", ⟨none, 2, 16⟩, "npe_arg"⟩ := by
      simpa [hscan] using hvalue
    obtain ⟨calls, -, hend | ⟨t, after, m, u, hpass, -, -, hu, hplace, -, hname⟩⟩ :=
      scan_error_concerns hscan
    · simp at hend
    · exact ⟨text, _, calls, t, after, u, hscan, rfl, hpass, hu, hplace, rfl,
        hname.2 (by simp [Fault.isRepetition])⟩

/-- The error about a default argument with a name that is taken stands in the call of `npe_default_arg`
and nowhere else, but does not name this marker. -/
theorem scan_puts_default_down_to_argument :
    ∃ text e calls t after u, scan text = .error e ∧
      Passed calls (Lexer.tokens text.toList) (t :: after) ∧
      Marker.ofToken? t = some .defaultArgument ∧ MarkerCall.InCall after u ∧
      e.location = ⟨none, u.line, u.column⟩ ∧
      (∀ v ∈ Lexer.tokens text.toList, v.line = u.line → v.column = u.column → v = u) ∧
      e.construct = "npe_arg" ∧ t.text = "npe_default_arg" := by
  obtain ⟨text, htext⟩ : ∃ text, text =
      "npe_function(f)\nnpe_arg(x, int)\nnpe_default_arg(x, int, 1)" := ⟨_, rfl⟩
  have hvalue : (match scan text with | .error e => some e | .ok _ => none) =
      some ⟨.duplicateArgument "x" 2, ⟨none, 3, 17⟩, "npe_arg"⟩ := by
    rw [htext]
    decide +kernel
  have htokens : Lexer.tokens text.toList = [⟨.ident, "npe_function", 0, 12, 1, 1⟩,
      ⟨.punct, "(", 12, 13, 1, 13⟩, ⟨.ident, "f", 13, 14, 1, 14⟩, ⟨.punct, ")", 14, 15, 1, 15⟩,
      ⟨.ident, "npe_arg", 16, 23, 2, 1⟩, ⟨.punct, "(", 23, 24, 2, 8⟩, ⟨.ident, "x", 24, 25, 2, 9⟩,
      ⟨.punct, ",", 25, 26, 2, 10⟩, ⟨.ident, "int", 27, 30, 2, 12⟩, ⟨.punct, ")", 30, 31, 2, 15⟩,
      ⟨.ident, "npe_default_arg", 32, 47, 3, 1⟩, ⟨.punct, "(", 47, 48, 3, 16⟩,
      ⟨.ident, "x", 48, 49, 3, 17⟩, ⟨.punct, ",", 49, 50, 3, 18⟩, ⟨.ident, "int", 51, 54, 3, 20⟩,
      ⟨.punct, ",", 54, 55, 3, 23⟩, ⟨.number, "1", 56, 57, 3, 25⟩, ⟨.punct, ")", 57, 58, 3, 26⟩] := by
    rw [htext]
    decide +kernel
  obtain ⟨calls, hpass⟩ : ∃ calls, Passed calls (Lexer.tokens text.toList)
      (⟨.ident, "npe_default_arg", 32, 47, 3, 1⟩ :: (Lexer.tokens text.toList).drop 11) := by
    rw [htokens]
    exact ⟨[(.function, [[_]]), (.argument, [[_], [_]])], (Passed.marked (by decide)
      ⟨_, [_], rfl, by decide, by decide, by decide, rfl, by decide⟩).trans <|
        .marked (by decide) ⟨_, [_, _, _], rfl, by decide, by decide, by decide, rfl, by decide⟩⟩
  cases hscan : scan text with
  | ok s => simp [hscan] at hvalue
  | error e =>
    obtain rfl : e = ⟨.duplicateArgument "x" 2, ⟨none, 3, 17⟩, "npe_arg"⟩ := by
      simpa [hscan] using hvalue
    refine ⟨text, _, calls, _, _, ⟨.ident, "x", 48, 49, 3, 17⟩, hscan, hpass, by decide, ?_, rfl, ?_,
      rfl, rfl⟩
    · rw [htokens]
      exact ⟨_, [], _, rfl, by decide, by decide⟩
    · rw [htokens]
      decide

end Scan

end Monomorph
