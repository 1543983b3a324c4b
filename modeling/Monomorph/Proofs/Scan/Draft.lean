import Mathlib.Data.List.Basic
import Mathlib.Data.List.Nodup
import Monomorph.Proofs.Scan.Run

/-!
What the declaring calls do to a draft. Each handler succeeds under a stated condition and then
changes the draft in one way; every argument that a draft holds has a name of its own and the
position at which it was declared.
-/

namespace Monomorph.Scan

variable {path : Option Path} {source : List Char} {d d' : Draft} {call : MarkerCall}

/-- The names of the arguments declared so far. -/
def Draft.names (d : Draft) : List String := d.arguments.map (·.name)

/-- Host code between two calls changes the preamble only. -/
theorem Draft.keepGap_eq (d : Draft) (source : List Char) (n : Nat) :
    ∃ p, d.keepGap source n = { d with preamble := p } := by
  unfold Draft.keepGap
  dsimp only
  split
  · exact ⟨d.preamble, rfl⟩
  · exact ⟨_, rfl⟩

/-- A name is read from an item that is one identifier, if it can be bound. -/
theorem readName_eq_ok_iff {what name : String} {item : List Token} :
    readName source call what item = .ok name ↔
      ∃ t, item = [t] ∧ t.kind = .ident ∧ Text.isBindingName t.text = true ∧ t.text = name := by
  unfold readName
  dsimp only
  split
  · next t =>
    by_cases hkind : t.kind = .ident
    · by_cases hname : Text.isBindingName t.text = true
      · simp [hkind, hname]
      · simp [hkind, hname]
    · simp [hkind]
  · next t rest hrest =>
    simp only [reduceCtorEq, false_iff]
    rintro ⟨t', h, -⟩
    cases h
    exact hrest rfl
  · simp

theorem Draft.add_eq_ok_iff {a : Argument} {t : Token} :
    d.add a t = .ok d' ↔ a.name ∉ d.names ∧ d' = { d with arguments := d.arguments ++ [a] } := by
  unfold Draft.add Draft.names
  split
  · next first hfirst =>
    have hmem : a.name ∈ d.arguments.map (·.name) :=
      List.mem_map.2 ⟨first, List.mem_of_find?_eq_some hfirst, by simpa using List.find?_some hfirst⟩
    simp [hmem]
  · next hnone =>
    have hfresh : a.name ∉ d.arguments.map (·.name) := by
      rw [List.mem_map]
      rintro ⟨b, hb, hname⟩
      exact List.find?_eq_none.1 hnone b hb (by simpa using hname)
    simp [hfresh, eq_comm]

/-- The argument that an `npe_arg` call declares as the next one of a draft. -/
def Draft.typed (d : Draft) (call : MarkerCall) (name : String) (declared : TypeSource) : Argument where
  name := name
  position := d.arguments.length
  source := declared
  default := none
  location := ⟨d.path, call.marker.line, call.marker.column⟩

theorem Draft.argument_eq_ok_iff :
    d.argument source call = .ok d' ↔ d.hasDefault = false ∧
      ∃ nameItem first more name declared, call.items = nameItem :: first :: more ∧
        readName source call "argument name" nameItem = .ok name ∧
        readTypes source name more.isEmpty (first :: more) = .ok declared ∧ name ∉ d.names ∧
        d' = { d with arguments := d.arguments ++ [d.typed call name declared] } := by
  unfold Draft.argument
  dsimp only
  cases hdef : d.hasDefault with
  | true => simp
  | false =>
    rcases hitems : call.items with _ | ⟨nameItem, _ | ⟨first, more⟩⟩
    · simp
    · simp
    · cases hname : readName source call "argument name" nameItem with
      | error b => simp [hname, bind, Except.bind]
      | ok name =>
        cases htypes : readTypes source name more.isEmpty (first :: more) with
        | error b => simp [hname, htypes, bind, Except.bind]
        | ok declared =>
          have hadd := @Draft.add_eq_ok_iff d d' (d.typed call name declared)
            (nameItem.headD call.marker)
          simpa [hname, htypes, bind, Except.bind, Draft.typed, hdef] using hadd

/-- The argument that an `npe_default_arg` call declares as the next one of a draft. -/
def Draft.defaulted (d : Draft) (source : List Char) (call : MarkerCall) (name : String)
    (type value : List Token) : Argument where
  name := name
  position := d.arguments.length
  source := .listed [span source type]
  default := some (span source value)
  location := ⟨d.path, call.marker.line, call.marker.column⟩

theorem Draft.defaultArgument_eq_ok_iff :
    d.defaultArgument source call = .ok d' ↔
      ∃ nameItem type value name, call.items = [nameItem, type, value] ∧
        readName source call "argument name" nameItem = .ok name ∧ name ∉ d.names ∧
        d' = { d with hasDefault := true
                      arguments := d.arguments ++ [d.defaulted source call name type value] } := by
  unfold Draft.defaultArgument
  dsimp only
  rcases hitems : call.items with _ | ⟨nameItem, _ | ⟨type, _ | ⟨value, _ | ⟨more, rest⟩⟩⟩⟩
  · simp
  · simp
  · simp
  · cases hname : readName source call "argument name" nameItem with
    | error b => simp [hname, bind, Except.bind]
    | ok name =>
      have hadd := @Draft.add_eq_ok_iff { d with hasDefault := true } d'
        (d.defaulted source call name type value) (nameItem.headD call.marker)
      simpa [hname, bind, Except.bind, Draft.defaulted, Draft.names] using hadd
  · simp

theorem Draft.document_eq_ok_iff :
    d.document call = .ok d' ↔ d.doc = none ∧
      ∃ item, call.items = [item] ∧ (∀ t ∈ item, t.isString = true) ∧
        d' = { d with doc := StringLiteral.decode? item } := by
  unfold Draft.document
  dsimp only
  cases hdoc : d.doc with
  | some _ => simp
  | none =>
    rcases hitems : call.items with _ | ⟨item, _ | ⟨more, rest⟩⟩
    · simp
    · by_cases hall : ∀ t ∈ item, t.isString = true
      · have hdone : item.all (·.isString) = true := List.all_eq_true.2 hall
        simpa [hdone] using ⟨fun h => ⟨hall, h.symm⟩, fun h => h.2.symm⟩
      · have hdone : item.all (·.isString) = false := by simpa [List.all_eq_true] using hall
        simpa [hdone] using fun h => absurd h hall
    · simp

/-! ### Names and positions -/

/-- Every argument of the draft has a name of its own that can be bound, and its place as its
position. -/
structure Draft.Ordered (d : Draft) : Prop where
  bound : ∀ n ∈ d.names, Text.isBindingName n = true
  distinct : d.names.Nodup
  positions : d.arguments.map (·.position) = List.range d.arguments.length

theorem Draft.Ordered.snoc {a : Argument} (hd : d.Ordered) (hbound : Text.isBindingName a.name = true)
    (hname : a.name ∉ d.names) (hpos : a.position = d.arguments.length)
    (hargs : d'.arguments = d.arguments ++ [a]) : d'.Ordered := by
  refine ⟨?_, ?_, ?_⟩
  · intro n hn
    rw [Draft.names, hargs, List.map_append, List.mem_append, List.map_singleton,
      List.mem_singleton] at hn
    rcases hn with hn | rfl
    · exact hd.bound n hn
    · exact hbound
  · rw [Draft.names, hargs, List.map_append, List.nodup_append]
    refine ⟨hd.distinct, by simp, ?_⟩
    rintro n hn _ hm rfl
    rw [List.map_singleton, List.mem_singleton] at hm
    exact hname (hm ▸ hn)
  · rw [hargs, List.map_append, hd.positions, List.length_append, List.range_add]
    simp [hpos]

theorem Draft.Ordered.declares {m : Marker} (hd : d.Ordered)
    (h : d.Declares source m call d') : d'.Ordered := by
  cases h with
  | argument h =>
    obtain ⟨-, _, _, _, name, declared, -, hread, -, hname, rfl⟩ := Draft.argument_eq_ok_iff.1 h
    obtain ⟨t, -, -, hbound, rfl⟩ := readName_eq_ok_iff.1 hread
    exact hd.snoc (a := d.typed call t.text declared) hbound hname rfl rfl
  | defaultArgument h =>
    obtain ⟨_, type, value, name, -, hread, hname, rfl⟩ := Draft.defaultArgument_eq_ok_iff.1 h
    obtain ⟨t, -, -, hbound, rfl⟩ := readName_eq_ok_iff.1 hread
    exact hd.snoc (a := d.defaulted source call t.text type value) hbound hname rfl rfl
  | doc h =>
    obtain ⟨-, _, -, -, rfl⟩ := Draft.document_eq_ok_iff.1 h
    exact ⟨hd.bound, hd.distinct, hd.positions⟩

theorem Draft.Ordered.run {ts : List Token} {r : Draft × Nat × List Token} (hd : d.Ordered)
    (h : DeclarationRun source d ts r) : r.1.Ordered := by
  refine h.keeps hd (fun d n hd => ?_) (fun _ _ _ _ hd => hd.declares)
    fun d n hd => ⟨hd.bound, hd.distinct, hd.positions⟩
  obtain ⟨p, hp⟩ := d.keepGap_eq source n
  rw [hp]
  exact ⟨hd.bound, hd.distinct, hd.positions⟩

/-- The function of a scanned declaration has a name that can be bound. -/
theorem isBindingName_function_of_scan {text : String} {s : Scanned} (h : scan text path = .ok s) :
    Text.isBindingName s.declaration.name = true := by
  obtain ⟨d₀, ts₁, d, start, ts₂, e, moves, hpre, hrun, -, -, hdecl⟩ := exists_of_scan_ok h
  obtain ⟨_, _, _, _, _, _, -, -, -, -, -, hname, rfl⟩ := exists_of_preamble_ok hpre
  obtain ⟨t, -, -, hbound, rfl⟩ := readName_eq_ok_iff.1 hname
  have hkept : d.name = t.text := by
    refine hrun.keeps (P := fun d => d.name = t.text) rfl (fun d n hd => ?_) (fun d m call d' hd step => ?_)
      fun _ _ hd => hd
    · obtain ⟨p, hp⟩ := d.keepGap_eq text.toList n
      rw [hp]
      exact hd
    · cases step with
      | argument step =>
        obtain ⟨-, _, _, _, _, _, -, -, -, -, rfl⟩ := Draft.argument_eq_ok_iff.1 step
        exact hd
      | defaultArgument step =>
        obtain ⟨_, _, _, _, -, -, -, rfl⟩ := Draft.defaultArgument_eq_ok_iff.1 step
        exact hd
      | doc step =>
        obtain ⟨-, _, -, -, rfl⟩ := Draft.document_eq_ok_iff.1 step
        exact hd
  rw [hdecl, Draft.finish, hkept]
  exact hbound

/-- The arguments of a scanned declaration are those of an ordered draft. -/
theorem exists_ordered_of_scan {text : String} {s : Scanned} (h : scan text path = .ok s) :
    ∃ d : Draft, d.Ordered ∧ s.declaration.arguments = d.arguments := by
  obtain ⟨d₀, ts₁, d, start, ts₂, e, moves, hpre, hrun, -, -, hdecl⟩ := exists_of_scan_ok h
  obtain ⟨_, _, _, _, _, _, -, -, -, -, -, -, rfl⟩ := exists_of_preamble_ok hpre
  refine ⟨d, Draft.Ordered.run ⟨?_, by simp [Draft.names], rfl⟩ hrun, by rw [hdecl]; rfl⟩
  intro n hn
  simp [Draft.names] at hn

end Monomorph.Scan
