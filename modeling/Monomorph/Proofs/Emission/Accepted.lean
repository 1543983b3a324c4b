import Monomorph.Proofs.Emission.Table

/-!
The rows that are listed as accepted. The dispatcher and the stub list the same rows, namely the
restrictions of all combinations to the dispatched positions. In a table that was expanded from a
text a look-up succeeds on exactly the tags with a listed restriction, and it finds the one
combination with it.
-/

namespace Monomorph.Emission

open Text Position Expansion

variable {d : Declaration} {t : DispatchTable} {c : Combination}

/-- The lines of a stub that list rows under the names of the dispatched arguments. Without any
dispatched argument there is nothing to list. -/
def listing (names : List String) (rows : List (List String)) : List String :=
  if names = [] then []
  else ("Accepted combinations (" ++ join ", " names ++ "):") ::
    rows.map fun row => "    (" ++ join ", " row ++ ")"

/-- The stub of a declaration, if every dispatched argument is numeric. -/
def stub (d : Declaration) : Stub where
  source := d.sourceName
  name := d.name
  parameters := d.arguments.map Stub.parameterText
  docLines := Stub.docLinesOf d.doc ++ listing (dispatchedNames d)
    ((table d).combinations.map fun c => restrict (table d).positions c.tags)

/-- The stub that is emitted for a settled declaration. -/
theorem stub_eq (hset : Settled d.arguments) : Stub.of ⟨d, table d⟩ = .ok (stub d) := by
  have hlines : Stub.combinationLines (table d) = .ok (listing (dispatchedNames d)
      ((table d).combinations.map fun c => restrict (table d).positions c.tags)) := by
    unfold Stub.combinationLines listing
    simp only [dispatchedNames_eq hset, requireTexts_text, acceptedRows_eq (regular_table hset), bind,
      Except.bind, pure, Except.pure, List.isEmpty_iff, List.map_eq_nil_iff]
    split <;> rfl
  unfold Stub.of
  simp only [hlines, bind, Except.bind, pure, Except.pure]
  rfl

/-- The stub of a settled declaration lists the rows that its dispatcher lists. -/
theorem stub_docLines (hset : Settled d.arguments) :
    ∃ stub, Stub.of ⟨d, table d⟩ = .ok stub ∧
      stub.docLines = Stub.docLinesOf d.doc ++ listing (dispatchedNames d)
        ((table d).combinations.map fun c => restrict (table d).positions c.tags) :=
  ⟨stub d, stub_eq hset, rfl⟩

/-- Tags fit a combination exactly if their restriction is that of the combination's own tags. -/
theorem fits_iff {tags : List (Option String)} (hreg : t.Regular) (hc : c ∈ t.combinations)
    (htags : tags.length = t.names.length) :
    t.Fits tags c ↔
      t.positions.mapM (·.elementIn tags) = .ok ((restrict t.positions c.tags).map some) := by
  rw [DispatchTable.Fits, restrict_map some (hreg.within (hreg.full c hc)),
    mapM_elementIn (hreg.within htags), Except.ok.injEq, eq_comm]

/-- A look-up in an expanded table. No two combinations agree with the same tags, so the order of
the combinations does not matter. A combination is found by its own tags, whatever stands in the
place of the arguments that are passed through. And there is something to be found exactly if the
restriction of the tags is a row that the dispatcher lists, and with it the stub. -/
theorem lookup_eq_ok_iff_listed {text : String} {path : Option Path} {s : Scanned}
    {limit : Option Int} (hscan : scan text path = .ok s) (hres : s.declaration.resolve = .ok d)
    (hexp : d.expand limit = .ok t) :
    (∀ tags, tags.length = t.names.length →
      (∀ c ∈ t.combinations, ∀ c' ∈ t.combinations, c.agrees tags t.positions = .ok true →
        c'.agrees tags t.positions = .ok true → c = c') ∧
      ∀ cs, cs.Perm t.combinations →
        ({ t with combinations := cs } : DispatchTable).lookup tags = t.lookup tags) ∧
    (∀ c ∈ t.combinations,
      t.lookup (c.tags.map some) = .ok (some c) ∧
      ∀ tags, tags.length = t.names.length →
        (∀ (i : Nat) (a : Argument), d.arguments[i]? = some a → a.isPassedThrough = false →
          tags[i]? = (c.tags.map some)[i]?) →
        t.lookup tags = .ok (some c)) ∧
    ∃ disp stub, Dispatcher.of ⟨d, t⟩ = .ok disp ∧ Stub.of ⟨d, t⟩ = .ok stub ∧
      stub.docLines = Stub.docLinesOf d.doc ++ listing disp.dispatched disp.accepted ∧
      ∀ tags, tags.length = t.names.length →
        ((∃ c, t.lookup tags = .ok (some c)) ↔
          ∃ row ∈ disp.accepted, t.positions.mapM (·.elementIn tags) = .ok (row.map some)) := by
  have hset : Settled d.arguments :=
    settled_of_scan_resolve Registry.standard_isNumeric hscan hres
  obtain ⟨-, rfl⟩ := (expand_eq_ok_iff hset).1 hexp
  have hreg := regular_table hset
  have hsep := separated_table hset
  refine ⟨fun tags htags => ⟨?_, fun cs => hreg.lookup_perm hsep htags⟩, ?_, ?_⟩
  · intro c hc c' hc' hagree hagree'
    exact hsep.eq_of_fits hreg hc hc' ((hreg.agrees_iff hc htags).1 hagree)
      ((hreg.agrees_iff hc' htags).1 hagree')
  · intro c hc
    have hown : (c.tags.map some).length = (table d).names.length := by
      rw [List.length_map, hreg.full c hc]
    refine ⟨(hreg.lookup_eq_some_iff hsep hown).2 ⟨hc, rfl⟩, fun tags htags hsame => ?_⟩
    refine (hreg.lookup_eq_some_iff hsep htags).2 ⟨hc, ?_⟩
    exact (restrict_eq_iff_places hset hown htags).2 fun i a hi ha => (hsame i a hi ha).symm
  · obtain ⟨stub, hstub, hlines⟩ := stub_docLines hset
    refine ⟨_, stub, dispatcher_eq hset, hstub, hlines, fun tags htags => ?_⟩
    rw [hreg.exists_lookup_iff htags]
    simp only [dispatcher, List.mem_map, exists_exists_and_eq_and]
    exact exists_congr fun c => and_congr_right fun hc => fits_iff hreg hc htags

/-- The second combination is found whatever the tag of the host argument is. Tags that differ from
it in the type of a derived argument find nothing. -/
theorem lookup_of_projections :
    ∃ s d t disp, scan ("npe_function(f) npe_arg(a, dense_f32, csr_f32) npe_arg(k, int) " ++
        "npe_arg(b, dense_like(a)) npe_begin_code()") = .ok s ∧
      s.declaration.resolve = .ok d ∧ d.expand none = .ok t ∧ Dispatcher.of ⟨d, t⟩ = .ok disp ∧
      disp.accepted = [["dense_f32", "dense_f32"], ["csr_f32", "dense_f32"]] ∧
      (∃ c, c.index = 1 ∧ ∀ host, t.lookup [some "csr_f32", host, some "dense_f32"] = .ok (some c)) ∧
      ¬ ∃ c, t.lookup [some "csr_f32", none, some "csr_f32"] = .ok (some c) := by
  obtain ⟨s, d, hscan, hres, hvalue⟩ := exists_scan_resolve
    ("npe_function(f) npe_arg(a, dense_f32, csr_f32) npe_arg(k, int) " ++
      "npe_arg(b, dense_like(a)) npe_begin_code()")
    (fun d => (d.arguments.map (·.isPassedThrough), (d.expand none).toOption,
      (Dispatcher.of ⟨d, table d⟩).toOption.map (·.accepted)))
    ([false, true, false], some {
      function := "f"
      names := ["a", "k", "b"]
      combinations := [
        ⟨0, ["a", "k", "b"], [.dense .float32, .host "int", .dense .float32], "npe_f__dense_f32"⟩,
        ⟨1, ["a", "k", "b"], [.sparse .float32 .csr, .host "int", .dense .float32],
          "npe_f__csr_f32"⟩]
      positions := [.index 0, .index 2]
      defaults := [none, none, none] },
      some [["dense_f32", "dense_f32"], ["csr_f32", "dense_f32"]]) (by decide +kernel)
  rw [Prod.mk.injEq, Prod.mk.injEq] at hvalue
  obtain ⟨hpassed, htable, haccepted⟩ := hvalue
  cases hexp : d.expand none with
  | error e => simp [hexp, Except.toOption] at htable
  | ok t =>
    obtain rfl : t = _ := by simpa [hexp, Except.toOption] using htable
    obtain ⟨-, hfound, disp, stub, hdisp, -, -, hlisted⟩ := lookup_eq_ok_iff_listed hscan hres hexp
    have htable := ((expand_eq_ok_iff (settled_of_scan_resolve Registry.standard_isNumeric hscan
      hres)).1 hexp).2
    have hrows : disp.accepted = [["dense_f32", "dense_f32"], ["csr_f32", "dense_f32"]] := by
      simpa [← htable, hdisp, Except.toOption] using haccepted
    have hsecond := (hfound ⟨1, ["a", "k", "b"],
      [.sparse .float32 .csr, .host "int", .dense .float32], "npe_f__csr_f32"⟩ (by simp)).2
    refine ⟨s, d, _, disp, hscan, hres, hexp, hdisp, hrows,
      ⟨_, rfl, fun host => hsecond [some "csr_f32", host, some "dense_f32"] rfl ?_⟩, ?_⟩
    · intro i a hi ha
      have hpass : (d.arguments.map (·.isPassedThrough))[i]? = some false := by simp [hi, ha]
      rw [hpassed] at hpass
      rcases i with _ | _ | _ | i
      · rfl
      · simp at hpass
      · rfl
      · simp at hpass
    · rw [hlisted _ rfl, hrows]
      decide

end Monomorph.Emission
