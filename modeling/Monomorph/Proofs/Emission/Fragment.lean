import Mathlib.Data.List.Basic
import Monomorph.Emission.Registration

/-!
The fragment that defines a module, read back by lines. A line declares a symbol or calls one, or does
neither. Read in this way the fragment first declares the symbols it is made from and then calls them,
each list in the order given, provided that no name has a line end in it.
-/

namespace Monomorph.Emission

/-- What stands between a front and a back of a line. -/
def between? (front back : String) (line : List Char) : Option String :=
  (line.dropPrefix? front.toList).bind fun rest => (rest.dropSuffix? back.toList).map String.ofList

/-- The symbol that a line declares. -/
def declaredSymbol? : List Char → Option String := between? "void " "(pybind11::module_& m);"

/-- The symbol that a line calls. -/
def calledSymbol? : List Char → Option String := between? "    " "(m);"

/-- The lines of a text. What follows the last line end is a line as well. -/
def linesOf (s : String) : List (List Char) := s.toList.splitOn '\n'

variable {front back name : String} {line : List Char} {symbols : List String}

theorem between?_append (front back symbol : String) :
    between? front back (front ++ symbol ++ back).toList = some symbol := by
  have hrest : (front ++ symbol ++ back).toList.dropPrefix? front.toList =
      some (symbol.toList ++ back.toList) := by
    rw [String.toList_append, String.toList_append, List.append_assoc]
    exact List.dropPrefix?_append_of_beq _ (beq_self_eq_true _)
  have hsymbol : (symbol.toList ++ back.toList).dropSuffix? back.toList = some symbol.toList :=
    List.dropSuffix?_eq_some_iff.2 ⟨back.toList, rfl, beq_self_eq_true _⟩
  rw [between?, hrest, Option.bind_some, hsymbol, Option.map_some, String.ofList_toList]

theorem between?_eq_none (h : ¬ front.toList <+: line) : between? front back line = none := by
  have hnone : line.dropPrefix? front.toList = none := by
    rw [Option.eq_none_iff_forall_ne_some]
    intro rest hrest
    obtain ⟨front', rfl, hfront⟩ := List.dropPrefix?_eq_some_iff.1 hrest
    rw [beq_iff_eq] at hfront
    exact h (hfront ▸ List.prefix_append front' rest)
  rw [between?, hnone, Option.bind_none]

/-- The lines that were put together come apart again. -/
theorem linesOf_unlines {ls : List String} (h : ∀ l ∈ ls, '\n' ∉ l.toList) :
    linesOf (unlines ls) = ls.map String.toList ++ [[]] := by
  rw [linesOf, unlines, String.toList_join, List.flatMap_map]
  induction ls with
  | nil => rfl
  | cons l ls ih =>
    obtain ⟨hl, hls⟩ := List.forall_mem_cons.1 h
    have hline : (l ++ "\n").toList = l.toList ++ ['\n'] := String.toList_append
    rw [List.flatMap_cons, hline, List.append_assoc, List.singleton_append,
      List.splitOn_append_cons_self_of_not_mem hl, ih hls, List.map_cons, List.cons_append]

/-! ### The lines of a fragment -/

/-- The line that declares a symbol. -/
def declareLine (s : String) : String := "void " ++ s ++ "(pybind11::module_& m);"

/-- The line that opens the definition of the module. -/
def openLine (name : String) : String := "PYBIND11_MODULE(" ++ name ++ ", m) \x7b"

theorem openLine_eq (name : String) : openLine name = "PYBIND11_MODULE(" ++ name ++ ", m) \x7b" := rfl

/-- The line that calls a symbol. -/
def callLine (s : String) : String := "    " ++ s ++ "(m);"

/-- The lines up to the last declaration. -/
def headLines (symbols : List String) : List String :=
  ["// Generated by npegen. Do not edit.", "#include <pybind11/pybind11.h>", ""] ++ symbols.map declareLine

/-- The lines of the definition of the module. -/
def bodyLines (name : String) (symbols : List String) : List String :=
  ["", openLine name] ++ symbols.map callLine ++ ["\x7d"]

theorem moduleText_eq (name : String) (symbols : List String) :
    moduleText name symbols = unlines (headLines symbols ++ bodyLines name symbols) := by
  simp only [moduleText, headLines, bodyLines, List.append_assoc]
  rfl

theorem read_declareLine (s : String) : declaredSymbol? (declareLine s).toList = some s ∧
    calledSymbol? (declareLine s).toList = none :=
  ⟨between?_append _ _ s, between?_eq_none (by simp [declareLine, String.toList_append])⟩

theorem read_callLine (s : String) : declaredSymbol? (callLine s).toList = none ∧
    calledSymbol? (callLine s).toList = some s :=
  ⟨between?_eq_none (by simp [callLine, String.toList_append]), between?_append _ _ s⟩

theorem read_openLine (name : String) : declaredSymbol? (openLine name).toList = none ∧
    calledSymbol? (openLine name).toList = none :=
  ⟨between?_eq_none (by simp [openLine_eq, String.toList_append]),
    between?_eq_none (by simp [openLine_eq, String.toList_append])⟩

/-- The lines that do not depend on names are whole lines and tell no symbol. -/
theorem read_fixedLine : ∀ l ∈ ["// Generated by npegen. Do not edit.", "#include <pybind11/pybind11.h>",
    "", "\x7d"], '\n' ∉ l.toList ∧ declaredSymbol? l.toList = none ∧ calledSymbol? l.toList = none := by
  decide

/-- Lines that are read back as the symbols they are made from. -/
theorem filterMap_lines {read? : List Char → Option String} {write : String → String}
    (h : ∀ s, read? (write s).toList = some s) :
    ((symbols.map write).map String.toList).filterMap read? = symbols := by
  induction symbols with
  | nil => rfl
  | cons s symbols ih => rw [List.map_cons, List.map_cons, List.filterMap_cons_some (h s), ih]

theorem filterMap_lines_eq_nil {read? : List Char → Option String} {ls : List String}
    (h : ∀ l ∈ ls, read? l.toList = none) : (ls.map String.toList).filterMap read? = [] := by
  rw [List.filterMap_eq_nil_iff]
  exact List.forall_mem_map.2 h

theorem read_headLines (symbols : List String) :
    ((headLines symbols).map String.toList).filterMap declaredSymbol? = symbols ∧
      ((headLines symbols).map String.toList).filterMap calledSymbol? = [] := by
  have htop : ∀ l ∈ ["// Generated by npegen. Do not edit.", "#include <pybind11/pybind11.h>", ""],
      declaredSymbol? l.toList = none ∧ calledSymbol? l.toList = none := fun l hl =>
    (read_fixedLine l (List.mem_append_left ["\x7d"] hl)).2
  rw [headLines, List.map_append, List.filterMap_append, List.filterMap_append,
    filterMap_lines fun s => (read_declareLine s).1, filterMap_lines_eq_nil fun l hl => (htop l hl).1,
    filterMap_lines_eq_nil fun l hl => (htop l hl).2,
    filterMap_lines_eq_nil (List.forall_mem_map.2 fun s _ => (read_declareLine s).2)]
  exact ⟨rfl, rfl⟩

theorem read_bodyLines (name : String) (symbols : List String) :
    ((bodyLines name symbols).map String.toList).filterMap declaredSymbol? = [] ∧
      ((bodyLines name symbols).map String.toList).filterMap calledSymbol? = symbols := by
  have htop : ∀ l ∈ ["", openLine name], declaredSymbol? l.toList = none ∧ calledSymbol? l.toList = none :=
    List.forall_mem_cons.2 ⟨(read_fixedLine "" (by simp)).2, List.forall_mem_singleton.2 (read_openLine name)⟩
  have hclose : ∀ l ∈ ["\x7d"], declaredSymbol? l.toList = none ∧ calledSymbol? l.toList = none :=
    List.forall_mem_singleton.2 (read_fixedLine "\x7d" (by simp)).2
  simp only [bodyLines, List.map_append, List.filterMap_append]
  rw [filterMap_lines fun s => (read_callLine s).2, filterMap_lines_eq_nil fun l hl => (htop l hl).1,
    filterMap_lines_eq_nil fun l hl => (htop l hl).2, filterMap_lines_eq_nil fun l hl => (hclose l hl).1,
    filterMap_lines_eq_nil fun l hl => (hclose l hl).2,
    filterMap_lines_eq_nil (List.forall_mem_map.2 fun s _ => (read_callLine s).1)]
  exact ⟨rfl, by rw [List.nil_append, List.append_nil]⟩

/-- The fragment declares its symbols in one part of its lines and calls them in the other. -/
theorem exists_linesOf_moduleText (hname : '\n' ∉ name.toList)
    (hsymbols : ∀ s ∈ symbols, '\n' ∉ s.toList) :
    ∃ head body, linesOf (moduleText name symbols) = head ++ body ∧
      head.filterMap declaredSymbol? = symbols ∧ head.filterMap calledSymbol? = [] ∧
      body.filterMap declaredSymbol? = [] ∧ body.filterMap calledSymbol? = symbols := by
  have hlines : ∀ l ∈ headLines symbols ++ bodyLines name symbols, '\n' ∉ l.toList := by
    intro l hl
    simp only [headLines, bodyLines, List.mem_append, List.mem_map] at hl
    rcases hl with (hl | ⟨s, hs, rfl⟩) | (hl | ⟨s, hs, rfl⟩) | hl
    · exact (read_fixedLine l (List.mem_append_left ["\x7d"] hl)).1
    · simp [declareLine, String.toList_append, hsymbols s hs]
    · rcases List.mem_cons.1 hl with rfl | hl
      · simp
      · rw [List.mem_singleton.1 hl]
        simp [openLine_eq, String.toList_append, hname]
    · simp [callLine, String.toList_append, hsymbols s hs]
    · rw [List.mem_singleton.1 hl]
      exact (read_fixedLine "\x7d" (by simp)).1
  obtain ⟨hdeclared, hcalled⟩ := read_headLines symbols
  obtain ⟨hdeclared', hcalled'⟩ := read_bodyLines name symbols
  refine ⟨(headLines symbols).map String.toList, (bodyLines name symbols).map String.toList ++ [[]], ?_,
    hdeclared, hcalled, ?_, ?_⟩
  · rw [moduleText_eq, linesOf_unlines hlines, List.map_append, List.append_assoc]
  · rw [List.filterMap_append, hdeclared']
    rfl
  · rw [List.filterMap_append, hcalled']
    exact List.append_nil symbols

end Monomorph.Emission
