import Mathlib.Algebra.BigOperators.Group.List.Basic
import Mathlib.Data.List.Forall2
import Mathlib.Data.List.Nodup
import Monomorph.Expansion

/-!
The product of lists. A choice takes one element of each list; the choices are all of them, none
twice if no list has a repetition, and as many as the product of the lengths says.
-/

namespace Monomorph.Expansion

variable {α : Type}

theorem mem_choices {ls : List (List α)} {row : List α} :
    row ∈ choices ls ↔ List.Forall₂ (· ∈ ·) row ls := by
  induction ls generalizing row with
  | nil => simp [choices]
  | cons xs ls ih =>
    simp only [choices, List.mem_flatMap, List.mem_map, ih]
    constructor
    · rintro ⟨x, hx, row, hrow, rfl⟩
      exact .cons hx hrow
    · rintro (_ | ⟨hx, hrow⟩)
      exact ⟨_, hx, _, hrow, rfl⟩

theorem length_choices (ls : List (List α)) :
    (choices ls).length = (ls.map List.length).prod := by
  induction ls with
  | nil => rfl
  | cons xs ls ih =>
    simp [choices, List.length_flatMap, ih]

theorem choices_ne_nil {ls : List (List α)} (h : ∀ xs ∈ ls, xs ≠ []) : choices ls ≠ [] := by
  induction ls with
  | nil => simp [choices]
  | cons xs ls ih =>
    obtain ⟨hxs, hls⟩ := List.forall_mem_cons.1 h
    obtain ⟨x, hx⟩ := List.exists_mem_of_ne_nil xs hxs
    obtain ⟨row, hrow⟩ := List.exists_mem_of_ne_nil _ (ih hls)
    exact List.ne_nil_of_mem (List.mem_flatMap.2 ⟨x, hx, List.mem_map_of_mem hrow⟩)

theorem nodup_choices {ls : List (List α)} (h : ∀ xs ∈ ls, xs.Nodup) : (choices ls).Nodup := by
  induction ls with
  | nil => simp [choices]
  | cons xs ls ih =>
    obtain ⟨hxs, hls⟩ := List.forall_mem_cons.1 h
    rw [choices, List.nodup_flatMap]
    refine ⟨fun x _ => (ih hls).map (List.cons_injective), ?_⟩
    apply hxs.imp
    rintro x y hxy row hx hy
    obtain ⟨r, -, rfl⟩ := List.mem_map.1 hx
    obtain ⟨r', -, hr'⟩ := List.mem_map.1 hy
    exact hxy (List.cons.inj hr').1.symm

/-- A choice from the types of some arguments gives each argument one of its types. -/
theorem mem_choices_typeList {args : List Argument} {row : List ConcreteType} :
    row ∈ choices (args.map (·.typeList)) ↔ List.Forall₂ (fun a t => t ∈ a.typeList) args row := by
  rw [mem_choices, List.forall₂_map_right_iff]
  exact ⟨List.Forall₂.flip, List.Forall₂.flip⟩

end Monomorph.Expansion
