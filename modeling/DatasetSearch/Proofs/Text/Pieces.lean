import Mathlib.Data.List.Basic

/-!
# Pieces of a list

A list split at a mark. The pieces hold what is in the list but for the marks
(`exists_mem_splitOn_iff`), and a piece is empty where nothing stands between two marks or between a
mark and an end of the list: the first piece where the list begins with a mark
(`head?_splitOn_eq_nil_iff`), a later one where it ends in a mark or has two marks in a row
(`nil_mem_tail_splitOn_iff`).
-/

set_option autoImplicit false
set_option relaxedAutoImplicit false

namespace DatasetSearch

variable {α : Type} [DecidableEq α] (mark : α) (xs : List α)

/-- The pieces of a list hold what is in it, but for the marks that it is split at. -/
theorem exists_mem_splitOn_iff (x : α) :
    (∃ piece ∈ xs.splitOn mark, x ∈ piece) ↔ x ∈ xs ∧ x ≠ mark := by
  induction xs with
  | nil => simp [List.splitOn_nil]
  | cons first xs ih =>
    rw [List.splitOn_cons_eq_if_modifyHead]
    by_cases hfirst : first = mark
    · subst hfirst
      rw [if_pos (beq_self_eq_true first), List.exists_mem_cons_iff, ih, List.mem_cons,
        or_iff_right List.not_mem_nil]
      exact ⟨fun h ↦ ⟨Or.inr h.1, h.2⟩, fun h ↦ ⟨h.1.resolve_left h.2, h.2⟩⟩
    · rw [if_neg (by simpa using hfirst)]
      obtain ⟨piece, pieces, hsplit⟩ := List.exists_cons_of_ne_nil (List.splitOn_ne_nil mark xs)
      rw [hsplit, List.exists_mem_cons_iff] at ih
      rw [hsplit, List.modifyHead_cons, List.exists_mem_cons_iff, List.mem_cons, or_assoc, ih,
        List.mem_cons, or_and_right]
      refine or_congr_left ⟨fun h ↦ ⟨h, ?_⟩, And.left⟩
      rwa [h]

theorem not_mem_of_mem_splitOn {mark : α} {xs piece : List α} (hpiece : piece ∈ xs.splitOn mark) :
    mark ∉ piece := by
  intro hmem
  have hother := (exists_mem_splitOn_iff mark xs mark).mp ⟨piece, hpiece, hmem⟩
  exact hother.2 rfl

/-- The first piece is empty where the list is, and where it begins with a mark. -/
theorem head?_splitOn_eq_nil_iff :
    (xs.splitOn mark).head? = some [] ↔ xs = [] ∨ xs.head? = some mark := by
  cases xs with
  | nil => simp [List.splitOn_nil]
  | cons first xs =>
    rw [List.splitOn_cons_eq_if_modifyHead]
    by_cases hfirst : first = mark
    · simp [hfirst]
    · obtain ⟨piece, pieces, hsplit⟩ := List.exists_cons_of_ne_nil (List.splitOn_ne_nil mark xs)
      simp [hsplit, hfirst]

theorem nil_mem_splitOn_iff :
    [] ∈ xs.splitOn mark ↔
      (xs.splitOn mark).head? = some [] ∨ [] ∈ (xs.splitOn mark).tail := by
  obtain ⟨piece, pieces, hsplit⟩ := List.exists_cons_of_ne_nil (List.splitOn_ne_nil mark xs)
  simp [hsplit, eq_comm]

/-- A later piece is empty where the list ends in a mark, and where it has two marks in a row. -/
theorem nil_mem_tail_splitOn_iff :
    [] ∈ (xs.splitOn mark).tail ↔ xs.getLast? = some mark ∨ [mark, mark] <:+: xs := by
  induction xs with
  | nil => simp [List.splitOn_nil]
  | cons first xs ih =>
    rw [List.splitOn_cons_eq_if_modifyHead]
    by_cases hfirst : first = mark
    · -- Behind a mark the next piece is a later one too.
      subst hfirst
      rw [if_pos (beq_self_eq_true first), List.tail_cons, nil_mem_splitOn_iff,
        head?_splitOn_eq_nil_iff, ih, List.infix_cons_iff]
      cases xs with
      | nil => simp
      | cons second xs => simp [List.getLast?_cons_cons, eq_comm, or_left_comm]
    · rw [if_neg (by simpa using hfirst), List.tail_modifyHead, ih, List.infix_cons_iff]
      cases xs with
      | nil => simp [hfirst, Ne.symm hfirst]
      | cons second xs => simp [List.getLast?_cons_cons, Ne.symm hfirst]

end DatasetSearch
