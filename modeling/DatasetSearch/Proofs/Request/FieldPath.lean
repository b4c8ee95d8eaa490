import DatasetSearch.Proofs.Text.Pieces
import DatasetSearch.Request.Validation

/-!
# Field paths

A field to sort by is a path: names with dots between them. `isFieldPath` looks at it from the left,
one character after the other; `IsPathText` says the same of the text as a whole, and
`isFieldPath_iff_components` says it of the names that the dots set apart. The first of these names
is never empty. The others may be, which happens where the text ends in a dot or has two dots in a
row (`nil_mem_tail_splitOn_iff`).
-/

set_option autoImplicit false
set_option relaxedAutoImplicit false

namespace DatasetSearch.Request

/-! ### characters of a path -/

/-- The characters of a name in a path: ASCII letters and digits, the underscore and the at sign. -/
def IsNameChar (c : Char) : Prop :=
  c.isAlphanum = true ∨ c = '_' ∨ c = '@'

instance (c : Char) : Decidable (IsNameChar c) :=
  inferInstanceAs (Decidable (_ ∨ _ ∨ _))

theorem isFieldStart_iff (c : Char) : isFieldStart c = true ↔ IsNameChar c := by
  have hdigit : c.isDigit = true ↔ '0' ≤ c ∧ c ≤ '9' := by
    simp [Char.isDigit, Char.le_def]
  have hupper : c.isUpper = true ↔ 'A' ≤ c ∧ c ≤ 'Z' := by
    delta Char.isUpper
    simp [Char.le_def]
  have hlower : c.isLower = true ↔ 'a' ≤ c ∧ c ≤ 'z' := by
    delta Char.isLower
    simp [Char.le_def]
  have halpha : c.isAlpha = (c.isUpper || c.isLower) := rfl
  simp only [isFieldStart, IsNameChar, Char.isAlphanum, halpha, Bool.or_eq_true,
    Bool.and_eq_true, decide_eq_true_eq, beq_iff_eq, hdigit, hupper, hlower]
  exact or_assoc

/-- The dot is no character of a name. -/
theorem IsNameChar.ne_dot {c : Char} (hc : IsNameChar c) : c ≠ '.' := by
  rintro rfl
  exact absurd hc (by decide)

theorem IsNameChar.ne_dollar {c : Char} (hc : IsNameChar c) : c ≠ '$' := by
  rintro rfl
  exact absurd hc (by decide)

/-- A text of names and dots that does not begin with a dot. -/
structure IsPathText (field : String) : Prop where
  ne_empty : field ≠ ""
  chars : ∀ c ∈ field.toList, IsNameChar c ∨ c = '.'
  head_ne_dot : field.toList.head? ≠ some '.'

theorem isFieldPath_iff (field : String) : isFieldPath field = true ↔ IsPathText field := by
  have hempty : field = "" ↔ field.toList = [] := by simp
  unfold isFieldPath
  cases hfield : field.toList with
  | nil =>
    refine iff_of_false Bool.false_ne_true fun h ↦ h.ne_empty ?_
    rw [hempty, hfield]
  | cons c rest =>
    simp only [Bool.and_eq_true, List.all_eq_true, Bool.or_eq_true, beq_iff_eq, isFieldStart_iff]
    constructor
    · rintro ⟨hfirst, hrest⟩
      refine ⟨fun h ↦ ?_, ?_, ?_⟩
      · rw [hempty.mp h] at hfield
        cases hfield
      · rw [hfield, List.forall_mem_cons]
        exact ⟨Or.inl hfirst, hrest⟩
      · rw [hfield, List.head?_cons, Ne, Option.some.injEq]
        exact hfirst.ne_dot
    · intro h
      have hchars := h.chars
      have hdot := h.head_ne_dot
      rw [hfield, List.forall_mem_cons] at hchars
      rw [hfield, List.head?_cons, Ne, Option.some.injEq] at hdot
      exact ⟨hchars.1.resolve_right hdot, hchars.2⟩

/-! ### components of a path -/

/-- The names of a path, which dots set apart. -/
def components (field : String) : List (List Char) :=
  field.toList.splitOn '.'

/-- What accepted paths are in terms of their names. -/
structure HasComponents (field : String) : Prop where
  head_ne_nil : (components field).head? ≠ some []
  chars : ∀ component ∈ components field, ∀ c ∈ component, IsNameChar c

theorem isFieldPath_iff_components (field : String) :
    isFieldPath field = true ↔ HasComponents field := by
  have hchars : (∀ component ∈ components field, ∀ c ∈ component, IsNameChar c) ↔
      ∀ c ∈ field.toList, IsNameChar c ∨ c = '.' := by
    constructor
    · intro h c hc
      by_cases hdot : c = '.'
      · exact Or.inr hdot
      · obtain ⟨component, hcomponent, hmem⟩ :=
          (exists_mem_splitOn_iff '.' field.toList c).mpr ⟨hc, hdot⟩
        exact Or.inl (h component hcomponent c hmem)
    · intro h component hcomponent c hmem
      obtain ⟨hc, hdot⟩ :=
        (exists_mem_splitOn_iff '.' field.toList c).mp ⟨component, hcomponent, hmem⟩
      exact (h c hc).resolve_right hdot
  have hhead : (components field).head? ≠ some [] ↔
      field ≠ "" ∧ field.toList.head? ≠ some '.' := by
    rw [components, Ne, head?_splitOn_eq_nil_iff, not_or]
    simp
  rw [isFieldPath_iff]
  constructor
  · intro h
    exact ⟨hhead.mpr ⟨h.ne_empty, h.head_ne_dot⟩, hchars.mpr h.chars⟩
  · intro h
    have hfirst := hhead.mp h.head_ne_nil
    exact ⟨hfirst.1, hchars.mp h.chars, hfirst.2⟩

end DatasetSearch.Request
