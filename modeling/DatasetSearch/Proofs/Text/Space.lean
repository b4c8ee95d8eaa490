import DatasetSearch.Text.Space
import Mathlib.Data.List.TakeWhile

/-!
# White space at the ends of a text

Trimming leaves alone what has no white space to lose: `trim_of_isTrimmed` for a text whose first
and last characters are none, `isTrimmed_of_all_not_space` for one without any. White space put
around a text is lost again (`trim_of_isPadded`).
-/

set_option autoImplicit false
set_option relaxedAutoImplicit false

namespace DatasetSearch.Text

/-- A text that is not empty and neither begins nor ends with white space. -/
def IsTrimmed (s : String) : Prop :=
  s ≠ "" ∧ ∀ c, (s.toList.head? = some c ∨ s.toList.getLast? = some c) → isSpace c = false

theorem dropWhile_isSpace_of_head? {cs : List Char}
    (hhead : ∀ c, cs.head? = some c → isSpace c = false) : cs.dropWhile isSpace = cs := by
  cases cs with
  | nil => rfl
  | cons c cs => rw [List.dropWhile_cons, hhead c rfl, if_neg Bool.false_ne_true]

theorem trim_of_isTrimmed {s : String} (hs : IsTrimmed s) : trim s = s := by
  have hfirst : s.toList.dropWhile isSpace = s.toList :=
    dropWhile_isSpace_of_head? fun c hc ↦ hs.2 c (Or.inl hc)
  have hlast : s.toList.reverse.dropWhile isSpace = s.toList.reverse := by
    refine dropWhile_isSpace_of_head? fun c hc ↦ hs.2 c (Or.inr ?_)
    rwa [List.head?_reverse] at hc
  rw [trim, trimmed, hfirst, hlast, List.reverse_reverse, String.ofList_toList]

theorem isTrimmed_of_all_not_space {s : String} (hne : s ≠ "")
    (hs : ∀ c ∈ s.toList, isSpace c = false) : IsTrimmed s := by
  refine ⟨hne, ?_⟩
  rintro c (hc | hc)
  · exact hs c (List.mem_of_head? hc)
  · exact hs c (List.mem_of_getLast? hc)

/-- The text with white space before and after it. -/
def IsPadded (s padded : String) : Prop :=
  ∃ before after : List Char, (∀ c ∈ before, isSpace c = true) ∧ (∀ c ∈ after, isSpace c = true) ∧
    padded.toList = before ++ s.toList ++ after

theorem trimmed_padded {before after : List Char} (hbefore : ∀ c ∈ before, isSpace c = true)
    (hafter : ∀ c ∈ after, isSpace c = true) (cs : List Char) :
    trimmed (before ++ cs ++ after) = trimmed cs := by
  have hreverse : ∀ c ∈ after.reverse, isSpace c = true := fun c hc ↦
    hafter c (List.mem_reverse.mp hc)
  rw [trimmed, trimmed, List.append_assoc, List.dropWhile_append_of_pos hbefore,
    List.dropWhile_append]
  split
  · next hblank =>
    rw [List.isEmpty_iff.mp hblank, List.dropWhile_eq_nil_iff.mpr hafter]
  · rw [List.reverse_append, List.dropWhile_append_of_pos hreverse]

theorem trim_of_isPadded {s padded : String} (hpadded : IsPadded s padded) :
    trim padded = trim s := by
  obtain ⟨before, after, hbefore, hafter, hchars⟩ := hpadded
  rw [trim, trim, hchars, trimmed_padded hbefore hafter]

end DatasetSearch.Text
