/-!
White space in the sense of the Unicode property of that name: which characters have it, the text
left when it is trimmed from both ends, and the texts that hold nothing else. The zero-width space,
the byte order mark and the information separators do not have the property.
-/

set_option autoImplicit false
set_option relaxedAutoImplicit false

namespace DatasetSearch.Text

def isSpace (c : Char) : Bool :=
  let n := c.toNat
  (0x09 ≤ n && n ≤ 0x0D) || n == 0x20 || n == 0x85 || n == 0xA0 || n == 0x1680 ||
    (0x2000 ≤ n && n ≤ 0x200A) || n == 0x2028 || n == 0x2029 || n == 0x202F || n == 0x205F ||
    n == 0x3000

/-- The characters left when white space is taken from both ends. -/
def trimmed (cs : List Char) : List Char :=
  ((cs.dropWhile isSpace).reverse.dropWhile isSpace).reverse

def trim (s : String) : String :=
  String.ofList (trimmed s.toList)

def isBlank (s : String) : Bool :=
  s.toList.all isSpace

theorem trimmed_eq_nil_iff (cs : List Char) : trimmed cs = [] ↔ cs.all isSpace = true := by
  induction cs with
  | nil => simp [trimmed]
  | cons c cs ih =>
    by_cases h : isSpace c = true
    · simpa [trimmed, h] using ih
    · simp only [trimmed, h, List.dropWhile_append, List.reverse_cons, List.all_cons,
        List.reverse_eq_nil_iff, List.dropWhile_cons, Bool.false_eq_true, ↓reduceIte,
        Bool.false_and, iff_false, List.isEmpty_iff]
      split <;> simp

theorem isBlank_iff_trim (s : String) : isBlank s = true ↔ trim s = "" := by
  rw [isBlank, ← trimmed_eq_nil_iff, trim]
  exact ⟨fun h ↦ by rw [h], fun h ↦ by simpa using congrArg String.toList h⟩

end DatasetSearch.Text
