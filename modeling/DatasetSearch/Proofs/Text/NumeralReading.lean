import DatasetSearch.Proofs.Text.Numeral
import Mathlib.Tactic.ByContra

/-!
# What numerals are read as

Reading takes digits from the left and stops at the first thing that is wrong. Said of the text as a
whole: it is read as the number that it stands for (`Denotes`) if the bounds hold that number
(`read_eq_ok_iff`). Otherwise the fault is that the number is too large or too small if the digits
leave the bounds before a character that is no digit is met (`LeavesBounds`, `read_eq_overflow`),
and in every other case that there is such a character, or no digit at all (`read_eq_invalidDigit`).

`readsAs_accumulate` is the induction behind this. Its invariant is that the value so far is within
the bounds.
-/

set_option autoImplicit false
set_option relaxedAutoImplicit false

namespace DatasetSearch.Text.Numeral

/-! ### digits that leave the bounds -/

/-- Some of the digits at the front, put behind those of the value, make a number beyond the
bounds. -/
def Leaves (bounds : Bounds) (negative : Bool) (value : Nat) (text : List Char) : Prop :=
  ∃ front, front <+: text ∧ (∀ c ∈ front, c.isDigit = true) ∧
    ¬ bounds.Holds (withSign negative (Nat.ofDigitChars 10 front value))

section Leaves

variable {bounds : Bounds} {negative : Bool} {value : Nat}
  (hvalue : bounds.Holds (withSign negative value))

include hvalue

theorem not_leaves_nil : ¬ Leaves bounds negative value [] := by
  rintro ⟨front, hprefix, -, hbeyond⟩
  rw [List.prefix_nil.mp hprefix] at hbeyond
  exact hbeyond hvalue

theorem not_leaves_cons {c : Char} (hc : ¬ c.isDigit = true) (text : List Char) :
    ¬ Leaves bounds negative value (c :: text) := by
  rintro ⟨front, hprefix, hdigits, hbeyond⟩
  rcases List.prefix_cons_iff.mp hprefix with rfl | ⟨rest, rfl, -⟩
  · exact hbeyond hvalue
  · exact hc (hdigits c List.mem_cons_self)

theorem leaves_cons_iff {c : Char} (hc : c.isDigit = true) (text : List Char) :
    Leaves bounds negative value (c :: text) ↔
      Leaves bounds negative (10 * value + (c.toNat - '0'.toNat)) text := by
  constructor
  · rintro ⟨front, hprefix, hdigits, hbeyond⟩
    rcases List.prefix_cons_iff.mp hprefix with rfl | ⟨rest, rfl, hrest⟩
    · exact absurd hvalue hbeyond
    · rw [Nat.ofDigitChars_cons] at hbeyond
      exact ⟨rest, hrest, (List.forall_mem_cons.mp hdigits).2, hbeyond⟩
  · rintro ⟨front, hprefix, hdigits, hbeyond⟩
    refine ⟨c :: front, List.cons_prefix_cons.mpr ⟨rfl, hprefix⟩,
      List.forall_mem_cons.mpr ⟨hc, hdigits⟩, ?_⟩
    rwa [Nat.ofDigitChars_cons]

end Leaves

/-- Digits leave the bounds on the way if their whole number is beyond them. -/
theorem leaves_iff_of_isDigit {bounds : Bounds} (hzero : bounds.Holds 0) {negative : Bool}
    {text : List Char} (hdigits : ∀ c ∈ text, c.isDigit = true) (value : Nat) :
    Leaves bounds negative value text ↔
      ¬ bounds.Holds (withSign negative (Nat.ofDigitChars 10 text value)) := by
  constructor
  · rintro ⟨front, ⟨rest, rfl⟩, -, hbeyond⟩ hholds
    rw [Nat.ofDigitChars_append] at hholds
    exact hbeyond (hzero.withSign_of_le hholds (le_ofDigitChars rest _))
  · intro hbeyond
    exact ⟨text, List.prefix_refl text, hdigits, hbeyond⟩

/-! ### accumulation -/

/-- The fault of a number that has left the bounds. -/
def overflow (negative : Bool) : Fault :=
  if negative then .tooSmall else .tooLarge

/-- What becomes of the characters behind a sign. -/
inductive ReadsAs (bounds : Bounds) (negative : Bool) (value : Nat) (text : List Char) :
    Except Fault Int → Prop
  | beyond (hleaves : Leaves bounds negative value text) :
    ReadsAs bounds negative value text (.error (overflow negative))
  | number (hdigits : ∀ c ∈ text, c.isDigit = true)
    (hstays : ¬ Leaves bounds negative value text) :
    ReadsAs bounds negative value text
      (.ok (withSign negative (Nat.ofDigitChars 10 text value)))
  | invalid (hother : ¬ ∀ c ∈ text, c.isDigit = true)
    (hstays : ¬ Leaves bounds negative value text) :
    ReadsAs bounds negative value text (.error .invalidDigit)

theorem digit?_of_not_isDigit {c : Char} (hc : ¬ c.isDigit = true) : digit? c = none := by
  simp only [Char.isDigit, Bool.and_eq_true, decide_eq_true_eq] at hc
  exact if_neg hc

/-- A further digit is taken if the bounds hold the number that it makes. -/
theorem accumulate_cons {bounds : Bounds} (hzero : bounds.Holds 0) (negative : Bool) (value : Nat)
    {c : Char} (hc : c.isDigit = true) (text : List Char) :
    accumulate bounds negative (withSign negative value) (c :: text) =
      if bounds.Holds (withSign negative (10 * value + (c.toNat - '0'.toNat))) then
        accumulate bounds negative (withSign negative (10 * value + (c.toNat - '0'.toNat))) text
      else .error (overflow negative) := by
  have hstep : (if negative then withSign negative value * 10 - (c.toNat - '0'.toNat : Nat)
      else withSign negative value * 10 + (c.toNat - '0'.toNat : Nat)) =
      withSign negative (10 * value + (c.toNat - '0'.toNat)) := by
    cases negative <;> simp only [withSign, Bool.false_eq_true, ↓reduceIte] <;> omega
  rw [accumulate, digit?_of_isDigit hc]
  dsimp only
  rw [hstep]
  generalize 10 * value + (c.toNat - '0'.toNat) = next
  obtain ⟨hleast, hgreatest⟩ := hzero
  by_cases hholds : bounds.Holds (withSign negative next)
  · rw [if_pos hholds, if_neg (Int.not_lt.mpr hholds.2), if_neg (Int.not_lt.mpr hholds.1)]
  · rw [if_neg hholds]
    -- a number that grows in one direction leaves the bounds on that side
    cases negative with
    | false =>
      have hlarge : bounds.greatest < withSign false next := by
        by_contra hsmall
        refine hholds ⟨Int.le_trans hleast ?_, Int.not_lt.mp hsmall⟩
        exact Int.natCast_nonneg next
      rw [if_pos hlarge]
      rfl
    | true =>
      have hnext : withSign true next ≤ 0 := Int.neg_nonpos_of_nonneg (Int.natCast_nonneg next)
      have hsmall : withSign true next < bounds.least := by
        by_contra hlarge
        exact hholds ⟨Int.not_lt.mp hlarge, Int.le_trans hnext hgreatest⟩
      rw [if_neg (Int.not_lt.mpr (Int.le_trans hnext hgreatest)), if_pos hsmall]
      rfl

theorem readsAs_accumulate {bounds : Bounds} (hzero : bounds.Holds 0) (negative : Bool)
    (text : List Char) (value : Nat) (hvalue : bounds.Holds (withSign negative value)) :
    ReadsAs bounds negative value text
      (accumulate bounds negative (withSign negative value) text) := by
  induction text generalizing value with
  | nil =>
    rw [accumulate]
    exact .number (by simp) (not_leaves_nil hvalue)
  | cons c text ih =>
    by_cases hc : c.isDigit = true
    · have hleaves := leaves_cons_iff hvalue hc text
      rw [accumulate_cons hzero negative value hc]
      split
      · next hnext =>
        have hdigits : (∀ d ∈ c :: text, d.isDigit = true) ↔ ∀ d ∈ text, d.isDigit = true := by
          rw [List.forall_mem_cons, and_iff_right hc]
        have hread := ih _ hnext
        generalize accumulate bounds negative _ text = result at hread ⊢
        cases hread with
        | beyond hbeyond => exact .beyond (hleaves.mpr hbeyond)
        | number hall hstays =>
          rw [← Nat.ofDigitChars_cons]
          exact .number (hdigits.mpr hall) (hleaves.not.mpr hstays)
        | invalid hother hstays =>
          exact .invalid (hdigits.not.mpr hother) (hleaves.not.mpr hstays)
      · next hbeyond =>
        exact .beyond (hleaves.mpr ⟨[], List.nil_prefix, by simp, hbeyond⟩)
    · rw [accumulate, digit?_of_not_isDigit hc]
      exact .invalid (fun hall ↦ hc (hall c List.mem_cons_self)) (not_leaves_cons hvalue hc text)

/-! ### signs -/

/-- Whether a text has a minus sign in front, and what stands behind its sign. Where the bounds hold
no negative number there is no minus sign. -/
def splitSign (bounds : Bounds) : List Char → Bool × List Char
  | '+' :: text => (false, text)
  | '-' :: text => if bounds.least < 0 then (true, text) else (false, '-' :: text)
  | text => (false, text)

theorem read_eq_accumulate (bounds : Bounds) {text : List Char} (htext : text ≠ []) :
    read bounds text =
      if (splitSign bounds text).2 = [] then .error .invalidDigit
      else accumulate bounds (splitSign bounds text).1 0 (splitSign bounds text).2 := by
  obtain ⟨c, rest, rfl⟩ := List.exists_cons_of_ne_nil htext
  by_cases hplus : c = '+'
  · subst hplus
    cases rest <;> simp [read, splitSign]
  by_cases hminus : c = '-'
  · subst hminus
    by_cases hleast : bounds.least < 0
    · cases rest <;> simp [read, splitSign, hleast]
    · -- without negative numbers the minus sign is a character like others
      cases rest <;> simp [read, splitSign, hleast, accumulate, digit?]
  · have hread : read bounds (c :: rest) = accumulate bounds false 0 (c :: rest) := by
      unfold read
      split <;> simp_all
    have hsplit : splitSign bounds (c :: rest) = (false, c :: rest) := by
      unfold splitSign
      split <;> simp_all
    rw [hread, hsplit, if_neg (List.cons_ne_nil c rest)]

/-- The text is a numeral, and this is its number. -/
structure Denotes (bounds : Bounds) (text : List Char) (n : Int) : Prop where
  digits_ne_nil : (splitSign bounds text).2 ≠ []
  isDigit : ∀ c ∈ (splitSign bounds text).2, c.isDigit = true
  number : n = withSign (splitSign bounds text).1
    (Nat.ofDigitChars 10 (splitSign bounds text).2 0)

theorem splitSign_of_isDigit (bounds : Bounds) {c : Char} (hc : c.isDigit = true)
    (rest : List Char) : splitSign bounds (c :: rest) = (false, c :: rest) := by
  have hplus : c ≠ '+' := by
    rintro rfl
    exact absurd hc (by decide)
  have hminus : c ≠ '-' := by
    rintro rfl
    exact absurd hc (by decide)
  unfold splitSign
  split <;> simp_all

/-- Without negative numbers a numeral is a run of digits, behind a plus sign or none. -/
theorem denotes_iff_of_not_negative {bounds : Bounds} (hleast : ¬ bounds.least < 0)
    (text : List Char) (n : Int) :
    Denotes bounds text n ↔
      ∃ digits, digits ≠ [] ∧ (text = digits ∨ text = '+' :: digits) ∧
        (∀ c ∈ digits, c.isDigit = true) ∧ n = Nat.ofDigitChars 10 digits 0 := by
  constructor
  · rintro ⟨hdigits, hall, hnumber⟩
    have hsign : (splitSign bounds text).1 = false ∧
        (text = (splitSign bounds text).2 ∨ text = '+' :: (splitSign bounds text).2) := by
      unfold splitSign
      split <;> simp [hleast]
    refine ⟨(splitSign bounds text).2, hdigits, hsign.2, hall, ?_⟩
    rw [hnumber, hsign.1]
    rfl
  · rintro ⟨digits, hdigits, htext, hall, hnumber⟩
    have hsplit : splitSign bounds text = (false, digits) := by
      rcases htext with rfl | rfl
      · obtain ⟨c, rest, rfl⟩ := List.exists_cons_of_ne_nil hdigits
        exact splitSign_of_isDigit bounds (hall c List.mem_cons_self) rest
      · rfl
    constructor <;> rw [hsplit]
    · exact hdigits
    · exact hall
    · exact hnumber

/-- Some of the first digits of the text already make a number beyond the bounds. -/
def LeavesBounds (bounds : Bounds) (text : List Char) : Prop :=
  Leaves bounds (splitSign bounds text).1 0 (splitSign bounds text).2

/-! ### whole texts -/

section Read

variable {bounds : Bounds} (hzero : bounds.Holds 0) {text : List Char} (htext : text ≠ [])

include hzero

theorem holds_withSign_zero (negative : Bool) : bounds.Holds (withSign negative 0) := by
  cases negative <;> exact hzero

/-- Within the bounds a numeral has left them nowhere. -/
theorem Denotes.leavesBounds_iff {n : Int} (hdenotes : Denotes bounds text n) :
    LeavesBounds bounds text ↔ ¬ bounds.Holds n := by
  rw [hdenotes.number]
  exact leaves_iff_of_isDigit hzero hdenotes.isDigit 0

include htext

/-- The three ways in which a text is read. -/
theorem read_cases :
    (∃ n, Denotes bounds text n ∧ ¬ LeavesBounds bounds text ∧ read bounds text = .ok n) ∨
    (LeavesBounds bounds text ∧
      read bounds text = .error (overflow (splitSign bounds text).1)) ∨
    ((¬ ∃ n, Denotes bounds text n) ∧ ¬ LeavesBounds bounds text ∧
      read bounds text = .error .invalidDigit) := by
  have hstart := holds_withSign_zero hzero (splitSign bounds text).1
  rw [read_eq_accumulate bounds htext]
  split
  · next hnone =>
    refine Or.inr (Or.inr ⟨fun ⟨n, hdenotes⟩ ↦ hdenotes.digits_ne_nil hnone, ?_, rfl⟩)
    rw [LeavesBounds, hnone]
    exact not_leaves_nil hstart
  · next hsome =>
    have hread := readsAs_accumulate hzero (splitSign bounds text).1 (splitSign bounds text).2 0
      hstart
    have hsigned : withSign (splitSign bounds text).1 0 = 0 := by
      cases (splitSign bounds text).1 <;> rfl
    rw [hsigned] at hread
    generalize accumulate bounds _ 0 _ = result at hread ⊢
    cases hread with
    | beyond hleaves => exact Or.inr (Or.inl ⟨hleaves, rfl⟩)
    | number hdigits hstays => exact Or.inl ⟨_, ⟨hsome, hdigits, rfl⟩, hstays, rfl⟩
    | invalid hother hstays =>
      exact Or.inr (Or.inr ⟨fun ⟨n, hdenotes⟩ ↦ hother hdenotes.isDigit, hstays, rfl⟩)

/-- A text is accepted if it is a numeral within the bounds, and then read as its number. -/
theorem read_eq_ok_iff (n : Int) :
    read bounds text = .ok n ↔ Denotes bounds text n ∧ bounds.Holds n := by
  have hunique : ∀ {m}, Denotes bounds text m → Denotes bounds text n → m = n :=
    fun hm hn ↦ hm.number.trans hn.number.symm
  rcases read_cases hzero htext with ⟨m, hm, hstays, hread⟩ | ⟨hleaves, hread⟩ | ⟨hnone, -, hread⟩
  · rw [hread, Except.ok.injEq]
    constructor
    · rintro rfl
      exact ⟨hm, not_not.mp ((hm.leavesBounds_iff hzero).not.mp hstays)⟩
    · exact fun ⟨hn, _⟩ ↦ hunique hm hn
  · rw [hread]
    exact iff_of_false nofun fun ⟨hn, hholds⟩ ↦ (hn.leavesBounds_iff hzero).mp hleaves hholds
  · rw [hread]
    exact iff_of_false nofun fun ⟨hn, _⟩ ↦ hnone ⟨n, hn⟩

theorem read_eq_overflow (hleaves : LeavesBounds bounds text) :
    read bounds text = .error (overflow (splitSign bounds text).1) := by
  rcases read_cases hzero htext with ⟨n, -, hstays, -⟩ | ⟨-, hread⟩ | ⟨-, hstays, -⟩
  · exact absurd hleaves hstays
  · exact hread
  · exact absurd hleaves hstays

theorem read_eq_invalidDigit (hrefused : ¬ ∃ n, Denotes bounds text n ∧ bounds.Holds n)
    (hstays : ¬ LeavesBounds bounds text) : read bounds text = .error .invalidDigit := by
  rcases read_cases hzero htext with ⟨n, -, -, hread⟩ | ⟨hleaves, -⟩ | ⟨-, -, hread⟩
  · exact absurd ⟨n, (read_eq_ok_iff hzero htext n).mp hread⟩ hrefused
  · exact absurd hleaves hstays
  · exact hread

end Read

end DatasetSearch.Text.Numeral
