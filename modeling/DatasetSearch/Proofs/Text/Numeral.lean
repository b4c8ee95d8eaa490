import DatasetSearch.Text.Numeral

/-!
# Reading back decimal numerals

Digits are taken into a value of one sign, so its magnitude only grows: if the number that all
digits stand for is within the bounds, then so is every value on the way to it. `accumulate_digits`
is that induction, and `read_ofInt` reads the decimal text of any number within bounds as that
number.
-/

set_option autoImplicit false
set_option relaxedAutoImplicit false

namespace DatasetSearch.Text.Numeral

/-! ### digits -/

theorem digit?_of_isDigit {c : Char} (hc : c.isDigit = true) :
    digit? c = some (c.toNat - '0'.toNat) := by
  simp only [Char.isDigit, Bool.and_eq_true, decide_eq_true_eq] at hc
  exact if_pos hc

theorem toNat_of_isDigit {c : Char} (hc : c.isDigit = true) :
    0x30 ≤ c.toNat ∧ c.toNat ≤ 0x39 := by
  simp only [Char.isDigit, Bool.and_eq_true, decide_eq_true_eq] at hc
  exact hc

theorem isDigit_of_mem_ofNat {n : Nat} {c : Char} (hc : c ∈ ofNat n) : c.isDigit = true :=
  Nat.isDigit_of_mem_toDigits (by decide) (by decide) hc

theorem ofNat_ne_nil (n : Nat) : ofNat n ≠ [] :=
  Nat.toDigits_ne_nil

/-- Reading more digits never makes a number smaller. -/
theorem le_ofDigitChars (digits : List Char) (value : Nat) :
    value ≤ Nat.ofDigitChars 10 digits value := by
  induction digits generalizing value with
  | nil => simp
  | cons c digits ih =>
    rw [Nat.ofDigitChars_cons]
    have hrest := ih (10 * value + (c.toNat - '0'.toNat))
    omega

/-! ### accumulation -/

/-- A magnitude with a sign. -/
def withSign (negative : Bool) (n : Nat) : Int :=
  if negative then -n else n

/-- Bounds that hold zero hold every value between zero and one of their numbers. -/
def Bounds.Holds (bounds : Bounds) (n : Int) : Prop :=
  bounds.least ≤ n ∧ n ≤ bounds.greatest

instance (bounds : Bounds) (n : Int) : Decidable (bounds.Holds n) :=
  inferInstanceAs (Decidable (_ ∧ _))

theorem Bounds.Holds.withSign_of_le {bounds : Bounds} (hzero : bounds.Holds 0) {negative : Bool}
    {small large : Nat} (hlarge : bounds.Holds (withSign negative large)) (hle : small ≤ large) :
    bounds.Holds (withSign negative small) := by
  unfold Bounds.Holds withSign at *
  cases negative <;> simp only [Bool.false_eq_true, ↓reduceIte] at * <;> omega

theorem accumulate_digits {bounds : Bounds} (hzero : bounds.Holds 0) (negative : Bool)
    {digits : List Char} (hdigits : ∀ c ∈ digits, c.isDigit = true) (value : Nat)
    (hholds : bounds.Holds (withSign negative (Nat.ofDigitChars 10 digits value))) :
    accumulate bounds negative (withSign negative value) digits =
      .ok (withSign negative (Nat.ofDigitChars 10 digits value)) := by
  induction digits generalizing value with
  | nil => simp [accumulate]
  | cons c digits ih =>
    have hc : c.isDigit = true := hdigits c List.mem_cons_self
    rw [Nat.ofDigitChars_cons] at hholds ⊢
    have hrest := ih (fun d hd ↦ hdigits d (List.mem_cons_of_mem c hd))
      (10 * value + (c.toNat - '0'.toNat)) hholds
    have hnext : bounds.Holds (withSign negative (10 * value + (c.toNat - '0'.toNat))) :=
      hzero.withSign_of_le hholds (le_ofDigitChars digits _)
    have hstep : (if negative then withSign negative value * 10 - (c.toNat - '0'.toNat : Nat)
        else withSign negative value * 10 + (c.toNat - '0'.toNat : Nat)) =
        withSign negative (10 * value + (c.toNat - '0'.toNat)) := by
      cases negative <;> simp only [withSign, Bool.false_eq_true, ↓reduceIte] <;> omega
    rw [accumulate, digit?_of_isDigit hc]
    dsimp only
    rw [hstep, if_neg (Int.not_lt.mpr hnext.2), if_neg (Int.not_lt.mpr hnext.1)]
    exact hrest

theorem accumulate_ofNat {bounds : Bounds} (hzero : bounds.Holds 0) (negative : Bool) (n : Nat)
    (hholds : bounds.Holds (withSign negative n)) :
    accumulate bounds negative 0 (ofNat n) = .ok (withSign negative n) := by
  have hvalue : Nat.ofDigitChars 10 (ofNat n) 0 = n := Nat.ofDigitChars_ten_toDigits
  have hsigned : (0 : Int) = withSign negative 0 := by cases negative <;> rfl
  have hdigits := accumulate_digits hzero negative (fun c ↦ isDigit_of_mem_ofNat) 0
    (hvalue.symm ▸ hholds)
  rwa [hvalue, ← hsigned] at hdigits

/-! ### signs -/

theorem read_of_isDigit (bounds : Bounds) {c : Char} (hc : c.isDigit = true) (rest : List Char) :
    read bounds (c :: rest) = accumulate bounds false 0 (c :: rest) := by
  have hplus : c ≠ '+' := by
    rintro rfl
    exact absurd hc (by decide)
  have hminus : c ≠ '-' := by
    rintro rfl
    exact absurd hc (by decide)
  unfold read
  split <;> simp_all

theorem read_minus (bounds : Bounds) (hnegative : bounds.least < 0) {digits : List Char}
    (hdigits : digits ≠ []) :
    read bounds ('-' :: digits) = accumulate bounds true 0 digits := by
  cases digits with
  | nil => exact absurd rfl hdigits
  | cons c rest => simp [read, hnegative]

/-- The decimal text of a number is read as that number, by all bounds that hold it and zero. -/
theorem read_ofInt {bounds : Bounds} (hzero : bounds.Holds 0) {n : Int} (hn : bounds.Holds n) :
    read bounds (ofInt n) = .ok n := by
  cases n with
  | ofNat n =>
    obtain ⟨c, rest, hdigits⟩ := List.exists_cons_of_ne_nil (ofNat_ne_nil n)
    have hc : c.isDigit = true := isDigit_of_mem_ofNat (hdigits ▸ List.mem_cons_self)
    have hread := accumulate_ofNat hzero false n hn
    rw [ofInt]
    rw [hdigits] at hread ⊢
    rw [read_of_isDigit bounds hc, hread]
    rfl
  | negSucc n =>
    have hsigned : withSign true (n + 1) = Int.negSucc n := rfl
    have hnegative : bounds.least < 0 := Int.lt_of_le_of_lt hn.1 (Int.negSucc_lt_zero n)
    rw [ofInt, read_minus bounds hnegative (ofNat_ne_nil _),
      accumulate_ofNat hzero true (n + 1) (hsigned ▸ hn), hsigned]

theorem mem_ofInt {n : Int} {c : Char} (hc : c ∈ ofInt n) : c.isDigit = true ∨ c = '-' := by
  cases n with
  | ofNat n => exact Or.inl (isDigit_of_mem_ofNat hc)
  | negSucc n =>
    rcases List.mem_cons.mp hc with rfl | hdigit
    · exact Or.inr rfl
    · exact Or.inl (isDigit_of_mem_ofNat hdigit)

theorem ofInt_ne_nil (n : Int) : ofInt n ≠ [] := by
  cases n with
  | ofNat n => exact ofNat_ne_nil n
  | negSucc n => exact List.cons_ne_nil _ _

end DatasetSearch.Text.Numeral
