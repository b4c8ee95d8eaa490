/-!
Binary floating-point numbers of 64 bits. A number is its sign, its biased exponent and its
fraction; a finite one is worth significand times a power of two. The arithmetic here is exact
rational arithmetic followed by one rounding to the nearest number, halves going to the even
neighbour.
-/

set_option autoImplicit false
set_option relaxedAutoImplicit false

namespace DatasetSearch

structure Binary64 where
  negative : Bool
  exponent : Fin 2048
  fraction : Fin (1 <<< 52)
  deriving DecidableEq, Repr

namespace Binary64

def isFinite (x : Binary64) : Bool :=
  x.exponent.val != 2047

def isNaN (x : Binary64) : Bool :=
  x.exponent.val == 2047 && x.fraction.val != 0

def isInfinite (x : Binary64) : Bool :=
  x.exponent.val == 2047 && x.fraction.val == 0

def isZero (x : Binary64) : Bool :=
  x.exponent.val == 0 && x.fraction.val == 0

/-- Greater than zero; infinity is, and what is not a number is not. -/
def isPositive (x : Binary64) : Bool :=
  !x.negative && !x.isZero && !x.isNaN

/-- The whole number that the scale multiplies. -/
def significand (x : Binary64) : Nat :=
  if x.exponent.val = 0 then x.fraction.val else (1 <<< 52) + x.fraction.val

/-- The power of two that multiplies the significand. -/
def scale (x : Binary64) : Int :=
  (max x.exponent.val 1 : Nat) - 1075

/-- Numerator and denominator of the absolute value of a finite number. -/
def ratio (x : Binary64) : Nat × Nat :=
  (x.significand <<< x.scale.toNat, 1 <<< (-x.scale).toNat)

/-- The number whose exponent and fraction fields, read as one word, are `word`. -/
def ofWord (negative : Bool) (word : Nat) : Binary64 where
  negative := negative
  exponent := ⟨(word >>> 52) % 2048, Nat.mod_lt _ (by decide)⟩
  fraction := ⟨word % (1 <<< 52), Nat.mod_lt _ (by decide)⟩

def zero (negative : Bool) : Binary64 := ofWord negative 0

def infinity (negative : Bool) : Binary64 := ofWord negative (2047 <<< 52)

def nan : Binary64 := ofWord false ((2047 <<< 52) + (1 <<< 51))

/-! ### rounding -/

/-- The quotient rounded to the nearest whole number, a half to the even neighbour. -/
def roundDiv (n d : Nat) : Nat :=
  let floor := n / d
  let twice := 2 * (n % d)
  if d < twice || (twice == d && floor % 2 == 1) then floor + 1 else floor

/-- The quotient of two naturals and a power of two, as a numerator and a denominator. -/
def scaled (num den : Nat) (power : Int) : Nat × Nat :=
  (num <<< (-power).toNat, den <<< power.toNat)

/-- The power of two of the last place in a number near `num / den`. It leaves a quotient below
`2 ^ 53`, and one of at least `2 ^ 52` unless it is the least power there is. -/
def lastPlace (num den : Nat) : Int :=
  let power := max (-1074) ((Nat.log2 num : Int) - Nat.log2 den - 53)
  let (n, d) := scaled num den power
  if 1 <<< 53 ≤ n / d then power + 1 else power

/-- The number nearest to `num / den`. Consecutive numbers have consecutive words, so a quotient
that rounds up to `2 ^ 53` carries into the exponent by itself. -/
def ofRatio (negative : Bool) (num den : Nat) : Binary64 :=
  if num = 0 then zero negative
  else
    let power := lastPlace num den
    let (n, d) := scaled num den power
    let word := ((power + 1074).toNat <<< 52) + roundDiv n d
    if 2047 <<< 52 ≤ word then infinity negative else ofWord negative word

def ofNat (n : Nat) : Binary64 := ofRatio false n 1

def ofInt (n : Int) : Binary64 := ofRatio (decide (n < 0)) n.natAbs 1

/-- The number nearest to `digits * 10 ^ exponent`. An exponent far outside the range of the type
decides the answer without the power being formed. -/
def ofDecimal (negative : Bool) (digits : Nat) (exponent : Int) : Binary64 :=
  let places := (Nat.toDigits 10 digits).length
  if digits = 0 then zero negative
  else if 400 < exponent + places then infinity negative
  else if exponent + places < -400 then zero negative
  else ofRatio negative (digits * Nat.pow 10 exponent.toNat) (Nat.pow 10 (-exponent).toNat)

/-! ### arithmetic -/

def mul (x y : Binary64) : Binary64 :=
  let sign := x.negative != y.negative
  if x.isNaN || y.isNaN then nan
  else if x.isInfinite || y.isInfinite then
    if x.isZero || y.isZero then nan else infinity sign
  else
    let (a, b) := x.ratio
    let (c, d) := y.ratio
    ofRatio sign (a * c) (b * d)

def div (x y : Binary64) : Binary64 :=
  let sign := x.negative != y.negative
  if x.isNaN || y.isNaN || (x.isInfinite && y.isInfinite) || (x.isZero && y.isZero) then nan
  else if x.isInfinite || y.isZero then infinity sign
  else if y.isInfinite then zero sign
  else
    let (a, b) := x.ratio
    let (c, d) := y.ratio
    ofRatio sign (a * d) (b * c)

end Binary64

end DatasetSearch
