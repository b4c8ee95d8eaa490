/-!
Whole numbers written in decimal, read into a bounded range. A sign may come first, the minus sign
only where the range holds negative numbers; leading zeros are allowed. Digits are taken from the
left, and the first fault met decides the answer: a character that is no digit, or a value that has
left the range. Hexadecimal digits are read in either case.
-/

set_option autoImplicit false
set_option relaxedAutoImplicit false

namespace DatasetSearch.Text.Numeral

structure Bounds where
  least : Int
  greatest : Int
  deriving DecidableEq, Repr

inductive Fault where
  | empty
  | invalidDigit
  | tooLarge
  | tooSmall
  deriving DecidableEq, Repr

def Fault.message : Fault → String
  | .empty => "cannot parse integer from empty string"
  | .invalidDigit => "invalid digit found in string"
  | .tooLarge => "number too large to fit in target type"
  | .tooSmall => "number too small to fit in target type"

/-- The bounds of two's complement words of the given width. -/
def Bounds.signed (bits : Nat) : Bounds :=
  ⟨-(1 <<< (bits - 1) : Nat), (1 <<< (bits - 1) : Nat) - 1⟩

def Bounds.unsigned (bits : Nat) : Bounds :=
  ⟨0, (1 <<< bits : Nat) - 1⟩

def digit? (c : Char) : Option Nat :=
  if '0' ≤ c ∧ c ≤ '9' then some (c.toNat - '0'.toNat) else none

/-- Takes digits from the left into `value`, counting downwards after a minus sign. -/
def accumulate (bounds : Bounds) (negative : Bool) (value : Int) : List Char → Except Fault Int
  | [] => .ok value
  | c :: rest =>
    match digit? c with
    | none => .error .invalidDigit
    | some d =>
      let next := if negative then value * 10 - d else value * 10 + d
      if bounds.greatest < next then .error .tooLarge
      else if next < bounds.least then .error .tooSmall
      else accumulate bounds negative next rest

def read (bounds : Bounds) : List Char → Except Fault Int
  | [] => .error .empty
  | ['+'] => .error .invalidDigit
  | ['-'] => .error .invalidDigit
  | '+' :: digits => accumulate bounds false 0 digits
  | '-' :: digits =>
    if bounds.least < 0 then accumulate bounds true 0 digits else .error .invalidDigit
  | digits => accumulate bounds false 0 digits

/-- The decimal digits of a natural number, without leading zeros. -/
def ofNat (n : Nat) : List Char :=
  Nat.toDigits 10 n

def ofInt : Int → List Char
  | .ofNat n => ofNat n
  | .negSucc n => '-' :: ofNat (n + 1)

/-! ### hexadecimal digits -/

def hexDigit? (c : Char) : Option Nat :=
  digit? c <|>
    if 'a' ≤ c ∧ c ≤ 'f' then some (c.toNat - 'a'.toNat + 10)
    else if 'A' ≤ c ∧ c ≤ 'F' then some (c.toNat - 'A'.toNat + 10)
    else none

def hexNumber? (digits : List Char) : Option Nat :=
  digits.foldlM (fun value c ↦ (hexDigit? c).map (value * 16 + ·)) 0

end DatasetSearch.Text.Numeral
