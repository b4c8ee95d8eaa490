import DatasetSearch.Binary64.Basic

/-!
Reading decimal texts as floating-point numbers: digits with a point anywhere among them or none,
and an exponent if there is one. At least one digit is needed in front of the exponent and in it.
-/

set_option autoImplicit false
set_option relaxedAutoImplicit false

namespace DatasetSearch.Binary64

def digitsValue (digits : List Char) : Nat :=
  digits.foldl (fun value c ↦ value * 10 + (c.toNat - '0'.toNat)) 0

/-- Splits a sign off; without one the number is not negative. -/
def takeSign : List Char → Bool × List Char
  | '-' :: rest => (true, rest)
  | '+' :: rest => (false, rest)
  | cs => (false, cs)

def readExponent? : List Char → Option Int
  | [] => some 0
  | mark :: rest =>
    let (negative, digits) := takeSign rest
    if (mark = 'e' ∨ mark = 'E') ∧ !digits.isEmpty ∧ digits.all Char.isDigit then
      let value : Int := digitsValue digits
      some (if negative then -value else value)
    else none

/-- The number nearest to a decimal text, infinite if the text is out of range. -/
def ofText? (cs : List Char) : Option Binary64 :=
  let (negative, cs) := takeSign cs
  let whole := cs.takeWhile Char.isDigit
  let (fraction, rest) := match cs.dropWhile Char.isDigit with
    | '.' :: rest => (rest.takeWhile Char.isDigit, rest.dropWhile Char.isDigit)
    | rest => ([], rest)
  let digits := whole ++ fraction
  if digits.isEmpty then none
  else (readExponent? rest).map fun exponent ↦
    ofDecimal negative (digitsValue digits) (exponent - fraction.length)

end DatasetSearch.Binary64
