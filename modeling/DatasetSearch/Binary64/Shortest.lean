import DatasetSearch.Binary64.Basic

/-!
The shortest decimal that reads back as a given number, and its notation. Decimals that read back
are those in the interval of reals nearer to the number than to its neighbours. On the grid of
decimals with a given count of digits it is enough to try the two neighbours of the number, and the
first count with a hit wins; of two hits the nearer is taken, and the even one if they are equally
near.
-/

set_option autoImplicit false
set_option relaxedAutoImplicit false

namespace DatasetSearch.Binary64

/-- A decimal: `digits` without trailing zeros, the first of them standing for tens to the power
`exponent`. -/
structure Decimal where
  digits : List Char
  exponent : Int
  deriving DecidableEq, Repr

/-- The greatest power of ten that is not above `num / den`. -/
def decimalExponent (num den : Nat) : Int :=
  let guess : Int := (Nat.toDigits 10 num).length - (Nat.toDigits 10 den).length
  if den * Nat.pow 10 guess.toNat ≤ num * Nat.pow 10 (-guess).toNat then guess else guess - 1

/-- The decimal of `count` digits that reads back as the finite nonzero number `x`, if there is
one: the whole number of steps of the grid. The interval and the grid are compared in fourths of
the last place. -/
def onGrid? (x : Binary64) (leading : Int) (count : Nat) : Option Nat :=
  let m := x.significand
  let quarter := x.scale - 2
  let step := leading - count + 1
  let unit := Nat.pow 10 (-step).toNat <<< quarter.toNat
  let grid := Nat.pow 10 step.toNat <<< (-quarter).toNat
  let value := 4 * m * unit
  let low := (if m = 1 <<< 52 ∧ 1 < x.exponent.val then 4 * m - 1 else 4 * m - 2) * unit
  let high := (4 * m + 2) * unit
  let closed := m % 2 = 0
  let below := value / grid
  let above := below + 1
  let hitBelow := low < below * grid ∨ (closed ∧ low = below * grid)
  let hitAbove := above * grid < high ∨ (closed ∧ above * grid = high)
  if hitBelow ∧ hitAbove then
    let down := value - below * grid
    let up := above * grid - value
    if down < up ∨ (down = up ∧ below % 2 = 0) then some below else some above
  else if hitBelow then some below
  else if hitAbove then some above
  else none

/-- The shortest decimal of a finite nonzero number; seventeen digits are always enough. -/
def shortest (x : Binary64) : Decimal :=
  let (num, den) := x.ratio
  let leading := decimalExponent num den
  let found := (List.range 17).findSome? fun i ↦ (onGrid? x leading (i + 1)).map (·, i + 1)
  let (steps, count) := found.getD (0, 1)
  let written := Nat.toDigits 10 steps
  ⟨(written.reverse.dropWhile (· == '0')).reverse, leading - count + written.length⟩

/-- Where positional notation ends and what an exponent looks like. -/
structure Style where
  leastPositional : Int
  greatestPositional : Int
  plusSign : Bool
  deriving DecidableEq, Repr

def Decimal.positional (d : Decimal) : List Char :=
  if 0 ≤ d.exponent then
    let places := d.exponent.toNat + 1
    let whole := d.digits.take places
    let rest := d.digits.drop places
    whole ++ List.replicate (places - whole.length) '0' ++
      '.' :: (if rest.isEmpty then ['0'] else rest)
  else
    '0' :: '.' :: List.replicate ((-d.exponent).toNat - 1) '0' ++ d.digits

def Decimal.scientific (plusSign : Bool) (d : Decimal) : List Char :=
  let mantissa := match d.digits with
    | first :: second :: rest => first :: '.' :: second :: rest
    | digits => digits
  let sign := if d.exponent < 0 then ['-'] else if plusSign then ['+'] else []
  mantissa ++ 'e' :: sign ++ Nat.toDigits 10 d.exponent.natAbs

def write (style : Style) (x : Binary64) : List Char :=
  let sign := if x.negative then ['-'] else []
  if x.isNaN then ['N', 'a', 'N']
  else if x.isInfinite then sign ++ ['i', 'n', 'f']
  else if x.isZero then sign ++ ['0', '.', '0']
  else
    let d := x.shortest
    if style.leastPositional ≤ d.exponent ∧ d.exponent ≤ style.greatestPositional then
      sign ++ d.positional
    else sign ++ d.scientific style.plusSign

end DatasetSearch.Binary64
