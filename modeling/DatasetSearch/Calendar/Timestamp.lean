import DatasetSearch.Calendar

/-!
Instants written as date and time of day. The days since the start of year one are divided into
cycles of four hundred years, centuries, spans of four years and years; the last day of a leap
cycle belongs to the year before it. A fraction of a second is written only where it is not zero,
without trailing zeros.
-/

set_option autoImplicit false
set_option relaxedAutoImplicit false

namespace DatasetSearch.Calendar

/-- The year that holds the given day, counted from the start of 1970, and the day's place in it
from zero on. -/
def yearAndDay (day : Int) : Int × Nat :=
  let fromYearOne := day - daysBefore 1
  let cycles := fromYearOne / 146097
  let inCycle := (fromYearOne % 146097).toNat
  let centuries := min (inCycle / 36524) 3
  let inCentury := inCycle - centuries * 36524
  let inFour := inCentury % 1461
  let years := min (inFour / 365) 3
  (400 * cycles + (100 * centuries + 4 * (inCentury / 1461) + years : Nat) + 1,
    inFour - years * 365)

def yearOf (t : Instant) : Int :=
  (yearAndDay (t.millis / millisPerDay)).1

def monthLengths (year : Int) : List Nat :=
  [31, if IsLeap year then 29 else 28, 31, 30, 31, 30, 31, 31, 30, 31, 30, 31]

/-- Month and day of the month, both from one on, of a day's place in its year. -/
def monthAndDay (month : Nat) : List Nat → Nat → Nat × Nat
  | [], place => (month, place + 1)
  | length :: lengths, place =>
    if place < length then (month, place + 1) else monthAndDay (month + 1) lengths (place - length)

def padded (width n : Nat) : List Char :=
  let digits := Nat.toDigits 10 n
  List.replicate (width - digits.length) '0' ++ digits

def fractionText (millis : Nat) : List Char :=
  if millis = 0 then []
  else '.' :: ((padded 3 millis).reverse.dropWhile (· == '0')).reverse

/-- Date and time in universal time, for instants in the years zero to 9999. -/
def timestamp (t : Instant) : String :=
  let (year, place) := yearAndDay (t.millis / millisPerDay)
  let (month, day) := monthAndDay 1 (monthLengths year) place
  let inDay := (t.millis % millisPerDay).toNat
  let seconds := inDay / 1000
  String.ofList (padded 4 year.toNat ++ '-' :: padded 2 month ++ '-' :: padded 2 day ++
    'T' :: padded 2 (seconds / 3600) ++ ':' :: padded 2 (seconds / 60 % 60) ++
    ':' :: padded 2 (seconds % 60) ++ fractionText (inDay % 1000) ++ ['Z'])

end DatasetSearch.Calendar
