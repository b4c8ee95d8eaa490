/-!
The start of a calendar year as an instant. Years are those of the proleptic Gregorian calendar,
which has a year zero and follows one leap rule in both directions without end; instants have a
start of year only within the range of years for which dates can be formed.
-/

set_option autoImplicit false
set_option relaxedAutoImplicit false

namespace DatasetSearch

/-- Milliseconds since the start of 1970 in universal time. -/
structure Instant where
  millis : Int
  deriving DecidableEq, Repr, Inhabited

namespace Calendar

def millisPerDay : Int := 86400000

def leastYear : Int := -262143

def greatestYear : Int := 262142

def IsLeap (year : Int) : Prop :=
  year % 4 = 0 ∧ (year % 100 ≠ 0 ∨ year % 400 = 0)

instance (year : Int) : Decidable (IsLeap year) :=
  inferInstanceAs (Decidable (_ ∧ _))

/-- The leap years from year one up to the given year, counted negatively before year one. -/
def leapYearsThrough (year : Int) : Int :=
  year / 4 - year / 100 + year / 400

/-- Days from the start of 1970 to the start of the given year. -/
def daysBefore (year : Int) : Int :=
  365 * (year - 1970) + (leapYearsThrough (year - 1) - leapYearsThrough 1969)

def startOfYear (year : Int) : Option Instant :=
  if leastYear ≤ year ∧ year ≤ greatestYear then some ⟨millisPerDay * daysBefore year⟩ else none

theorem daysBefore_succ (year : Int) :
    daysBefore (year + 1) = daysBefore year + if IsLeap year then 366 else 365 := by
  by_cases h : IsLeap year
  · rw [if_pos h]
    unfold IsLeap at h
    unfold daysBefore leapYearsThrough
    omega
  · rw [if_neg h]
    unfold IsLeap at h
    unfold daysBefore leapYearsThrough
    omega

end Calendar

end DatasetSearch
