import DatasetSearch.Calendar
import Mathlib.Order.Monotone.Basic

/-!
# The year of an instant

The civil year of an instant is found by walking: from the start of 1970 forwards or backwards, one
year at a time, each as long as the leap rule says. Nothing is divided but the milliseconds into
days, so the walk shares only `IsLeap` with the closed formula `daysBefore`.

`millis_startOfYear_le_iff` joins the two: an instant is not before the start of a year exactly if
its civil year is that year or a later one. Comparing years and comparing instants with starts of
years are therefore the same thing, for instants before 1970 and before year one as well.
-/

set_option autoImplicit false
set_option relaxedAutoImplicit false

namespace DatasetSearch.Calendar

/-! ### the walk -/

def yearLength (year : Int) : Nat :=
  if IsLeap year then 366 else 365

theorem yearLength_pos (year : Int) : 0 < yearLength year := by
  unfold yearLength
  split <;> decide

/-- The year of the day that lies `days` days after the first day of `year`. -/
def yearFrom (year : Int) (days : Nat) : Int :=
  if days < yearLength year then year else yearFrom (year + 1) (days - yearLength year)
  termination_by days
  decreasing_by
    have hpos := yearLength_pos year
    omega

/-- The year of the day that lies `days` days before the last day of the year before `year`. -/
def yearUntil (year : Int) (days : Nat) : Int :=
  if days < yearLength (year - 1) then year - 1
  else yearUntil (year - 1) (days - yearLength (year - 1))
  termination_by days
  decreasing_by
    have hpos := yearLength_pos (year - 1)
    omega

/-- The year of the proleptic Gregorian calendar in which an instant lies. -/
def civilYear (t : Instant) : Int :=
  match t.millis / millisPerDay with
  | .ofNat days => yearFrom 1970 days
  | .negSucc days => yearUntil 1970 days

/-! ### the walk against the formula -/

theorem daysBefore_add_one (year : Int) :
    daysBefore (year + 1) = daysBefore year + yearLength year := by
  rw [daysBefore_succ, yearLength]
  split <;> rfl

theorem daysBefore_sub_one (year : Int) :
    daysBefore (year - 1) = daysBefore year - yearLength (year - 1) := by
  have hstep := daysBefore_add_one (year - 1)
  rw [Int.sub_add_cancel] at hstep
  omega

theorem daysBefore_lt_iff (year other : Int) :
    daysBefore year < daysBefore other ↔ year < other := by
  have hmono : StrictMono daysBefore := by
    refine strictMono_int_of_lt_succ fun year ↦ ?_
    rw [daysBefore_add_one]
    have hpos := yearLength_pos year
    omega
  exact hmono.lt_iff_lt

/-- A day lies in a year if it is not before the year's first day and before that of the next. -/
def InYear (day year : Int) : Prop :=
  daysBefore year ≤ day ∧ day < daysBefore (year + 1)

theorem inYear_yearFrom (year : Int) (days : Nat) :
    InYear (daysBefore year + days) (yearFrom year days) := by
  fun_induction yearFrom year days with
  | case1 year days hshort =>
    have hstep := daysBefore_add_one year
    constructor <;> omega
  | case2 year days hlong ih =>
    have hday : daysBefore (year + 1) + (days - yearLength year : Nat) =
        daysBefore year + days := by
      rw [daysBefore_add_one]
      omega
    rwa [hday] at ih

theorem inYear_yearUntil (year : Int) (days : Nat) :
    InYear (daysBefore year - 1 - days) (yearUntil year days) := by
  fun_induction yearUntil year days with
  | case1 year days hshort =>
    have hstep := daysBefore_sub_one year
    unfold InYear
    rw [Int.sub_add_cancel]
    omega
  | case2 year days hlong ih =>
    have hday : daysBefore (year - 1) - 1 - (days - yearLength (year - 1) : Nat) =
        daysBefore year - 1 - days := by
      rw [daysBefore_sub_one]
      omega
    rwa [hday] at ih

theorem inYear_civilYear (t : Instant) : InYear (t.millis / millisPerDay) (civilYear t) := by
  have hepoch : daysBefore 1970 = 0 := rfl
  unfold civilYear
  split
  · next days hday =>
    have hwalk := inYear_yearFrom 1970 days
    rwa [hepoch, Int.zero_add, ← Int.ofNat_eq_natCast, ← hday] at hwalk
  · next days hday =>
    have hwalk := inYear_yearUntil 1970 days
    have hback : daysBefore 1970 - 1 - days = t.millis / millisPerDay := by
      rw [hday, hepoch, Int.negSucc_eq]
      omega
    rwa [hback] at hwalk

theorem daysBefore_le_iff (day year other : Int) (hin : InYear day year) :
    daysBefore other ≤ day ↔ other ≤ year := by
  obtain ⟨hfirst, hlast⟩ := hin
  have hnext := daysBefore_lt_iff other (year + 1)
  have hprevious := daysBefore_lt_iff year other
  constructor <;> omega

/-- An instant is at or after the start of a year exactly if its civil year is not an earlier
one. -/
theorem millis_startOfYear_le_iff (t : Instant) (year : Int) :
    millisPerDay * daysBefore year ≤ t.millis ↔ year ≤ civilYear t := by
  rw [← daysBefore_le_iff _ _ year (inYear_civilYear t), Int.mul_comm]
  exact (Int.le_ediv_iff_mul_le (by decide)).symm

end DatasetSearch.Calendar
