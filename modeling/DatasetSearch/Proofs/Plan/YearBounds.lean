import DatasetSearch.Proofs.Plan.Distinction

/-!
# Bounds of years

The bound that a year gives is its first instant (`millis_le_iff_of_fromYear`). From one year to the
next the bounds move by the length of the year, which the leap rule gives in both directions from
year one (`millis_sub_of_fromYear`), so later years have later bounds (`millis_lt_of_fromYear`).

Years are words of 32 bits, and dates cover only some of them. A year outside that range gives no
bound. Neither does the last word as the end of a span, where the following year is no word any
more; every other word has its successor, without overflow (`throughYear_eq_fromYear`). The bounds
themselves are milliseconds within a word of 64 bits (`toInt_ofInt_millis_of_fromYear`).
-/

set_option autoImplicit false
set_option relaxedAutoImplicit false

namespace DatasetSearch

open Calendar Request

theorem Calendar.isLeap_iff (year : Int) :
    IsLeap year ↔ (4 ∣ year ∧ ¬ 100 ∣ year) ∨ 400 ∣ year := by
  unfold IsLeap
  omega

namespace FacetRule

/-! ### the bound of a year -/

theorem fromYear_some (year : Int32) :
    fromYear (some year) = if IsDateYear year.toInt then some (yearStart year.toInt) else none :=
  startOfYear_eq year.toInt

theorem fromYear_of_isDateYear {year : Int32} (hdate : IsDateYear year.toInt) :
    fromYear (some year) = some (yearStart year.toInt) := by
  rw [fromYear_some, if_pos hdate]

theorem fromYear_some_eq_none_iff (year : Int32) :
    fromYear (some year) = none ↔ ¬ IsDateYear year.toInt := by
  rw [fromYear_some]
  split <;> simp [*]

theorem fromYear_some_eq_some_iff (year : Int32) (start : Instant) :
    fromYear (some year) = some start ↔ IsDateYear year.toInt ∧ yearStart year.toInt = start := by
  rw [fromYear_some]
  split <;> simp [*]

/-- The bound of a year is not after an instant exactly if the instant lies in that year or in a
later one. -/
theorem millis_le_iff_of_fromYear {year : Int32} {start : Instant}
    (hstart : fromYear (some year) = some start) (t : Instant) :
    start.millis ≤ t.millis ↔ year.toInt ≤ civilYear t := by
  obtain ⟨-, rfl⟩ := (fromYear_some_eq_some_iff year start).mp hstart
  exact millis_startOfYear_le_iff t year.toInt

theorem millis_lt_of_fromYear {year later : Int32} (hlt : year < later) {start next : Instant}
    (hstart : fromYear (some year) = some start) (hnext : fromYear (some later) = some next) :
    start.millis < next.millis := by
  obtain ⟨-, rfl⟩ := (fromYear_some_eq_some_iff year start).mp hstart
  obtain ⟨-, rfl⟩ := (fromYear_some_eq_some_iff later next).mp hnext
  have hdays : daysBefore year.toInt < daysBefore later.toInt :=
    (daysBefore_lt_iff _ _).mpr (Int32.lt_iff_toInt_lt.mp hlt)
  exact Int.mul_lt_mul_of_pos_left hdays (by decide)

/-- The milliseconds of a bound are within a word of 64 bits. -/
theorem toInt_ofInt_millis_of_fromYear {year : Int32} {start : Instant}
    (hstart : fromYear (some year) = some start) :
    (Int64.ofInt start.millis).toInt = start.millis := by
  obtain ⟨hdate, rfl⟩ := (fromYear_some_eq_some_iff year start).mp hstart
  unfold IsDateYear at hdate
  refine Int64.toInt_ofInt_of_le ?_ ?_ <;>
    simp only [yearStart, millisPerDay, daysBefore, leapYearsThrough] <;> omega

/-! ### the year after -/

theorem toInt_add_one {year : Int32} (hlast : year ≠ 2147483647) :
    (year + 1).toInt = year.toInt + 1 := by
  have hle := year.toInt_lt
  have hge := year.le_toInt
  have hne : year.toInt ≠ 2147483647 := fun h ↦ hlast (Int32.toInt_inj.mp h)
  rw [Int32.toInt_add]
  refine Int.bmod_eq_of_le_mul_two ?_ ?_ <;> simp <;> omega

theorem throughYear_eq_fromYear {year : Int32} (hlast : year ≠ 2147483647) :
    throughYear (some year) = fromYear (some (year + 1)) := by
  show startOfYear (year.toInt + 1) = startOfYear (year + 1).toInt
  rw [toInt_add_one hlast]

/-- A year is as long as the leap rule says. -/
theorem millis_sub_of_fromYear {year : Int32} (hdate : IsDateYear year.toInt)
    (hnext : IsDateYear (year.toInt + 1)) :
    ∃ start next, fromYear (some year) = some start ∧ fromYear (some (year + 1)) = some next ∧
      next.millis - start.millis =
        if IsLeap year.toInt then 366 * 86400000 else 365 * 86400000 := by
  have hlast : year ≠ 2147483647 := by
    rintro rfl
    exact absurd hnext (by decide)
  have hword := toInt_add_one hlast
  rw [← hword] at hnext
  refine ⟨_, _, fromYear_of_isDateYear hdate, fromYear_of_isDateYear hnext, ?_⟩
  rw [hword]
  unfold yearStart millisPerDay
  dsimp only
  rw [daysBefore_succ]
  split <;> omega

/-- Bounds of years follow the calendar over all words: where there is one, how far it is to the
next one, which instants come after it, and what the end of a span makes of its last year. Neither
the years nor the milliseconds overflow. -/
theorem yearBounds_follow_calendar :
    (∀ year : Int32, fromYear (some year) = none ↔
      year.toInt < -262143 ∨ 262142 < year.toInt) ∧
    fromYear (some 1970) = some ⟨0⟩ ∧
    (∀ year : Int32, -262143 ≤ year.toInt → year.toInt + 1 ≤ 262142 →
      ∃ start next, fromYear (some year) = some start ∧ fromYear (some (year + 1)) = some next ∧
        next.millis - start.millis =
          if (4 ∣ year.toInt ∧ ¬ 100 ∣ year.toInt) ∨ 400 ∣ year.toInt then 366 * 86400000
          else 365 * 86400000) ∧
    (∀ year later : Int32, year < later → ∀ start ∈ fromYear (some year),
      ∀ next ∈ fromYear (some later), start.millis < next.millis) ∧
    (∀ year : Int32, ∀ start ∈ fromYear (some year),
      (Int64.ofInt start.millis).toInt = start.millis ∧
      ∀ t : Instant, start.millis ≤ t.millis ↔ year.toInt ≤ civilYear t) ∧
    (∀ year : Int32, year ≠ 2147483647 → (year + 1).toInt = year.toInt + 1 ∧
      throughYear (some year) = fromYear (some (year + 1))) ∧
    throughYear (some 2147483647) = none := by
  refine ⟨?absent, rfl, ?length, ?order, ?first, ?following, rfl⟩
  case absent =>
    intro year
    rw [fromYear_some_eq_none_iff, IsDateYear]
    omega
  case length =>
    intro year hleast hgreatest
    simp only [← isLeap_iff]
    exact millis_sub_of_fromYear ⟨hleast, by omega⟩ ⟨by omega, hgreatest⟩
  case order => exact fun _ _ hlt _ hstart _ hnext ↦ millis_lt_of_fromYear hlt hstart hnext
  case first =>
    exact fun _ _ hstart ↦
      ⟨toInt_ofInt_millis_of_fromYear hstart, millis_le_iff_of_fromYear hstart⟩
  case following => exact fun _ hlast ↦ ⟨toInt_add_one hlast, throughYear_eq_fromYear hlast⟩

/-- Year zero is a leap year, and the year 1900 is none; the last year with a date has a bound, and
none as the end of a span. -/
theorem yearBounds_follow_calendar_centuries :
    (∃ start next, fromYear (some 0) = some start ∧ fromYear (some 1) = some next ∧
      next.millis - start.millis = 366 * 86400000) ∧
    (∃ start next, fromYear (some 1900) = some start ∧ fromYear (some 1901) = some next ∧
      next.millis - start.millis = 365 * 86400000) ∧
    fromYear (some 262142) ≠ none ∧ throughYear (some 262142) = none := by
  obtain ⟨habsent, -, hlength, -, -, hfollowing, -⟩ := yearBounds_follow_calendar
  refine ⟨hlength 0 (by decide) (by decide), hlength 1900 (by decide) (by decide), ?_, ?_⟩
  · rw [ne_eq, habsent]
    decide
  · rw [(hfollowing 262142 (by decide)).2, habsent]
    decide

end FacetRule

end DatasetSearch
