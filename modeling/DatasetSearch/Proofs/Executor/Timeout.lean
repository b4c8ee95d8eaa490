import DatasetSearch.Executor.ConnectionString
import DatasetSearch.Proofs.Binary64.Value
import Mathlib.Data.Rat.Floor

/-!
# Timeouts that no duration holds

Seconds become a duration when they are a number, not below zero, and short of two to the power 64
after rounding to whole nanoseconds. `IsNoDuration` lists what is left over, and
`isDuration_eq_false_iff` says that a client refuses exactly that. The rounding does not matter,
since numbers of that size are whole seconds (`nanoseconds_le_iff`).

The checks of settings ask for a finite and positive timeout and set no upper limit. They keep out
all seconds that make no duration but the long ones (`connect_timeout_iff`), and those they let
pass: `longTimeout_accepted` is one.
-/

set_option autoImplicit false
set_option relaxedAutoImplicit false

namespace DatasetSearch.Executor

/-- Seconds that no duration holds. The nanoseconds may be rounded in either direction where they
lie halfway between two whole numbers. -/
inductive IsNoDuration (seconds : Binary64) : Prop where
  | notNumber (hnan : seconds.isNaN = true)
  | infinite (hinfinite : seconds.isInfinite = true)
  | belowZero (hfinite : seconds.isFinite = true) (hnegative : seconds.toRat < 0)
  | tooLong (hfinite : seconds.isFinite = true) (nanoseconds : ℤ)
    (hnearest : |nanoseconds - seconds.toRat * 10 ^ 9| ≤ 1 / 2)
    (hlong : 2 ^ 64 * 10 ^ 9 ≤ nanoseconds)

/-! ### long timeouts -/

/-- The nearest whole number of nanoseconds reaches the limit if the seconds do. -/
theorem nanoseconds_le_iff (seconds : Binary64) {nanoseconds : ℤ}
    (hnearest : |(nanoseconds : ℚ) - seconds.toRat * 10 ^ 9| ≤ 1 / 2) :
    2 ^ 64 * 10 ^ 9 ≤ nanoseconds ↔ 2 ^ 64 ≤ seconds.toRat := by
  obtain ⟨hlow, hhigh⟩ := abs_le.mp hnearest
  constructor
  · intro hlong
    by_contra hshort
    have hgap := seconds.toRat_le_sub_one (2 ^ 64) (by decide) (by push_cast; linarith)
    have hlong' : (2 ^ 64 * 10 ^ 9 : ℚ) ≤ nanoseconds := by exact_mod_cast hlong
    push_cast at hgap
    linarith
  · intro hlong
    have hlong' : (2 ^ 64 * 10 ^ 9 : ℚ) < nanoseconds + 1 := by linarith
    have hsucc : (2 ^ 64 * 10 ^ 9 : ℤ) < nanoseconds + 1 := by exact_mod_cast hlong'
    omega

/-! ### what a client refuses -/

theorem ratio_lt_iff (seconds : Binary64) :
    seconds.ratio.1 < seconds.ratio.2 <<< 64 ↔
      (seconds.ratio.1 : ℚ) / seconds.ratio.2 < 2 ^ 64 := by
  have hpositive : (0 : ℚ) < seconds.ratio.2 := by exact_mod_cast seconds.ratio_snd_pos
  rw [div_lt_iff₀ hpositive, Nat.shiftLeft_eq, mul_comm]
  exact_mod_cast Iff.rfl

theorem isDuration_iff (seconds : Binary64) :
    isDuration seconds = true ↔
      seconds.isFinite = true ∧ 0 ≤ seconds.toRat ∧ seconds.toRat < 2 ^ 64 := by
  simp only [isDuration, Bool.and_eq_true, Bool.or_eq_true, Bool.not_eq_true', decide_eq_true_eq,
    ratio_lt_iff, ← Binary64.toRat_nonneg_iff, and_assoc]
  refine and_congr_right fun _ ↦ and_congr_right fun hnonneg ↦ ?_
  rw [seconds.ratio_div_eq_toRat hnonneg]

theorem isDuration_eq_false_iff (seconds : Binary64) :
    isDuration seconds = false ↔ IsNoDuration seconds := by
  have hrefuses : isDuration seconds = false ↔
      ¬ (seconds.isFinite = true ∧ 0 ≤ seconds.toRat ∧ seconds.toRat < 2 ^ 64) := by
    rw [← isDuration_iff, Bool.not_eq_true]
  rw [hrefuses]
  constructor
  · intro hrefused
    cases hfinite : seconds.isFinite with
    | false =>
      rcases seconds.isFinite_eq_false_iff.mp hfinite with hnan | hinfinite
      · exact .notNumber hnan
      · exact .infinite hinfinite
    | true =>
      rcases lt_or_ge seconds.toRat 0 with hnegative | hnonneg
      · exact .belowZero hfinite hnegative
      · have hlong : 2 ^ 64 ≤ seconds.toRat :=
          not_lt.mp fun hshort ↦ hrefused ⟨hfinite, hnonneg, hshort⟩
        have hnearest := abs_sub_round (seconds.toRat * 10 ^ 9)
        rw [abs_sub_comm] at hnearest
        exact .tooLong hfinite _ hnearest ((nanoseconds_le_iff seconds hnearest).mpr hlong)
  · rintro hrefused ⟨hfinite, hnonneg, hshort⟩
    cases hrefused with
    | notNumber hnan =>
      exact absurd (seconds.isFinite_eq_false_iff.mpr (.inl hnan)) (by simp [hfinite])
    | infinite hinfinite =>
      exact absurd (seconds.isFinite_eq_false_iff.mpr (.inr hinfinite)) (by simp [hfinite])
    | belowZero _ hnegative => exact absurd hnonneg (not_le.mpr hnegative)
    | tooLong _ n hnearest hlong =>
      exact absurd hshort (not_lt.mpr ((nanoseconds_le_iff seconds hnearest).mp hlong))

/-- The timeout is looked at once the connection string is read. -/
theorem connect_eq_timeout_iff (database : Settings.Database) :
    connect database = .error .timeout ↔
      (∃ parsed, ConnectionString.parse? database.connectionString = some parsed ∧
        parsed.service = false) ∧ isDuration database.requestTimeout = false := by
  unfold connect
  cases ConnectionString.parse? database.connectionString with
  | none => simp
  | some parsed =>
    cases hservice : parsed.service with
    | true => simp [Option.filter_some, hservice]
    | false =>
      cases hseconds : isDuration database.requestTimeout with
      | false => simp [Option.filter_some, hservice]
      | true =>
        simp only [Option.filter_some, hservice, Bool.not_false, if_true, Bool.not_true,
          Bool.false_eq_true, if_false, Bool.true_eq_false, and_false, iff_false]
        split <;> simp

/-! ### accepted settings -/

/-- Of the timeouts that the checks let pass, those from two to the power 64 seconds on are no
durations, and a client cannot be prepared with them. -/
theorem connect_timeout_iff (settings : Settings) (hvalid : settings.validate = .ok ()) :
    (IsNoDuration settings.database.requestTimeout ↔
      2 ^ 64 ≤ settings.database.requestTimeout.toRat) ∧
    (connect settings.database = .error .timeout ↔
      (∃ parsed, ConnectionString.parse? settings.database.connectionString = some parsed ∧
        parsed.service = false) ∧ 2 ^ 64 ≤ settings.database.requestTimeout.toRat) := by
  have haccepted := (Settings.validate_eq_ok_iff settings).mp hvalid
  have hpositive := Binary64.toRat_pos_of_isPositive _ haccepted.isPositive_requestTimeout
  have hduration : isDuration settings.database.requestTimeout = false ↔
      2 ^ 64 ≤ settings.database.requestTimeout.toRat := by
    rw [← Bool.not_eq_true, isDuration_iff, ← not_lt]
    simp [haccepted.isFinite_requestTimeout, hpositive.le]
  exact ⟨by rw [← isDuration_eq_false_iff, hduration], by rw [connect_eq_timeout_iff, hduration]⟩

/-- A timeout of three million million years. -/
def longTimeout : Settings where
  database := { connectionString := "mongodb://localhost", requestTimeout := .ofNat (10 ^ 20) }

/-- The checks let this timeout pass, although it is no duration. -/
theorem longTimeout_accepted :
    longTimeout.validate = .ok () ∧ IsNoDuration longTimeout.database.requestTimeout ∧
      connect longTimeout.database = .error .timeout := by
  refine ⟨by decide +kernel, (isDuration_eq_false_iff _).mp (by decide +kernel), ?_⟩
  decide +kernel

/-- The greatest number below two to the power 64. -/
def greatestTimeout : Settings where
  database := {
    connectionString := "mongodb://localhost"
    requestTimeout := .ofWord false 0x43EFFFFFFFFFFFFF }

theorem connect_timeout_iff_greatestTimeout :
    greatestTimeout.validate = .ok () ∧
      greatestTimeout.database.requestTimeout.toRat = 2 ^ 64 - 2 ^ 11 ∧
      ¬ IsNoDuration greatestTimeout.database.requestTimeout ∧
      connect greatestTimeout.database ≠ .error .timeout := by
  have hvalid : greatestTimeout.validate = .ok () := by decide +kernel
  have hvalue : greatestTimeout.database.requestTimeout.toRat = 2 ^ 64 - 2 ^ 11 := by
    decide +kernel
  have hshort : ¬ 2 ^ 64 ≤ greatestTimeout.database.requestTimeout.toRat := by
    rw [hvalue]
    norm_num
  obtain ⟨hduration, hconnect⟩ := connect_timeout_iff greatestTimeout hvalid
  exact ⟨hvalid, hvalue, fun hno ↦ hshort (hduration.mp hno),
    fun hrefused ↦ hshort (hconnect.mp hrefused).2⟩

end DatasetSearch.Executor
