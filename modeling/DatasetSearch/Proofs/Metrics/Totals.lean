import DatasetSearch.Metrics
import Mathlib.Algebra.BigOperators.Group.List.Basic
import Mathlib.Algebra.Order.BigOperators.Group.List
import Mathlib.Algebra.Order.Ring.Nat
import Mathlib.Data.List.Induction

/-!
# What a snapshot reports

The metrics of a service are told of calls one after the other. Each call moves every counter by an
amount of its own (`record_totals`), so what the counters hold in the end are the totals of all
calls, as words (`recordAll_eq_totals`). Totals do not depend on the order of the calls
(`totals_eq_of_perm`), and neither does a snapshot.

As long as no total reaches the size of a word nothing wraps around. The average latency is then a
quotient of the true sum and the true number of latencies, which lies between the least and the
greatest of them (`le_average`, `average_le`).
-/

set_option autoImplicit false
set_option relaxedAutoImplicit false

namespace DatasetSearch.Metrics

/-! ### calls -/

/-- What metrics are told of. -/
inductive Call where
  | success (elapsed : Duration) (records : Nat)
  | failure
  | rejection

namespace Call

def isSuccess : Call → Bool
  | success _ _ => true
  | _ => false

def isFailure : Call → Bool
  | failure => true
  | _ => false

def isRejection : Call → Bool
  | rejection => true
  | _ => false

def records : Call → Nat
  | success _ records => records
  | _ => 0

/-- The whole milliseconds of a successful search. -/
def latency? : Call → Option Nat
  | success elapsed _ => some elapsed.wholeMillis
  | _ => none

end Call

def record (metrics : Metrics) : Call → Metrics
  | .success elapsed records => metrics.recordSuccess elapsed records
  | .failure => metrics.recordFailure
  | .rejection => metrics.recordRejection

/-- Calls on fresh metrics. -/
def recordAll (calls : List Call) : Metrics :=
  calls.foldl record {}

def latencies (calls : List Call) : List Nat :=
  calls.filterMap Call.latency?

theorem length_latencies (calls : List Call) :
    (latencies calls).length = calls.countP Call.isSuccess := by
  have hlatency : (fun call : Call ↦ call.latency?.isSome) = Call.isSuccess := by
    funext call
    cases call <;> rfl
  rw [latencies, List.length_filterMap_eq_countP, hlatency]

/-! ### totals -/

def totals (calls : List Call) : Metrics where
  searches := .ofNat (calls.countP Call.isSuccess)
  rejected := .ofNat (calls.countP Call.isRejection)
  failures := .ofNat (calls.countP Call.isFailure)
  recordsReturned := .ofNat (calls.map Call.records).sum
  totalLatencyMillis := .ofNat (latencies calls).sum

/-- One more call moves each counter by its own amount. -/
theorem record_totals (calls : List Call) (call : Call) :
    record (totals calls) call = totals (calls ++ [call]) := by
  cases call <;>
    simp [record, recordSuccess, recordFailure, recordRejection, totals, latencies,
      List.countP_append, List.filterMap_append, List.filterMap_cons, Call.isSuccess,
      Call.isFailure, Call.isRejection, Call.records, Call.latency?, UInt64.ofNat_add]

theorem recordAll_eq_totals (calls : List Call) : recordAll calls = totals calls := by
  induction calls using List.reverseRecOn with
  | nil => rfl
  | append_singleton calls call ih =>
    rw [recordAll, List.foldl_concat, ← recordAll, ih, record_totals]

theorem totals_eq_of_perm {calls others : List Call} (hperm : calls.Perm others) :
    totals calls = totals others := by
  have hrecords : (calls.map Call.records).sum = (others.map Call.records).sum :=
    (hperm.map Call.records).sum_eq
  have hlatencies : (latencies calls).sum = (latencies others).sum :=
    (hperm.filterMap Call.latency?).sum_eq
  rw [totals, totals, hrecords, hlatencies, hperm.countP_eq, hperm.countP_eq, hperm.countP_eq]

/-! ### averages -/

theorem le_average {latencies : List Nat} (hsome : latencies ≠ []) {least : Nat}
    (hleast : ∀ latency ∈ latencies, least ≤ latency) :
    least ≤ latencies.sum / latencies.length := by
  rw [Nat.le_div_iff_mul_le (List.length_pos_iff.mpr hsome), mul_comm]
  exact List.card_nsmul_le_sum latencies least hleast

theorem average_le {latencies : List Nat} {greatest : Nat}
    (hgreatest : ∀ latency ∈ latencies, latency ≤ greatest) :
    latencies.sum / latencies.length ≤ greatest := by
  apply Nat.div_le_of_le_mul
  exact List.sum_le_card_nsmul latencies greatest hgreatest

/-! ### snapshots -/

/-- The numbers of a snapshot, for any calls. -/
structure Snapshot.Reports (snapshot : Snapshot) (calls : List Call) : Prop where
  searches : snapshot.searches.toNat = calls.countP Call.isSuccess % 2 ^ 64
  failures : snapshot.failures.toNat = calls.countP Call.isFailure % 2 ^ 64
  rejected : snapshot.rejected.toNat = calls.countP Call.isRejection % 2 ^ 64
  recordsReturned : snapshot.recordsReturned.toNat = (calls.map Call.records).sum % 2 ^ 64
  average_eq_none_iff : snapshot.averageLatencyMillis = none ↔ snapshot.searches = 0
  average : ∀ average, snapshot.averageLatencyMillis = some average →
    average.toNat =
      ((latencies calls).map (· % 2 ^ 64)).sum % 2 ^ 64 / snapshot.searches.toNat

theorem averageLatencyMillis_snapshot (metrics : Metrics) :
    metrics.snapshot.averageLatencyMillis =
      if metrics.searches = 0 then none else some (metrics.totalLatencyMillis / metrics.searches) :=
  rfl

theorem snapshot_reports (calls : List Call) : (recordAll calls).snapshot.Reports calls := by
  rw [recordAll_eq_totals]
  constructor
  case searches => exact UInt64.toNat_ofNat'
  case failures => exact UInt64.toNat_ofNat'
  case rejected => exact UInt64.toNat_ofNat'
  case recordsReturned => exact UInt64.toNat_ofNat'
  case average_eq_none_iff => simp [snapshot]
  case average =>
    intro average haverage
    have hsum : (totals calls).totalLatencyMillis.toNat =
        ((latencies calls).map (· % 2 ^ 64)).sum % 2 ^ 64 := by
      rw [← List.sum_nat_mod]
      exact UInt64.toNat_ofNat'
    rw [averageLatencyMillis_snapshot] at haverage
    split at haverage
    · cases haverage
    · cases haverage
      rw [UInt64.toNat_div, hsum]
      rfl

/-! ### without wrapping -/

/-- What is more to be said of a snapshot when no counter has wrapped around. -/
structure Snapshot.IsExact (snapshot : Snapshot) (calls : List Call) : Prop where
  total_lt : snapshot.searches.toNat + snapshot.failures.toNat < 2 ^ 64
  total : (snapshot.searches + snapshot.failures).toNat =
    calls.countP Call.isSuccess + calls.countP Call.isFailure
  between : (∃ call ∈ calls, call.isSuccess = true) → ∃ least greatest average,
    (latencies calls).min? = some least ∧ (latencies calls).max? = some greatest ∧
      snapshot.averageLatencyMillis = some average ∧
      least ≤ average.toNat ∧ average.toNat ≤ greatest

theorem countP_add_countP_le (calls : List Call) :
    calls.countP Call.isSuccess + calls.countP Call.isFailure ≤ calls.length := by
  induction calls with
  | nil => exact Nat.le_refl 0
  | cons call calls ih =>
    have hone : (if call.isSuccess then 1 else 0) + (if call.isFailure then 1 else 0) ≤ 1 := by
      cases call <;> simp [Call.isSuccess, Call.isFailure]
    rw [List.countP_cons, List.countP_cons, List.length_cons]
    omega

section Small

variable {calls : List Call} (hlength : calls.length < 2 ^ 64)

include hlength

theorem toNat_searches : (recordAll calls).searches.toNat = calls.countP Call.isSuccess := by
  rw [recordAll_eq_totals]
  exact UInt64.toNat_ofNat_of_lt' (Nat.lt_of_le_of_lt List.countP_le_length hlength)

theorem toNat_failures : (recordAll calls).failures.toNat = calls.countP Call.isFailure := by
  rw [recordAll_eq_totals]
  exact UInt64.toNat_ofNat_of_lt' (Nat.lt_of_le_of_lt List.countP_le_length hlength)

variable (hsum : (latencies calls).sum < 2 ^ 64)

include hsum

/-- The average is a quotient of numbers that have not wrapped around. -/
theorem averageLatencyMillis_of_latencies (hsome : latencies calls ≠ []) :
    ∃ average, (recordAll calls).snapshot.averageLatencyMillis = some average ∧
      average.toNat = (latencies calls).sum / (latencies calls).length := by
  have hsearches := toNat_searches hlength
  rw [← length_latencies] at hsearches
  have htotal : (recordAll calls).totalLatencyMillis.toNat = (latencies calls).sum := by
    rw [recordAll_eq_totals]
    exact UInt64.toNat_ofNat_of_lt' hsum
  have hzero : (recordAll calls).searches ≠ 0 := by
    intro h
    rw [h] at hsearches
    exact hsome (List.eq_nil_of_length_eq_zero hsearches.symm)
  refine ⟨_, (averageLatencyMillis_snapshot _).trans (if_neg hzero), ?_⟩
  rw [UInt64.toNat_div, htotal, hsearches]

theorem snapshot_isExact : (recordAll calls).snapshot.IsExact calls := by
  have hsearches := toNat_searches hlength
  have hfailures := toNat_failures hlength
  have htotal := countP_add_countP_le calls
  have hlt : (recordAll calls).searches.toNat + (recordAll calls).failures.toNat < 2 ^ 64 := by
    omega
  constructor
  case total_lt => exact hlt
  case total =>
    show ((recordAll calls).searches + (recordAll calls).failures).toNat = _
    rw [UInt64.toNat_add, Nat.mod_eq_of_lt hlt, hsearches, hfailures]
  case between =>
    intro hsuccess
    have hsome : latencies calls ≠ [] := by
      rw [← List.length_pos_iff, length_latencies, List.countP_pos_iff]
      exact hsuccess
    obtain ⟨average, haverage, hquotient⟩ :=
      averageLatencyMillis_of_latencies hlength hsum hsome
    obtain ⟨least, hmin⟩ := Option.ne_none_iff_exists'.mp (mt List.min?_eq_none_iff.mp hsome)
    obtain ⟨greatest, hmax⟩ := Option.ne_none_iff_exists'.mp (mt List.max?_eq_none_iff.mp hsome)
    refine ⟨least, greatest, average, hmin, hmax, haverage, ?_, ?_⟩
    · rw [hquotient]
      exact le_average hsome (List.min?_eq_some_iff.mp hmin).2
    · rw [hquotient]
      exact average_le (List.max?_eq_some_iff.mp hmax).2

end Small

/-- Snapshots are sums over the calls, whatever their order. -/
theorem snapshot_sums (calls : List Call) :
    (recordAll calls).snapshot.Reports calls ∧
    (∀ others, calls.Perm others → (recordAll others).snapshot = (recordAll calls).snapshot) ∧
    (calls.length < 2 ^ 64 → (latencies calls).sum < 2 ^ 64 →
      (recordAll calls).snapshot.IsExact calls) := by
  refine ⟨snapshot_reports calls, fun others hperm ↦ ?_, snapshot_isExact⟩
  rw [recordAll_eq_totals, recordAll_eq_totals, totals_eq_of_perm hperm]

/-- Two searches with fractions of milliseconds, between calls of the other kinds. -/
def fourCalls : List Call :=
  [.failure, .success (.ofParts 0 100999999) 10, .rejection, .success (.ofParts 0 301000000) 5]

theorem snapshot_sums_fourCalls :
    (recordAll fourCalls.reverse).snapshot = (recordAll fourCalls).snapshot ∧
      ((recordAll fourCalls).snapshot.searches +
        (recordAll fourCalls).snapshot.failures).toNat = 3 ∧
      ∃ average, (recordAll fourCalls).snapshot.averageLatencyMillis = some average ∧
        100 ≤ average.toNat ∧ average.toNat ≤ 301 := by
  obtain ⟨-, hperm, hexact⟩ := snapshot_sums fourCalls
  have hcalls := hexact (by decide) (by decide)
  have hsuccess : ∃ call ∈ fourCalls, call.isSuccess = true :=
    ⟨.success (.ofParts 0 100999999) 10, by simp [fourCalls], rfl⟩
  obtain ⟨least, greatest, average, hmin, hmax, haverage, hle, hge⟩ := hcalls.between hsuccess
  cases hmin
  cases hmax
  exact ⟨hperm _ (List.reverse_perm _).symm, hcalls.total, average, haverage, hle, hge⟩

end DatasetSearch.Metrics
