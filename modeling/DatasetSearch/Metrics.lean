import DatasetSearch.Json.Basic

/-!
Counters of a running service. They are words of 64 bits and wrap around; the latency of a search
is counted in whole milliseconds. A snapshot gives the average latency of successful searches, and
the share of successes among the searches that reached the backend, in percent.
-/

set_option autoImplicit false
set_option relaxedAutoImplicit false

namespace DatasetSearch

structure Duration where
  nanoseconds : Nat
  deriving DecidableEq, Repr, Inhabited

namespace Duration

def ofParts (seconds nanoseconds : Nat) : Duration :=
  ⟨seconds * 1000000000 + nanoseconds⟩

def wholeMillis (d : Duration) : Nat :=
  d.nanoseconds / 1000000

end Duration

structure Metrics where
  searches : UInt64 := 0
  rejected : UInt64 := 0
  failures : UInt64 := 0
  recordsReturned : UInt64 := 0
  totalLatencyMillis : UInt64 := 0
  deriving DecidableEq, Repr, Inhabited

namespace Metrics

def recordSuccess (m : Metrics) (elapsed : Duration) (records : Nat) : Metrics :=
  { m with
    searches := m.searches + 1
    recordsReturned := m.recordsReturned + UInt64.ofNat records
    totalLatencyMillis := m.totalLatencyMillis + UInt64.ofNat elapsed.wholeMillis }

def recordRejection (m : Metrics) : Metrics :=
  { m with rejected := m.rejected + 1 }

def recordFailure (m : Metrics) : Metrics :=
  { m with failures := m.failures + 1 }

structure Snapshot where
  searches : UInt64
  rejected : UInt64
  failures : UInt64
  recordsReturned : UInt64
  averageLatencyMillis : Option UInt64
  reliability : Binary64
  deriving DecidableEq, Repr

/-- Successes in percent of the total; without any search the service counts as reliable. -/
def reliability (successes failures : UInt64) : Binary64 :=
  let total := successes + failures
  let hundred := Binary64.ofNat 100
  if total = 0 then hundred
  else ((Binary64.ofNat successes.toNat).div (Binary64.ofNat total.toNat)).mul hundred

def snapshot (m : Metrics) : Snapshot where
  searches := m.searches
  rejected := m.rejected
  failures := m.failures
  recordsReturned := m.recordsReturned
  averageLatencyMillis := if m.searches = 0 then none else some (m.totalLatencyMillis / m.searches)
  reliability := reliability m.searches m.failures

def Snapshot.toJson (s : Snapshot) : Json :=
  .object [
    ("searches", .int s.searches.toNat),
    ("rejected", .int s.rejected.toNat),
    ("failures", .int s.failures.toNat),
    ("records_returned", .int s.recordsReturned.toNat),
    ("avg_latency_ms", Json.ofOption (fun n ↦ .int n.toNat) s.averageLatencyMillis),
    ("reliability", .float s.reliability)]

end Metrics

end DatasetSearch
