import DatasetSearch.Proofs.Http.Trace
import DatasetSearch.Proofs.Json.Reading
import Mathlib.Algebra.Order.BigOperators.Group.List
import Mathlib.Algebra.Order.Ring.Nat

/-!
# Statistics account for every request

A history is a list of messages with the exchanges that answered them. Its entries are told apart by
what a client sees, the path, the query and the status, and the records of a response by the field
`count` of its body. `Accounts` compares a snapshot with these numbers.

The counters are words, so the comparison is made in two steps. `Moves` says how far a history moves
the counters, modulo their size. One step moves them by its own entry (`Step.moves`), and histories
add up (`Moves.append`), so a trace moves them by all of its entries. While there are fewer messages
and fewer records than a word can count, nothing wraps around, and `statistics_account` reads the
numbers off the snapshot at each point of a run.
-/

set_option autoImplicit false
set_option relaxedAutoImplicit false

namespace DatasetSearch.Http

/-! ### what a client sees -/

abbrev Entry := Message × Exchange

def isSearch (entry : Entry) : Bool :=
  entry.1.uri.path == "/search"

def isAnswered (statuses : List Nat) (entry : Entry) : Bool :=
  isSearch entry && statuses.contains entry.2.response.status

/-- Answered 400, because the term is missing or the request is not valid. -/
def isRejected (settings : Settings.Search) (entry : Entry) : Bool :=
  isAnswered [400] entry && decide (Refuses settings entry.1.uri.query)

def isUnreadable (entry : Entry) : Bool :=
  isSearch entry && decide (Unreadable entry.1.uri.query)

/-- The number in the field `count` of a body. -/
def countField (body : String) : Nat :=
  match Json.field? "count" body with
  | some (.int n) => n.toNat
  | _ => 0

/-- Every successful answer has a count field. -/
def ShowsCounts (history : List Entry) : Prop :=
  ∀ entry ∈ history, isAnswered [200] entry = true →
    ∃ n : Nat, Json.field? "count" entry.2.response.body = some (.int n)

/-- The sum of the count fields of all successful answers. -/
def counted (history : List Entry) : Nat :=
  ((history.filter (isAnswered [200])).map fun entry ↦ countField entry.2.response.body).sum

structure Accounts (settings : Settings.Search) (history : List Entry)
    (snapshot : Metrics.Snapshot) : Prop where
  counts : ShowsCounts history
  searches : snapshot.searches.toNat = history.countP (isAnswered [200])
  failures : snapshot.failures.toNat = history.countP (isAnswered [502, 503])
  rejected : snapshot.rejected.toNat = history.countP (isRejected settings)
  recordsReturned : snapshot.recordsReturned.toNat = counted history
  total : snapshot.searches.toNat + snapshot.failures.toNat + snapshot.rejected.toNat +
    history.countP isUnreadable = history.countP isSearch

/-! ### the count field -/

theorem field?_count (request : DatasetSearch.Request) {records : List Record}
    (hlength : records.length < 2 ^ 64) :
    Json.field? "count" (searchBody request records).compact = some (.int records.length) := by
  have hnumber : request.pageNumber.toNat < 2 ^ 64 :=
    Nat.lt_trans request.pageNumber.toNat_lt (by decide)
  have hsize : request.pageSize.toNat < 2 ^ 64 :=
    Nat.lt_trans request.pageSize.toNat_lt (by decide)
  have hearlier : ∀ field ∈ [("term", Json.string request.term),
      ("pageNumber", .int request.pageNumber.toNat), ("pageSize", .int request.pageSize.toNat)],
      field.1 ≠ "count" ∧ Json.ReadsBack field.2 := by
    simp [Json.readsBack_string, Json.readsBack_nat hnumber, Json.readsBack_nat hsize]
  exact Json.field?_compact (Json.readsBack_nat hlength) hearlier
    [("results", .array (records.map Record.toJson))]

/-! ### what a history moves -/

/-- The records that the backend answered with. -/
def Call.count (call : Call) : Nat :=
  match call.answer.result with
  | .ok records => records.length
  | .error _ => 0

structure Moves (settings : Settings.Search) (before after : Metrics) (history : List Entry)
    (calls : List Call) : Prop where
  counts : ShowsCounts history
  searches : after.searches = before.searches + UInt64.ofNat (history.countP (isAnswered [200]))
  failures : after.failures =
    before.failures + UInt64.ofNat (history.countP (isAnswered [502, 503]))
  rejected : after.rejected = before.rejected + UInt64.ofNat (history.countP (isRejected settings))
  recordsReturned : after.recordsReturned = before.recordsReturned + UInt64.ofNat (counted history)
  counted : counted history = (calls.map Call.count).sum
  total : history.countP (isAnswered [200]) + history.countP (isAnswered [502, 503]) +
    history.countP (isRejected settings) + history.countP isUnreadable = history.countP isSearch

theorem counted_append (first rest : List Entry) :
    counted (first ++ rest) = counted first + counted rest := by
  simp [counted]

theorem Moves.nil (settings : Settings.Search) (metrics : Metrics) :
    Moves settings metrics metrics [] [] := by
  constructor <;> simp [Http.counted, ShowsCounts]

theorem Moves.append {settings : Settings.Search} {before middle after : Metrics}
    {first rest : List Entry} {firstCalls restCalls : List Call}
    (hfirst : Moves settings before middle first firstCalls)
    (hrest : Moves settings middle after rest restCalls) :
    Moves settings before after (first ++ rest) (firstCalls ++ restCalls) where
  counts := by
    intro entry hentry hanswered
    rcases List.mem_append.mp hentry with hentry | hentry
    · exact hfirst.counts entry hentry hanswered
    · exact hrest.counts entry hentry hanswered
  searches := by
    rw [hrest.searches, hfirst.searches, List.countP_append, UInt64.ofNat_add, UInt64.add_assoc]
  failures := by
    rw [hrest.failures, hfirst.failures, List.countP_append, UInt64.ofNat_add, UInt64.add_assoc]
  rejected := by
    rw [hrest.rejected, hfirst.rejected, List.countP_append, UInt64.ofNat_add, UInt64.add_assoc]
  recordsReturned := by
    rw [hrest.recordsReturned, hfirst.recordsReturned, counted_append, UInt64.ofNat_add,
      UInt64.add_assoc]
  counted := by
    rw [counted_append, hfirst.counted, hrest.counted, List.map_append, List.sum_append]
  total := by
    have hfirst := hfirst.total
    have hrest := hrest.total
    simp only [List.countP_append]
    omega

/-- One exchange of a reading client moves the counters by its own entry. -/
theorem Step.moves {service : Service} {message : Message} {exchange : Exchange}
    {calls : List Call} (hstep : Step service message exchange calls)
    (hget : message.request.method = "GET") (hcalls : ∀ call ∈ calls, call.count < 2 ^ 64) :
    Moves service.settings service.metrics exchange.metrics [(message, exchange)] calls := by
  cases hstep with
  | quiet hother hmetrics =>
    have hpath : message.uri.path ≠ "/search" := fun h ↦ hother ⟨Or.inl hget, h⟩
    constructor <;>
      simp [isAnswered, isSearch, isRejected, isUnreadable, counted, ShowsCounts, hpath, hmetrics]
  | search hsearch hstep =>
    have hpath : message.uri.path = "/search" := hsearch.2
    cases hstep with
    | unreadable hquery =>
      have hrefuses : ¬ Refuses service.settings message.uri.query := fun h ↦
        h.not_unreadable hquery
      constructor <;>
        simp [isAnswered, isSearch, isRejected, isUnreadable, counted, ShowsCounts, hpath,
          deliver_status, Response.ofText, hquery, hrefuses]
    | refused hquery =>
      have hreadable : ¬ Unreadable message.uri.query := hquery.not_unreadable
      constructor <;>
        simp [isAnswered, isSearch, isRejected, isUnreadable, counted, ShowsCounts, hpath,
          deliver_status, badRequest, Response.ofJson, Metrics.recordRejection, hquery, hreadable]
    | @failed request hasks error elapsed =>
      have hstatus : executorStatus error = 502 ∨ executorStatus error = 503 := by
        cases error <;> simp [executorStatus]
      have hsuccess : executorStatus error ≠ 200 := by omega
      have hrefusal : executorStatus error ≠ 400 := by omega
      constructor <;>
        simp [isAnswered, isSearch, isRejected, isUnreadable, counted, ShowsCounts, hpath,
          deliver_status, executorFailure, Response.ofJson, Metrics.recordFailure, Call.count,
          hasks.not_unreadable, hstatus, hsuccess, hrefusal]
    | @found request hasks records elapsed =>
      have hhead : message.request.method ≠ "HEAD" := by
        rw [hget]
        decide
      have hlength : records.length < 2 ^ 64 := hcalls _ (List.mem_singleton_self _)
      have hfield : Json.field? "count" (deliver message.request
          (.ofJson 200 (searchBody request records))).body = some (.int records.length) := by
        rw [deliver_body hhead]
        exact field?_count request hlength
      have hstatus : (deliver message.request
          (.ofJson 200 (searchBody request records))).status = 200 := deliver_status _ _
      constructor <;>
        simp [isAnswered, isSearch, isRejected, isUnreadable, counted, ShowsCounts, countField,
          hpath, hstatus, hfield, Metrics.recordSuccess, Call.count, hasks.not_unreadable]

theorem Trace.moves {service : Service} {messages : List Message} {exchanges : List Exchange}
    {calls : List Call} (htrace : Trace service messages exchanges calls)
    (hget : ∀ message ∈ messages, message.request.method = "GET")
    (hcalls : ∀ call ∈ calls, call.count < 2 ^ 64) :
    Moves service.settings service.metrics (service.afterAll exchanges).metrics
      (messages.zip exchanges) calls := by
  induction htrace with
  | nil => exact .nil _ _
  | cons hstep hrest ih =>
    have hfirst := hstep.moves (hget _ List.mem_cons_self)
      fun call hcall ↦ hcalls call (List.mem_append_left _ hcall)
    have hothers := ih (fun message h ↦ hget message (List.mem_cons_of_mem _ h))
      fun call hcall ↦ hcalls call (List.mem_append_right _ hcall)
    exact hfirst.append hothers

/-- A word that starts at zero and is moved by less than its size has not wrapped around. -/
theorem toNat_eq_of_moved {word : UInt64} {n : Nat} (hmoved : word = 0 + UInt64.ofNat n)
    (hn : n < 2 ^ 64) : word.toNat = n := by
  rw [hmoved, UInt64.zero_add]
  exact UInt64.toNat_ofNat_of_lt' hn

/-- The counters of a fresh service are what its history has moved them by. -/
theorem Moves.accounts {settings : Settings.Search} {after : Metrics} {history : List Entry}
    {calls : List Call} (hmoves : Moves settings {} after history calls)
    (hlength : history.length < 2 ^ 64) (hrecords : (calls.map Call.count).sum < 2 ^ 64) :
    Accounts settings history after.snapshot := by
  have hcount : ∀ p : Entry → Bool, history.countP p < 2 ^ 64 := fun p ↦
    Nat.lt_of_le_of_lt List.countP_le_length hlength
  have hsearches : after.searches.toNat = history.countP (isAnswered [200]) :=
    toNat_eq_of_moved hmoves.searches (hcount _)
  have hfailures : after.failures.toNat = history.countP (isAnswered [502, 503]) :=
    toNat_eq_of_moved hmoves.failures (hcount _)
  have hrejected : after.rejected.toNat = history.countP (isRejected settings) :=
    toNat_eq_of_moved hmoves.rejected (hcount _)
  have hreturned : after.recordsReturned.toNat = Http.counted history :=
    toNat_eq_of_moved hmoves.recordsReturned (hmoves.counted ▸ hrecords)
  refine ⟨hmoves.counts, hsearches, hfailures, hrejected, hreturned, ?_⟩
  change after.searches.toNat + after.failures.toNat + after.rejected.toNat + _ = _
  rw [hsearches, hfailures, hrejected]
  exact hmoves.total

/-- Neither another path nor an unreadable query moves a counter. -/
theorem Step.metrics_eq {service : Service} {message : Message} {exchange : Exchange}
    {calls : List Call} (hstep : Step service message exchange calls)
    (hidle : message.uri.path ≠ "/search" ∨ Unreadable message.uri.query) :
    exchange.metrics = service.metrics := by
  cases hstep with
  | quiet hother hmetrics => exact hmetrics
  | search hsearch hstep =>
    have hunreadable : Unreadable message.uri.query := hidle.resolve_left (not_not.mpr hsearch.2)
    cases hstep with
    | unreadable _ => rfl
    | refused hquery => exact absurd hunreadable hquery.not_unreadable
    | failed hasks => exact absurd hunreadable hasks.not_unreadable
    | found hasks => exact absurd hunreadable hasks.not_unreadable

/-! ### every point of a run -/

theorem statistics_account {σ : Type} (settings : Settings.Search) (backend : Backend σ) (start : σ)
    (messages : List Message)
    (hget : ∀ message ∈ messages, message.request.method = "GET")
    (hlength : messages.length < 2 ^ 64)
    (hrecords : ((Service.calls { settings } backend start messages).map Call.count).sum < 2 ^ 64)
    (n : Nat) :
    let service : Service := { settings }
    let exchanges := service.exchanges backend start messages
    let reached := service.afterAll (exchanges.take n)
    Accounts settings ((messages.zip exchanges).take n) reached.metrics.snapshot ∧
      ∀ message exchange, (messages.zip exchanges)[n]? = some (message, exchange) →
        message.uri.path ≠ "/search" ∨ Unreadable message.uri.query →
        exchange.metrics = reached.metrics := by
  intro service exchanges reached
  have htrace := service.trace backend start messages
  constructor
  · obtain ⟨first, rest, hcalls, htaken⟩ := htrace.take n
    have hsum : (first.map Call.count).sum < 2 ^ 64 := by
      rw [hcalls, List.map_append, List.sum_append] at hrecords
      omega
    have hsmall : ∀ call ∈ first, call.count < 2 ^ 64 := fun call hcall ↦
      Nat.lt_of_le_of_lt (List.le_sum_of_mem (List.mem_map_of_mem hcall)) hsum
    have hmoves := htaken.moves (fun message h ↦ hget message (List.mem_of_mem_take h)) hsmall
    have hzip : (messages.zip exchanges).take n = (messages.take n).zip (exchanges.take n) :=
      List.take_zipWith
    rw [hzip]
    refine hmoves.accounts ?_ hsum
    rw [List.length_zip, List.length_take, List.length_take]
    omega
  · intro message exchange hentry hidle
    obtain ⟨made, hstep⟩ := htrace.step_at hentry
    exact hstep.metrics_eq hidle

/-- A search for soil, one for nothing, one in no year, soil once more, and the statistics. -/
def mixedMessages : List Message :=
  ["/search?term=soil", "/search?term=", "/search?term=soil&publishedStart=soon",
    "/search?term=soil", "/stats"].filterMap fun target ↦ Message.ofRequest? { target }

/-- A backend that finds one record and is then out of reach. -/
def shortScript : List Execution :=
  [{ result := .ok [⟨.zero false, [], [("name", .string "soil moisture")]⟩] },
    { result := .error (.unavailable "no route") }]

theorem statistics_account_mixedMessages :
    let exchanges := Service.exchanges {} .scripted shortScript mixedMessages
    let reached := Service.afterAll {} (exchanges.take 4)
    (∀ message ∈ mixedMessages, message.request.method = "GET") ∧ mixedMessages.length = 5 ∧
      ((Service.calls {} .scripted shortScript mixedMessages).map Call.count).sum = 1 ∧
      Accounts {} ((mixedMessages.zip exchanges).take 4) reached.metrics.snapshot ∧
      reached.metrics = { searches := 1, rejected := 1, failures := 1, recordsReturned := 1 } := by
  have hget : ∀ message ∈ mixedMessages, message.request.method = "GET" := by decide +kernel
  have hlength : mixedMessages.length = 5 := by decide +kernel
  have hrecords :
      ((Service.calls {} .scripted shortScript mixedMessages).map Call.count).sum = 1 := by
    decide +kernel
  have haccounts := statistics_account {} .scripted shortScript mixedMessages hget
    (by rw [hlength]; decide) (by rw [hrecords]; decide) 4
  exact ⟨hget, hlength, hrecords, haccounts.1, by decide +kernel⟩

end DatasetSearch.Http
