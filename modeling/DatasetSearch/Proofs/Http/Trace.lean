import DatasetSearch.Proofs.Http.Admission
import Mathlib.Tactic.SplitIfs

/-!
# Runs of the service

A recorded backend answers as it did and keeps a list of its calls. `SearchStep` lists the four ways
in which a search can end, each with its response, its calls and its effect on the counters, and
`Step` adds that no other message calls the backend or moves a counter. `respond_step` says that one
message does nothing else. A `Trace` is a run made of such steps, and `serve_trace` finds the trace
behind every run, with the same exchanges whether the backend is recorded or not.
-/

set_option autoImplicit false
set_option relaxedAutoImplicit false

namespace DatasetSearch.Http

/-! ### calls -/

/-- A plan that the executor was asked to run, and what it answered. -/
structure Call where
  plan : Plan
  answer : Execution

/-- The backend, with a list of its calls so far beside its own state. -/
def Backend.recording {σ : Type} (backend : Backend σ) : Backend (σ × List Call) :=
  fun plan before ↦
    let answered := (backend plan).run before.1
    (answered.1, (answered.2, before.2 ++ [⟨plan, answered.1⟩]))

theorem run_bind {σ α β : Type} (first : StateM σ α) (next : α → StateM σ β) (state : σ) :
    (first >>= next).run state = (next (first.run state).1).run (first.run state).2 :=
  rfl

theorem Backend.run_recording {σ : Type} (backend : Backend σ) (plan : Plan) (state : σ)
    (log : List Call) :
    (backend.recording plan).run (state, log) =
      (((backend plan).run state).1,
        (((backend plan).run state).2, log ++ [⟨plan, ((backend plan).run state).1⟩])) :=
  rfl

/-! ### what a message can do -/

/-- Everything a search can do, before its response is delivered. -/
inductive SearchStep (settings : Settings.Search) (metrics : Metrics) (query : Option String) :
    Exchange → List Call → Prop where
  | unreadable {fault : Parameters.Fault} (hquery : Unreadable query) :
    SearchStep settings metrics query ⟨.ofText 400 fault.message, none, metrics⟩ []
  | refused {fault : DatasetSearch.Request.Fault} (hquery : Refuses settings query) :
    SearchStep settings metrics query
      ⟨badRequest fault.message, none, metrics.recordRejection⟩ []
  | failed {request : DatasetSearch.Request} (hquery : Asks settings query request)
      {error : Executor.Error} {elapsed : Duration} :
    SearchStep settings metrics query
      ⟨executorFailure error, some (.ofRequest request), metrics.recordFailure⟩
      [⟨.ofRequest request, ⟨.error error, elapsed⟩⟩]
  | found {request : DatasetSearch.Request} (hquery : Asks settings query request)
      {records : List Record} {elapsed : Duration} :
    SearchStep settings metrics query
      ⟨.ofJson 200 (searchBody request records), some (.ofRequest request),
        metrics.recordSuccess elapsed records.length⟩
      [⟨.ofRequest request, ⟨.ok records, elapsed⟩⟩]

def Message.IsSearch (message : Message) : Prop :=
  (message.request.method = "GET" ∨ message.request.method = "HEAD") ∧
    message.uri.path = "/search"

inductive Step (service : Service) (message : Message) : Exchange → List Call → Prop where
  | quiet {exchange : Exchange} (hother : ¬ message.IsSearch)
      (hmetrics : exchange.metrics = service.metrics) :
    Step service message exchange []
  | search {exchange : Exchange} {calls : List Call} (hsearch : message.IsSearch)
      (hstep : SearchStep service.settings service.metrics message.uri.query exchange calls) :
    Step service message
      { exchange with response := deliver message.request exchange.response } calls

theorem Route.ofPath?_eq_search_iff (path : String) :
    Route.ofPath? path = some .search ↔ path = "/search" := by
  unfold Route.ofPath?
  by_cases hsearch : path = "/search"
  · simp [hsearch]
  · rw [if_neg hsearch]
    split_ifs <;> simp [hsearch]

section Handlers

variable (service : Service) {message : Message}

/-- A search is answered by its handler. -/
theorem Service.respond_search {σ : Type} (backend : Backend σ) (hsearch : message.IsSearch) :
    service.respond backend message =
      (fun exchange ↦ { exchange with response := deliver message.request exchange.response }) <$>
        search service.settings service.metrics backend message.uri.query := by
  obtain ⟨hmethod, hpath⟩ := hsearch
  have hoptions : message.request.method ≠ "OPTIONS" := by
    rcases hmethod with hmethod | hmethod <;> rw [hmethod] <;> decide
  have hroute : Route.ofPath? message.uri.path = some .search := by
    rwa [Route.ofPath?_eq_search_iff]
  simp only [respond, if_neg hoptions, dispatch, hroute, if_pos hmethod, handle]
  rfl

theorem dispatch_quiet (settings : Settings.Search) (metrics : Metrics)
    (hother : ¬ message.IsSearch) :
    ∃ exchange : Exchange, exchange.metrics = metrics ∧
      ∀ {σ : Type} (backend : Backend σ),
        dispatch settings metrics backend message.request.method message.uri = pure exchange := by
  unfold dispatch
  cases hroute : Route.ofPath? message.uri.path with
  | none => exact ⟨_, rfl, fun _ ↦ rfl⟩
  | some route =>
    dsimp only
    split
    · next hmethod =>
      cases route with
      | search => exact absurd ⟨hmethod, (Route.ofPath?_eq_search_iff _).mp hroute⟩ hother
      | stats => exact ⟨_, rfl, fun _ ↦ rfl⟩
      | health => exact ⟨_, rfl, fun _ ↦ rfl⟩
    · exact ⟨_, rfl, fun _ ↦ rfl⟩

/-- Any other message is answered without the backend, in one way for all backends. -/
theorem Service.respond_quiet (hother : ¬ message.IsSearch) :
    ∃ exchange : Exchange, exchange.metrics = service.metrics ∧
      ∀ {σ : Type} (backend : Backend σ), service.respond backend message = pure exchange := by
  unfold respond
  by_cases hoptions : message.request.method = "OPTIONS"
  · refine ⟨⟨crossOrigin (permissions message.uri), none, service.metrics⟩, rfl, ?_⟩
    intro σ backend
    rw [if_pos hoptions]
  · obtain ⟨exchange, hmetrics, hdispatch⟩ := dispatch_quiet service.settings service.metrics hother
    refine ⟨{ exchange with response := deliver message.request exchange.response }, hmetrics, ?_⟩
    intro σ backend
    rw [if_neg hoptions, hdispatch backend, pure_bind]

end Handlers

/-! ### delivery -/

theorem encoded_status (coding : Coding) (response : Response) :
    (encoded coding response).status = response.status := by
  unfold encoded
  split_ifs <;> cases coding <;> rfl

theorem encoded_body (coding : Coding) (response : Response) :
    (encoded coding response).body = response.body := by
  unfold encoded
  split_ifs <;> cases coding <;> rfl

theorem deliver_status (request : Request) (response : Response) :
    (deliver request response).status = response.status := by
  unfold deliver
  dsimp only
  split_ifs <;> exact encoded_status _ response

theorem deliver_body {request : Request} (hhead : request.method ≠ "HEAD") (response : Response) :
    (deliver request response).body = response.body := by
  unfold deliver
  dsimp only
  rw [if_neg hhead]
  exact encoded_body _ response

/-! ### one step -/

section Respond

variable {σ : Type} (backend : Backend σ) (state : σ) (log : List Call)

theorem search_step (settings : Settings.Search) (metrics : Metrics) (query : Option String) :
    ∃ exchange next calls,
      (search settings metrics backend query).run state = (exchange, next) ∧
      (search settings metrics backend.recording query).run (state, log) =
        (exchange, (next, log ++ calls)) ∧
      SearchStep settings metrics query exchange calls := by
  unfold search
  cases hgate : Admission.ofQuery settings query with
  | unreadable fault =>
    refine ⟨_, state, [], rfl, ?_, .unreadable ((unreadable_iff settings query).mpr ⟨fault, hgate⟩)⟩
    rw [List.append_nil]
    rfl
  | refused fault =>
    refine ⟨_, state, [], rfl, ?_, .refused ((refuses_iff settings query).mpr ⟨fault, hgate⟩)⟩
    rw [List.append_nil]
    rfl
  | admitted request =>
    have hasks := (asks_iff settings query request).mpr hgate
    dsimp only
    rw [run_bind, run_bind, Backend.run_recording]
    rcases (backend (.ofRequest request)).run state with ⟨⟨result, elapsed⟩, next⟩
    cases result with
    | error error => exact ⟨_, next, _, rfl, rfl, .failed hasks⟩
    | ok records => exact ⟨_, next, _, rfl, rfl, .found hasks⟩

/-- What one message does, and that recording the backend changes nothing about it. -/
theorem respond_step (service : Service) (message : Message) :
    ∃ exchange next calls,
      (service.respond backend message).run state = (exchange, next) ∧
      (service.respond backend.recording message).run (state, log) =
        (exchange, (next, log ++ calls)) ∧
      Step service message exchange calls := by
  by_cases hsearch : message.IsSearch
  · obtain ⟨exchange, next, calls, hplain, hrecorded, hstep⟩ :=
      search_step backend state log service.settings service.metrics message.uri.query
    refine ⟨_, next, calls, ?_, ?_, .search hsearch hstep⟩
    · rw [service.respond_search backend hsearch, StateT.run_map, hplain]
      rfl
    · rw [service.respond_search backend.recording hsearch, StateT.run_map, hrecorded]
      rfl
  · obtain ⟨exchange, hmetrics, hquiet⟩ := service.respond_quiet hsearch
    refine ⟨exchange, state, [], ?_, ?_, .quiet hsearch hmetrics⟩
    · rw [hquiet backend]
      rfl
    · rw [hquiet backend.recording, List.append_nil]
      rfl

end Respond

/-! ### runs -/

/-- The service once several exchanges are over. -/
def Service.afterAll (service : Service) (exchanges : List Exchange) : Service :=
  exchanges.foldl Service.after service

theorem Service.settings_afterAll (service : Service) (exchanges : List Exchange) :
    (service.afterAll exchanges).settings = service.settings := by
  induction exchanges generalizing service with
  | nil => rfl
  | cons exchange rest ih => exact ih (service.after exchange)

/-- A run made of steps, each from the service that the one before it left. -/
inductive Trace : Service → List Message → List Exchange → List Call → Prop where
  | nil {service : Service} : Trace service [] [] []
  | cons {service : Service} {message : Message} {messages : List Message} {exchange : Exchange}
      {exchanges : List Exchange} {first rest : List Call}
      (hstep : Step service message exchange first)
      (hrest : Trace (service.after exchange) messages exchanges rest) :
    Trace service (message :: messages) (exchange :: exchanges) (first ++ rest)

section Trace

variable {service : Service} {messages : List Message} {exchanges : List Exchange}
  {calls : List Call}

theorem Trace.length_eq (htrace : Trace service messages exchanges calls) :
    exchanges.length = messages.length := by
  induction htrace with
  | nil => rfl
  | cons _ _ ih => rw [List.length_cons, List.length_cons, ih]

/-- The first part of a trace makes the first of its calls. -/
theorem Trace.take (htrace : Trace service messages exchanges calls) (n : Nat) :
    ∃ first rest, calls = first ++ rest ∧
      Trace service (messages.take n) (exchanges.take n) first := by
  induction htrace generalizing n with
  | nil => exact ⟨[], [], rfl, by simpa using Trace.nil⟩
  | @cons service message messages exchange exchanges made others hstep hrest ih =>
    cases n with
    | zero => exact ⟨[], _, rfl, .nil⟩
    | succ n =>
      obtain ⟨first, rest, hcalls, htaken⟩ := ih n
      refine ⟨made ++ first, rest, ?_, .cons hstep htaken⟩
      rw [hcalls, List.append_assoc]

/-- Each entry of a trace is a step from the service that the entries before it left. -/
theorem Trace.step_at (htrace : Trace service messages exchanges calls) {n : Nat}
    {message : Message} {exchange : Exchange}
    (hentry : (messages.zip exchanges)[n]? = some (message, exchange)) :
    ∃ made, Step (service.afterAll (exchanges.take n)) message exchange made := by
  induction htrace generalizing n with
  | nil => simp at hentry
  | @cons service first messages other exchanges made others hstep hrest ih =>
    cases n with
    | zero =>
      obtain ⟨rfl, rfl⟩ : first = message ∧ other = exchange := by simpa using hentry
      exact ⟨made, hstep⟩
    | succ n => exact ih hentry

end Trace

section Runs

variable {σ : Type} (service : Service) (backend : Backend σ)

/-- Every run is a trace, and recording the backend changes nothing about it. -/
theorem Service.serve_trace (messages : List Message) (state : σ) (log : List Call) :
    ∃ exchanges next calls,
      (service.serve backend messages).run state = (exchanges, next) ∧
      (service.serve backend.recording messages).run (state, log) =
        (exchanges, (next, log ++ calls)) ∧
      Trace service messages exchanges calls := by
  induction messages generalizing service state log with
  | nil => exact ⟨[], state, [], rfl, by rw [List.append_nil]; rfl, .nil⟩
  | cons message messages ih =>
    obtain ⟨exchange, middle, first, hplain, hrecorded, hstep⟩ :=
      respond_step backend state log service message
    obtain ⟨exchanges, next, rest, hplain', hrecorded', htrace⟩ :=
      ih (service.after exchange) middle (log ++ first)
    refine ⟨exchange :: exchanges, next, first ++ rest, ?_, ?_, .cons hstep htrace⟩
    · rw [serve, run_bind, hplain, run_bind, hplain']
      rfl
    · rw [serve, run_bind, hrecorded, run_bind, hrecorded', List.append_assoc]
      rfl

/-- A run goes on from the service and the state that its first part left. -/
theorem Service.serve_append (first rest : List Message) :
    service.serve backend (first ++ rest) = do
      let exchanges ← service.serve backend first
      let others ← (service.afterAll exchanges).serve backend rest
      return exchanges ++ others := by
  induction first generalizing service with
  | nil => simp [serve, afterAll]
  | cons message first ih => simp [serve, afterAll, ih]

def Service.exchanges (start : σ) (messages : List Message) : List Exchange :=
  ((service.serve backend messages).run start).1

/-- What the backend is asked while messages are answered. -/
def Service.calls (start : σ) (messages : List Message) : List Call :=
  ((service.serve backend.recording messages).run (start, [])).2.2

theorem Service.trace (start : σ) (messages : List Message) :
    Trace service messages (service.exchanges backend start messages)
      (service.calls backend start messages) := by
  obtain ⟨exchanges, next, calls, hplain, hrecorded, htrace⟩ :=
    service.serve_trace backend messages start []
  unfold Service.exchanges Service.calls
  rw [hplain, hrecorded]
  exact htrace

/-- One message in the middle of a run takes one step. -/
theorem Service.step_of_run (start : σ) (before after : List Message) (message : Message) :
    ∃ exchange calls,
      (service.exchanges backend start (before ++ message :: after))[before.length]? =
        some exchange ∧
      service.calls backend start (before ++ [message]) =
        service.calls backend start before ++ calls ∧
      Step (service.afterAll (service.exchanges backend start before)) message exchange calls := by
  obtain ⟨earlier, middle, log, hplain, hrecorded, htrace⟩ :=
    service.serve_trace backend before start []
  rw [List.nil_append] at hrecorded
  obtain ⟨exchange, next, calls, hplain', hrecorded', hstep⟩ :=
    respond_step backend middle log (service.afterAll earlier) message
  refine ⟨exchange, calls, ?_, ?_, ?_⟩
  · unfold Service.exchanges
    rw [serve_append, run_bind, hplain, run_bind, serve, run_bind, hplain']
    change (earlier ++ exchange :: _)[before.length]? = some exchange
    rw [← htrace.length_eq, List.getElem?_append_right (Nat.le_refl _), Nat.sub_self]
    rfl
  · unfold Service.calls
    rw [serve_append, run_bind, hrecorded, run_bind, serve, run_bind, hrecorded']
    rfl
  · unfold Service.exchanges
    rwa [hplain]

end Runs

end DatasetSearch.Http
