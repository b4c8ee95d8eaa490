import DatasetSearch.Proofs.Http.Trace

/-!
# The outcome of a run

The `Outcome` of a run is all that can be seen of it: the responses, the calls of the backend, the
state it is left in, and the counters. A search conducts itself in one of two ways, whatever the
counters are and whatever the backend is. It is turned away without a call (`TurnsAway`), or it asks
for one plan and replies by the answer to it alone (`AsksFor`). Each way is one equation between the
outcome of a run and that of its rest. Which way it is, the query decides (`Service.status_iff`).
-/

set_option autoImplicit false
set_option relaxedAutoImplicit false

namespace DatasetSearch

/-! ### counters -/

namespace Metrics

def addRejections (m : Metrics) (n : Nat) : Metrics :=
  { m with rejected := m.rejected + UInt64.ofNat n }

theorem addRejections_zero (m : Metrics) : m.addRejections 0 = m := by
  simp [addRejections]

theorem addRejections_add (m : Metrics) (n k : Nat) :
    (m.addRejections n).addRejections k = m.addRejections (n + k) := by
  simp [addRejections, UInt64.ofNat_add, UInt64.add_assoc]

/-- The counters after the executor was asked. -/
def recordExecution (m : Metrics) (execution : Http.Execution) : Metrics :=
  match execution.result with
  | .error _ => m.recordFailure
  | .ok records => m.recordSuccess execution.elapsed records.length

theorem recordExecution_addRejections (m : Metrics) (n : Nat) (execution : Http.Execution) :
    (m.addRejections n).recordExecution execution =
      (m.recordExecution execution).addRejections n := by
  unfold recordExecution
  cases execution.result <;> rfl

end Metrics

namespace Http

/-! ### the conduct of a search -/

def Message.isReadable (message : Message) : Bool :=
  !decide (Unreadable message.uri.query)

/-- How often a message is counted that is turned away. -/
def rejections (message : Message) : Nat :=
  if message.isReadable then 1 else 0

/-- The message is answered 400 and the backend is not called, whatever the counters are. -/
structure TurnsAway (settings : Settings.Search) (message : Message) (response : Response) :
    Prop where
  status : response.status = 400
  respond : ∀ (metrics : Metrics) {σ : Type} (backend : Backend σ),
    Service.respond ⟨settings, metrics⟩ backend message =
      pure ⟨response, none, metrics.addRejections (rejections message)⟩

/-- The backend is called once with the plan, and the reply follows its answer. -/
structure AsksFor (settings : Settings.Search) (message : Message) (plan : Plan)
    (reply : Execution → Response) : Prop where
  status : ∀ execution, (reply execution).status ≠ 400
  respond : ∀ (metrics : Metrics) {σ : Type} (backend : Backend σ),
    Service.respond ⟨settings, metrics⟩ backend message =
      (fun execution ↦ ⟨reply execution, some plan, metrics.recordExecution execution⟩) <$>
        backend plan

instance : DecidablePred Message.IsSearch := fun _ ↦ inferInstanceAs (Decidable (_ ∧ _))

theorem executorFailure_status_ne (error : Executor.Error) :
    (executorFailure error).status ≠ 400 := by
  cases error <;> simp [executorFailure, executorStatus, Response.ofJson]

section Conduct

variable {settings : Settings.Search} {message : Message}

theorem turnsAway_of_unreadable (hsearch : message.IsSearch) {fault : Parameters.Fault}
    (hgate : Admission.ofQuery settings message.uri.query = .unreadable fault) :
    TurnsAway settings message (deliver message.request (.ofText 400 fault.message)) where
  status := deliver_status _ _
  respond := by
    intro metrics σ backend
    have hunreadable := (unreadable_iff settings _).mpr ⟨fault, hgate⟩
    have hnone : rejections message = 0 := by simp [rejections, Message.isReadable, hunreadable]
    rw [Service.respond_search _ _ hsearch, search, hgate, hnone, Metrics.addRejections_zero]
    rfl

theorem turnsAway_of_refused (hsearch : message.IsSearch) {fault : DatasetSearch.Request.Fault}
    (hgate : Admission.ofQuery settings message.uri.query = .refused fault) :
    TurnsAway settings message (deliver message.request (badRequest fault.message)) where
  status := deliver_status _ _
  respond := by
    intro metrics σ backend
    have hreadable := ((refuses_iff settings _).mpr ⟨fault, hgate⟩).not_unreadable
    have hone : rejections message = 1 := by simp [rejections, Message.isReadable, hreadable]
    rw [Service.respond_search _ _ hsearch, search, hgate, hone]
    rfl

/-- What a search that asks for a request is replied. -/
def answerTo (message : Message) (request : DatasetSearch.Request) (execution : Execution) :
    Response :=
  deliver message.request
    (match execution.result with
    | .error error => executorFailure error
    | .ok records => .ofJson 200 (searchBody request records))

theorem asksFor_of_admitted (hsearch : message.IsSearch) {request : DatasetSearch.Request}
    (hgate : Admission.ofQuery settings message.uri.query = .admitted request) :
    AsksFor settings message (.ofRequest request) (answerTo message request) where
  status := by
    intro execution
    rw [answerTo, deliver_status]
    cases execution.result with
    | error error => exact executorFailure_status_ne error
    | ok records => simp [Response.ofJson]
  respond := by
    intro metrics σ backend
    rw [Service.respond_search _ _ hsearch, search, hgate]
    dsimp only
    rw [map_bind, ← bind_pure_comp]
    refine bind_congr fun execution ↦ ?_
    unfold answerTo Metrics.recordExecution
    cases execution.result <;> rfl

/-- There is no third way. -/
theorem Message.IsSearch.conduct (hsearch : message.IsSearch) (settings : Settings.Search) :
    (∃ response, TurnsAway settings message response) ∨
      ∃ plan reply, AsksFor settings message plan reply := by
  cases hgate : Admission.ofQuery settings message.uri.query with
  | unreadable fault => exact .inl ⟨_, turnsAway_of_unreadable hsearch hgate⟩
  | refused fault => exact .inl ⟨_, turnsAway_of_refused hsearch hgate⟩
  | admitted request => exact .inr ⟨_, _, asksFor_of_admitted hsearch hgate⟩

end Conduct

/-! ### outcomes -/

/-- All that can be seen of a run. -/
structure Outcome (σ : Type) where
  responses : List Response
  calls : List Call
  state : σ
  metrics : Metrics

section Outcome

variable {σ : Type}

def Service.outcome (service : Service) (backend : Backend σ) (start : σ)
    (messages : List Message) : Outcome σ where
  responses := (service.exchanges backend start messages).map Exchange.response
  calls := service.calls backend start messages
  state := ((service.serve backend messages).run start).2
  metrics := (service.afterAll (service.exchanges backend start messages)).metrics

/-- An outcome with one more response and its calls in front. -/
def Outcome.cons (response : Response) (made : List Call) (rest : Outcome σ) : Outcome σ :=
  { rest with responses := response :: rest.responses, calls := made ++ rest.calls }

/-- A recorded backend adds to its list of calls, whatever is on it. -/
theorem run_recording_of_log (settings : Settings.Search) (metrics : Metrics) (backend : Backend σ)
    (state : σ) {messages : List Message}
    (hsearch : ∀ message ∈ messages, message.IsSearch) (log : List Call) :
    ((Service.serve ⟨settings, metrics⟩ backend.recording messages).run (state, log)).2.2 =
      log ++ Service.calls ⟨settings, metrics⟩ backend state messages := by
  unfold Service.calls
  induction messages generalizing metrics state log with
  | nil => exact (List.append_nil log).symm
  | cons message messages ih =>
    rw [List.forall_mem_cons] at hsearch
    rcases hsearch.1.conduct settings with ⟨response, haway⟩ | ⟨plan, reply, hasks⟩
    · rw [Service.serve, haway.respond]
      exact ih _ state hsearch.2 log
    · rw [Service.serve, hasks.respond]
      let execution := ((backend plan).run state).1
      have hlater := ih (metrics.recordExecution execution) ((backend plan).run state).2 hsearch.2
      -- Once for the list that starts with this call, and once for the one that goes on with it.
      have hfirst := hlater [⟨plan, execution⟩]
      have hlogged := hlater (log ++ [⟨plan, execution⟩])
      rw [List.append_assoc, ← hfirst] at hlogged
      exact hlogged

variable {settings : Settings.Search} (metrics : Metrics) (backend : Backend σ) (state : σ)

theorem TurnsAway.outcome {message : Message} {response : Response}
    (haway : TurnsAway settings message response) (messages : List Message) :
    Service.outcome ⟨settings, metrics⟩ backend state (message :: messages) =
      (Service.outcome ⟨settings, metrics.addRejections (rejections message)⟩ backend state
        messages).cons response [] := by
  unfold Service.outcome Service.exchanges Service.calls
  rw [Service.serve, haway.respond, Service.serve, haway.respond]
  rfl

theorem AsksFor.outcome {message : Message} {plan : Plan} {reply : Execution → Response}
    (hasks : AsksFor settings message plan reply) {messages : List Message}
    (hsearch : ∀ message ∈ messages, message.IsSearch) :
    let execution := ((backend plan).run state).1
    Service.outcome ⟨settings, metrics⟩ backend state (message :: messages) =
      (Service.outcome ⟨settings, metrics.recordExecution execution⟩ backend
        ((backend plan).run state).2 messages).cons (reply execution) [⟨plan, execution⟩] := by
  intro execution
  have hlog := run_recording_of_log settings (metrics.recordExecution execution) backend
    ((backend plan).run state).2 hsearch [⟨plan, execution⟩]
  unfold Service.outcome Service.exchanges
  rw [Outcome.cons, ← hlog, Service.calls, Service.serve, hasks.respond, Service.serve,
    hasks.respond]
  rfl

end Outcome

/-! ### bad requests -/

section Status

variable {settings : Settings.Search} {metrics : Metrics} {query : Option String}
  {exchange : Exchange} {calls : List Call}

theorem SearchStep.status_iff (hstep : SearchStep settings metrics query exchange calls) :
    exchange.response.status = 400 ↔ Unreadable query ∨ Refuses settings query := by
  cases hstep with
  | unreadable hquery => exact iff_of_true rfl (.inl hquery)
  | refused hquery => exact iff_of_true rfl (.inr hquery)
  | @failed request hasks error elapsed =>
    have hquery := not_or.mpr ⟨hasks.not_unreadable, hasks.not_refuses⟩
    exact iff_of_false (executorFailure_status_ne error) hquery
  | found hasks =>
    have hquery := not_or.mpr ⟨hasks.not_unreadable, hasks.not_refuses⟩
    exact iff_of_false (by simp [Response.ofJson]) hquery

theorem Step.status_iff {service : Service} {message : Message}
    (hstep : Step service message exchange calls) (hsearch : message.IsSearch) :
    exchange.response.status = 400 ↔
      Unreadable message.uri.query ∨ Refuses service.settings message.uri.query := by
  cases hstep with
  | quiet hother => exact absurd hsearch hother
  | search _ hstep =>
    rw [deliver_status]
    exact hstep.status_iff

theorem Service.status_iff {σ : Type} (service : Service) (backend : Backend σ) (start : σ)
    {messages : List Message} (hsearch : ∀ message ∈ messages, message.IsSearch)
    {message : Message} {response : Response}
    (hanswered : (message, response) ∈
      messages.zip (service.outcome backend start messages).responses) :
    response.status = 400 ↔
      Unreadable message.uri.query ∨ Refuses service.settings message.uri.query := by
  rw [Service.outcome, List.zip_map_right] at hanswered
  obtain ⟨⟨asked, exchange⟩, hentry, hsame⟩ := List.mem_map.mp hanswered
  obtain ⟨rfl, rfl⟩ := Prod.mk.inj hsame
  obtain ⟨n, hn⟩ := List.mem_iff_getElem?.mp hentry
  obtain ⟨made, hstep⟩ := (service.trace backend start messages).step_at hn
  have hstatus := hstep.status_iff (hsearch _ (List.of_mem_zip hentry).1)
  rwa [Service.settings_afterAll] at hstatus

end Status

end Http

end DatasetSearch
