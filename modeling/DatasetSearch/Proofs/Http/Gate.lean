import DatasetSearch.Proofs.Http.Trace
import DatasetSearch.Proofs.Request.Acceptance

/-!
# The validation gate

`Gated` says how a search treats the backend. It calls it at most once, and it does call it if and
only if the query asks for a request, with the plan of that request. The answer to the client then
follows the answer of the backend: records are shown as a page of that request (`Shows`), a failure
is reported as an unavailable service or as a bad gateway. Without a call the answer is 400.

`SearchStep.gated` goes through the ways in which a search can end, and `search_gated` places one
of them anywhere in a run, with any settings and any backend.
-/

set_option autoImplicit false
set_option relaxedAutoImplicit false

namespace DatasetSearch.Http

/-- The page of a request with its records in order, as the plan cuts it out. -/
structure Shows (request : DatasetSearch.Request) (records : List Record) (plan : Plan)
    (response : Response) : Prop where
  status : response.status = 200
  body : response.body = (Json.object [
    ("term", .string request.term),
    ("pageNumber", .int request.pageNumber.toNat),
    ("pageSize", .int request.pageSize.toNat),
    ("count", .int records.length),
    ("results", .array (records.map Record.toJson))]).compact
  one_le_pageNumber : 1 ≤ request.pageNumber.toNat
  skip : ∀ count, .skip count ∈ plan.stages ↔
    count.toNat = (request.pageNumber.toNat - 1) * request.pageSize.toNat
  limit : ∀ count, .limit count ∈ plan.stages ↔ count = request.pageSize

structure Gated (settings : Settings.Search) (query : Option String) (response : Response)
    (calls : List Call) : Prop where
  once : calls.length ≤ 1
  asked : ∀ plan, (∃ call ∈ calls, call.plan = plan) ↔
    ∃ request, Asks settings query request ∧ plan = .ofRequest request
  found : ∀ request, Asks settings query request → ∀ call ∈ calls, ∀ records,
    call.answer.result = .ok records → Shows request records call.plan response
  failed : ∀ call ∈ calls, ∀ error, call.answer.result = .error error →
    (response.status = 503 ↔ ∃ message, error = .unavailable message) ∧
      (response.status = 502 ↔ ∀ message, error ≠ .unavailable message)
  refused : (∀ request, ¬ Asks settings query request) → response.status = 400 ∧ calls = []

/-! ### failures -/

theorem executorStatus_eq_503_iff (error : Executor.Error) :
    executorStatus error = 503 ↔ ∃ message, error = .unavailable message := by
  cases error <;> simp [executorStatus]

theorem executorStatus_eq_502_iff (error : Executor.Error) :
    executorStatus error = 502 ↔ ∀ message, error ≠ .unavailable message := by
  cases error <;> simp [executorStatus]

/-! ### one search -/

section Search

variable {settings : Settings.Search} {query : Option String}

theorem Asks.shows {request : DatasetSearch.Request} (hasks : Asks settings query request)
    (records : List Record) {response : Response} (hstatus : response.status = 200)
    (hbody : response.body = (searchBody request records).compact) :
    Shows request records (.ofRequest request) response where
  status := hstatus
  body := hbody
  one_le_pageNumber := by
    obtain ⟨params, -, -, -, hvalid⟩ := hasks
    have hnumber := ((Request.validate_eq_ok_iff _ _).mp hvalid).pageNumber
    have hzero : request.pageNumber.toNat ≠ 0 := fun h ↦ hnumber (UInt32.toNat_inj.mp h)
    omega
  skip := Plan.skip_mem_iff request
  limit := Plan.limit_mem_iff request

/-- Without a request to ask for, the backend sees nothing. -/
theorem gated_of_not_asks (hasks : ∀ request, ¬ Asks settings query request) {response : Response}
    (hstatus : response.status = 400) : Gated settings query response [] where
  once := Nat.zero_le 1
  asked := fun plan ↦ by simp [hasks]
  found := fun request h ↦ absurd h (hasks request)
  failed := fun call hcall ↦ absurd hcall List.not_mem_nil
  refused := fun _ ↦ ⟨hstatus, rfl⟩

/-- A request that is asked for is executed once, and its answer decides the response. -/
theorem Asks.gated {request : DatasetSearch.Request} (hasks : Asks settings query request)
    (answer : Execution) {response : Response}
    (hfound : ∀ records, answer.result = .ok records →
      response.status = 200 ∧ response.body = (searchBody request records).compact)
    (hfailed : ∀ error, answer.result = .error error → response.status = executorStatus error) :
    Gated settings query response [⟨.ofRequest request, answer⟩] where
  once := Nat.le_refl 1
  asked := by
    intro plan
    constructor
    · rintro ⟨call, hcall, rfl⟩
      rw [List.mem_singleton.mp hcall]
      exact ⟨request, hasks, rfl⟩
    · rintro ⟨other, hother, rfl⟩
      rw [hother.unique hasks]
      exact ⟨_, List.mem_singleton_self _, rfl⟩
  found := by
    intro other hother call hcall records hresult
    rw [List.mem_singleton.mp hcall] at hresult ⊢
    rw [hother.unique hasks]
    obtain ⟨hstatus, hbody⟩ := hfound records hresult
    exact hasks.shows records hstatus hbody
  failed := by
    intro call hcall error hresult
    rw [List.mem_singleton.mp hcall] at hresult
    rw [hfailed error hresult]
    exact ⟨executorStatus_eq_503_iff error, executorStatus_eq_502_iff error⟩
  refused := fun h ↦ absurd hasks (h request)

theorem SearchStep.gated {metrics : Metrics} {exchange : Exchange} {calls : List Call}
    (hstep : SearchStep settings metrics query exchange calls) {request : Request}
    (hhead : request.method ≠ "HEAD") :
    Gated settings query (deliver request exchange.response) calls := by
  cases hstep with
  | unreadable hquery =>
    exact gated_of_not_asks (fun _ h ↦ h.not_unreadable hquery) (deliver_status _ _)
  | refused hquery =>
    exact gated_of_not_asks (fun _ h ↦ h.not_refuses hquery) (deliver_status _ _)
  | failed hasks =>
    refine hasks.gated _ (fun records h ↦ by cases h) fun error h ↦ ?_
    cases h
    exact deliver_status _ _
  | found hasks =>
    refine hasks.gated _ (fun records h ↦ ?_) fun error h ↦ by cases h
    cases h
    exact ⟨deliver_status _ _, deliver_body hhead _⟩

end Search

/-! ### a search in a run -/

/-- A search anywhere in a run is gated, with the calls that the backend gets while it is answered. -/
theorem search_gated {σ : Type} (service : Service) (backend : Backend σ) (start : σ)
    (before after : List Message) (message : Message) (hget : message.request.method = "GET")
    (hpath : message.uri.path = "/search") :
    ∃ exchange calls,
      (service.exchanges backend start (before ++ message :: after))[before.length]? =
        some exchange ∧
      service.calls backend start (before ++ [message]) =
        service.calls backend start before ++ calls ∧
      Gated service.settings message.uri.query exchange.response calls := by
  obtain ⟨exchange, calls, hexchange, hcalls, hstep⟩ :=
    service.step_of_run backend start before after message
  refine ⟨exchange, calls, hexchange, hcalls, ?_⟩
  cases hstep with
  | quiet hother => exact absurd ⟨Or.inl hget, hpath⟩ hother
  | search hsearch hstep =>
    rw [Service.settings_afterAll] at hstep
    refine hstep.gated ?_
    rw [hget]
    decide

def secondPage : Message where
  request := { target := "/search?term=soil&pageNumber=2&pageSize=10" }
  uri := ⟨"/search", some "term=soil&pageNumber=2&pageSize=10"⟩
  parsed := by decide +kernel
  wellFormed := by decide +kernel

def noRoute : List Execution :=
  [{ result := .error (.unavailable "no route") }]

/-- The second page is asked for again after a failure, and the backend is asked for it again. -/
theorem search_gated_secondPage :
    secondPage.request.method = "GET" ∧ secondPage.uri.path = "/search" ∧ ∃ exchange calls,
      (Service.exchanges {} .scripted noRoute [secondPage, secondPage])[1]? = some exchange ∧
      Service.calls {} .scripted noRoute [secondPage, secondPage] =
        Service.calls {} .scripted noRoute [secondPage] ++ calls ∧
      calls.map Call.plan = [.ofRequest { term := "soil", pageNumber := 2, pageSize := 10 }] ∧
      Gated {} secondPage.uri.query exchange.response calls := by
  obtain ⟨exchange, calls, hexchange, hcalls, hgated⟩ :=
    search_gated {} .scripted noRoute [secondPage] [] secondPage rfl rfl
  have hasks : Asks {} secondPage.uri.query { term := "soil", pageNumber := 2, pageSize := 10 } :=
    (asks_iff _ _ _).mpr (by decide +kernel)
  obtain ⟨call, hcall, hplan⟩ := (hgated.asked _).mpr ⟨_, hasks, rfl⟩
  have hlength : calls.length = 1 :=
    Nat.le_antisymm hgated.once (List.length_pos_of_mem hcall)
  refine ⟨rfl, rfl, exchange, calls, hexchange, hcalls, ?_, hgated⟩
  obtain ⟨only, rfl⟩ := List.length_eq_one_iff.mp hlength
  rw [List.mem_singleton.mp hcall] at hplan
  rw [List.map_singleton, hplan]

end DatasetSearch.Http
