import DatasetSearch.Executor.Database
import DatasetSearch.Http.Encoding
import DatasetSearch.Metrics
import DatasetSearch.Plan.Compile
import DatasetSearch.Request.Parameters
import DatasetSearch.Settings.Basic
import DatasetSearch.Uri

/-!
The service: searches, statistics and a health report. A search runs through three gates before the
executor is asked: the query has to be readable, it has to name a term, and the request has to be
valid. Each exit of a search moves exactly one counter, but for unreadable queries, which move
none. Whatever else a message asks for, it is answered without the executor. Messages are answered
in turn, and the counters and the state of the executor are handed on from one to the next.
-/

set_option autoImplicit false
set_option relaxedAutoImplicit false

namespace DatasetSearch.Http

def errorBody (message : String) : Json :=
  .object [("error", .string message)]

def executorStatus : Executor.Error → Nat
  | .unavailable _ => 503
  | _ => 502

def executorFailure (error : Executor.Error) : Response :=
  .ofJson (executorStatus error) (errorBody error.message)

def badRequest (message : String) : Response :=
  .ofJson 400 (errorBody message)

/-! ### searching -/

/-- What becomes of a query before the executor is asked. -/
inductive Admission where
  | unreadable (fault : Parameters.Fault)
  | refused (fault : DatasetSearch.Request.Fault)
  | admitted (request : DatasetSearch.Request)
  deriving DecidableEq, Repr

def Admission.ofQuery (settings : Settings.Search) (query : Option String) : Admission :=
  match Parameters.ofQuery query with
  | .error fault => .unreadable fault
  | .ok params =>
    match params.toRequest settings.defaultPageSize with
    | .error fault => .refused fault
    | .ok request =>
      match request.validate settings.limits with
      | .error fault => .refused fault
      | .ok () => .admitted request

/-- What the executor answers when it is asked, and how long that takes. -/
structure Execution where
  result : Executor.Result
  elapsed : Duration := ⟨0⟩

/-- An executor that answers out of a state of its own, which every plan it is asked to run may
change. -/
abbrev Backend (σ : Type) := Plan → StateM σ Execution

/-- A response, the plan that the executor was asked to run, and the counters afterwards. -/
structure Exchange where
  response : Response
  plan : Option Plan := none
  metrics : Metrics

def searchBody (request : DatasetSearch.Request) (records : List Record) : Json :=
  .object [
    ("term", .string request.term),
    ("pageNumber", .int request.pageNumber.toNat),
    ("pageSize", .int request.pageSize.toNat),
    ("count", .int records.length),
    ("results", .array (records.map Record.toJson))]

section Backend

variable {σ : Type}

def search (settings : Settings.Search) (metrics : Metrics) (backend : Backend σ)
    (query : Option String) : StateM σ Exchange := do
  match Admission.ofQuery settings query with
  | .unreadable fault => return ⟨.ofText 400 fault.message, none, metrics⟩
  | .refused fault => return ⟨badRequest fault.message, none, metrics.recordRejection⟩
  | .admitted request =>
    let plan := Plan.ofRequest request
    let execution ← backend plan
    match execution.result with
    | .error error => return ⟨executorFailure error, some plan, metrics.recordFailure⟩
    | .ok records =>
      return ⟨.ofJson 200 (searchBody request records), some plan,
        metrics.recordSuccess execution.elapsed records.length⟩

/-! ### routing -/

inductive Route where
  | search
  | stats
  | health
  deriving DecidableEq, Repr

def Route.ofPath? (path : String) : Option Route :=
  if path = "/search" then some .search
  else if path = "/stats" then some .stats
  else if path = "/health" then some .health
  else none

def healthBody : Json :=
  .object [("status", .string "ok"), ("version", .string Catalog.version)]

def handle (settings : Settings.Search) (metrics : Metrics) (backend : Backend σ)
    (query : Option String) : Route → StateM σ Exchange
  | .search => search settings metrics backend query
  | .stats => return ⟨.ofJson 200 metrics.snapshot.toJson, none, metrics⟩
  | .health => return ⟨.ofJson 200 healthBody, none, metrics⟩

def allowedMethods : String := "GET,HEAD"

/-- Reading methods reach the handler; every other method is refused on a route. -/
def dispatch (settings : Settings.Search) (metrics : Metrics) (backend : Backend σ)
    (method : String) (uri : Uri) : StateM σ Exchange :=
  match Route.ofPath? uri.path with
  | none => return ⟨{ status := 404 }, none, metrics⟩
  | some route =>
    if method = "GET" ∨ method = "HEAD" then handle settings metrics backend uri.query route
    else return ⟨{ status := 405, headers := [("allow", allowedMethods)] }, none, metrics⟩

end Backend

/-! ### headers around every response -/

def leastCompressedSize : Nat := 32

/-- Bodies of some size are compressed if the client accepts that, and say that they vary. -/
def encoded (coding : Coding) (response : Response) : Response :=
  if response.body.utf8ByteSize < leastCompressedSize then response
  else
    let response := response.withHeader "vary" "accept-encoding"
    match coding with
    | .identity => response
    | .gzip => response.withHeader "content-encoding" "gzip"

def crossOriginVary : String :=
  "origin, access-control-request-method, access-control-request-headers"

/-- Every origin may read every response. -/
def crossOrigin (response : Response) : Response :=
  (response.withHeader "vary" crossOriginVary).withHeader "access-control-allow-origin" "*"

def permissions (uri : Uri) : Response :=
  let response : Response := {
    status := 200
    headers := [("access-control-allow-methods", "*"), ("access-control-allow-headers", "*")] }
  match Route.ofPath? uri.path with
  | none => response
  | some _ => response.withHeader "allow" allowedMethods

def withoutBody (response : Response) : Response :=
  { response with body := "" }

/-- What is sent for the response of a handler. -/
def deliver (request : Request) (response : Response) : Response :=
  let response := encoded (negotiate (request.header "accept-encoding")) response
  crossOrigin (if request.method = "HEAD" then withoutBody response else response)

/-! ### the service -/

/-- A request that can be sent, with its target taken apart. -/
structure Message where
  request : Request
  uri : Uri
  parsed : Uri.parse? request.target = some uri
  wellFormed : request.isWellFormed = true

def Message.ofRequest? (request : Request) : Option Message :=
  match hparsed : Uri.parse? request.target with
  | none => none
  | some uri =>
    if hwellFormed : request.isWellFormed = true then
      some ⟨request, uri, hparsed, hwellFormed⟩
    else none

structure Service where
  settings : Settings.Search := {}
  metrics : Metrics := {}

namespace Service

section Backend

variable {σ : Type}

def respond (service : Service) (backend : Backend σ) (message : Message) : StateM σ Exchange := do
  if message.request.method = "OPTIONS" then
    return ⟨crossOrigin (permissions message.uri), none, service.metrics⟩
  let exchange ← dispatch service.settings service.metrics backend message.request.method
    message.uri
  return { exchange with response := deliver message.request exchange.response }

/-- The service once an exchange is over. -/
def after (service : Service) (exchange : Exchange) : Service :=
  { service with metrics := exchange.metrics }

/-- Answers messages in turn, each with the counters that the one before it left. -/
def serve (service : Service) (backend : Backend σ) : List Message → StateM σ (List Exchange)
  | [] => return []
  | message :: rest => do
    let exchange ← service.respond backend message
    let exchanges ← (service.after exchange).serve backend rest
    return exchange :: exchanges

end Backend

end Service

/-- An executor with a script of answers, which it gives out one at a time; once the script is used
up it has no records. -/
def Backend.scripted : Backend (List Execution) := fun _ ↦
  modifyGet fun
    | [] => ({ result := .ok [] }, [])
    | execution :: rest => (execution, rest)

end DatasetSearch.Http
