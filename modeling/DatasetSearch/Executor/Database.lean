import DatasetSearch.Bson.ExtendedJson
import DatasetSearch.Pipeline.Render
import DatasetSearch.Record.Basic

/-!
Running a plan on the database, which answers with records in the order of the backend or with the
reason why there are none. The aggregate call fails, or it opens a cursor that yields documents
until it ends or fails. Draining the cursor is all or nothing: either every document becomes a
record, in the order of the cursor, or the first event that is no readable document decides the
error, and nothing after it matters.
-/

set_option autoImplicit false
set_option relaxedAutoImplicit false

namespace DatasetSearch.Executor

/-! ### answers -/

inductive Error where
  | unavailable (message : String)
  | unauthorized (message : String)
  | backend (code : Option Int32) (message : String)
  | decode (message : String)
  deriving DecidableEq, Repr

def Error.message : Error → String
  | unavailable message => "search backend unavailable: " ++ message
  | unauthorized message => "search backend rejected credentials: " ++ message
  | backend _ message => "search backend command failed: " ++ message
  | decode message => "failed to decode search backend response: " ++ message

abbrev Result := Except Error (List Record)

/-! ### running a plan -/

/-- What the connection to the database reports when a call does not succeed. -/
inductive Failure where
  | serverSelection (message : String)
  | connection (message : String)
  | poolCleared (message : String)
  | authentication (message : String)
  | command (code : Int32) (message : String)
  | unreadable (message : String)
  | invalidResponse (message : String)
  | other (message : String)
  deriving DecidableEq, Repr

def classify : Failure → Error
  | .serverSelection message => .unavailable message
  | .connection message => .unavailable message
  | .poolCleared message => .unavailable message
  | .authentication message => .unauthorized message
  | .command code message => .backend (some code) message
  | .unreadable message => .decode message
  | .invalidResponse message => .decode message
  | .other message => .backend none message

inductive Event where
  | document (fields : Pipeline.Document)
  | failure (failure : Failure)
  deriving Repr

/-- What becomes of an aggregate call: a failure, or the events of its cursor. -/
abbrev Script := Except Failure (List Event)

/-- A database answers pipelines. -/
abbrev Database := List Pipeline.Document → Script

def decodeRecord (fields : Pipeline.Document) : Except Error Record :=
  (Record.ofDocument (Bson.document fields).relaxed).mapError fun fault ↦ .decode fault.message

def drain : List Event → Result
  | [] => .ok []
  | .failure failure :: _ => .error (classify failure)
  | .document fields :: rest => do
    let record ← decodeRecord fields
    let records ← drain rest
    return record :: records

def execute (database : Database) (index : String) (plan : Plan) : Result :=
  match database (Pipeline.render plan index) with
  | .error failure => .error (classify failure)
  | .ok events => drain events

end DatasetSearch.Executor
