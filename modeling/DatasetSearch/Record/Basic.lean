import DatasetSearch.Catalog
import DatasetSearch.Record.Highlight

/-!
Records: a document of the catalog with the annotations of a search taken out of it. A missing or
null annotation stands for no score and no highlights. Each annotation is taken out by exchange
with the last field, the score first. A record is written as the two annotations and the remaining
fields.
-/

set_option autoImplicit false
set_option relaxedAutoImplicit false

namespace DatasetSearch

structure Record where
  score : Binary64
  highlights : List Highlight
  document : Fields Json
  deriving Repr

namespace Record

inductive Fault where
  | notAnObject (found : Json)
  | invalidScore
  | highlights (fault : Highlight.Fault)
  deriving Repr

def typeName : Json → String
  | .null => "null"
  | .bool _ => "boolean"
  | .int _ => "number"
  | .float _ => "number"
  | .string _ => "string"
  | .array _ => "array"
  | .object _ => "object"

def Fault.message : Fault → String
  | notAnObject found => "expected a document object, got " ++ typeName found
  | invalidScore => "score is not a number"
  | highlights fault => "malformed highlights: " ++ fault.message

def readScore : Option Json → Except Fault Binary64
  | none => .ok (.zero false)
  | some .null => .ok (.zero false)
  | some value =>
    match value.number? with
    | some x => .ok x
    | none => .error .invalidScore

def readHighlights : Option Json → Except Fault (List Highlight)
  | none => .ok []
  | some .null => .ok []
  | some value => (Highlight.readAll value).mapError .highlights

def ofDocument : Json → Except Fault Record
  | .object fields => do
    let score ← readScore (Fields.get? Catalog.score fields)
    let fields := Fields.swapRemove Catalog.score fields
    let highlights ← readHighlights (Fields.get? Catalog.highlights fields)
    return ⟨score, highlights, Fields.swapRemove Catalog.highlights fields⟩
  | found => .error (.notAnObject found)

def toJson (record : Record) : Json :=
  .object ((Catalog.score, .float record.score) ::
    (Catalog.highlights, .array (record.highlights.map Highlight.toJson)) :: record.document)

end Record

end DatasetSearch
