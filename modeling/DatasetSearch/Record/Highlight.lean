import DatasetSearch.Json.Writer
import DatasetSearch.Text.Quoted

/-!
Highlights of a search result: in which field the terms were found, with what score, and the
excerpts around them. A highlight is read from an object or from an array of its fields in order,
and so is an excerpt. Fields are checked where they stand and missing ones afterwards; unknown
fields are passed over.
-/

set_option autoImplicit false
set_option relaxedAutoImplicit false

namespace DatasetSearch

namespace Highlight

inductive Kind where
  | hit
  | text
  deriving DecidableEq, Repr

def Kind.name : Kind → String
  | hit => "hit"
  | text => "text"

structure Excerpt where
  value : String
  kind : Kind
  deriving DecidableEq, Repr

end Highlight

structure Highlight where
  path : String
  score : Binary64 := .zero false
  texts : List Highlight.Excerpt := []
  deriving DecidableEq, Repr

namespace Highlight

/-! ### faults -/

/-- What a reader wanted to find. -/
inductive Wanted where
  | sequence
  | highlight
  | excerpt
  | string
  | number
  | kind
  | nothing
  deriving DecidableEq, Repr

def Wanted.name : Wanted → String
  | sequence => "a sequence"
  | highlight => "struct Highlight"
  | excerpt => "struct HighlightText"
  | string => "a string"
  | number => "f64"
  | kind => "string or map"
  | nothing => "unit"

inductive Fault where
  | invalidType (found : Json) (wanted : Wanted)
  | missingField (name : String)
  | unknownKind (name : String)
  | notSingleKey
  | tooFewElements (count : Nat) (wanted : Wanted) (most : Nat)
  | tooManyElements (count : Nat)
  deriving Repr

def ticked (text : String) : String :=
  "\x60" ++ text ++ "\x60"

def describe : Json → String
  | .null => "null"
  | .bool b => "boolean " ++ ticked (if b then "true" else "false")
  | .int n => "integer " ++ ticked (String.ofList (Json.writeInt n))
  | .float x => "floating point " ++ ticked (String.ofList (x.write Json.numberStyle))
  | .string s => "string " ++ Text.Quoted.quote s
  | .array _ => "sequence"
  | .object _ => "map"

def Fault.message : Fault → String
  | invalidType found wanted => "invalid type: " ++ describe found ++ ", expected " ++ wanted.name
  | missingField name => "missing field " ++ ticked name
  | unknownKind name =>
    "unknown variant " ++ ticked name ++ ", expected " ++ ticked "hit" ++ " or " ++ ticked "text"
  | notSingleKey => "invalid value: map, expected map with a single key"
  | tooFewElements count wanted most =>
    "invalid length " ++ toString count ++ ", expected " ++ wanted.name ++ " with " ++
      toString most ++ " elements"
  | tooManyElements count =>
    "invalid length " ++ toString count ++ ", expected fewer elements in array"

/-! ### reading -/

def readString : Json → Except Fault String
  | .string s => .ok s
  | found => .error (.invalidType found .string)

def readNumber (value : Json) : Except Fault Binary64 :=
  match value.number? with
  | some x => .ok x
  | none => .error (.invalidType value .number)

def readSequence {α : Type} (read : Json → Except Fault α) : Json → Except Fault (List α)
  | .array items => items.mapM read
  | found => .error (.invalidType found .sequence)

def readKindName (name : String) : Except Fault Kind :=
  if name = "hit" then .ok .hit
  else if name = "text" then .ok .text
  else .error (.unknownKind name)

/-- A kind is its name, or an object with the name as its only key and nothing under it. -/
def readKind : Json → Except Fault Kind
  | .string name => readKindName name
  | .object [(name, value)] =>
    match readKindName name, value with
    | .ok kind, .null => .ok kind
    | .ok _, found => .error (.invalidType found .nothing)
    | .error fault, _ => .error fault
  | .object _ => .error .notSingleKey
  | found => .error (.invalidType found .kind)

/-- Refuses elements beyond the greatest number there can be. -/
def noMoreThan {α : Type} (most : Nat) (items : List Json) (value : α) : Except Fault α :=
  if most < items.length then .error (.tooManyElements items.length) else .ok value

def readExcerptFields (value : Option String) (kind : Option Kind) :
    List (String × Json) → Except Fault Excerpt
  | [] =>
    match value, kind with
    | none, _ => .error (.missingField "value")
    | _, none => .error (.missingField "type")
    | some value, some kind => .ok ⟨value, kind⟩
  | (name, found) :: rest =>
    if name = "value" then do readExcerptFields (some (← readString found)) kind rest
    else if name = "type" then do readExcerptFields value (some (← readKind found)) rest
    else readExcerptFields value kind rest

def readExcerpt : Json → Except Fault Excerpt
  | .object fields => readExcerptFields none none fields
  | .array [] => .error (.tooFewElements 0 .excerpt 2)
  | .array [value] => do
    let _ ← readString value
    .error (.tooFewElements 1 .excerpt 2)
  | .array (value :: kind :: rest) => do
    let excerpt : Excerpt := ⟨← readString value, ← readKind kind⟩
    noMoreThan 2 (value :: kind :: rest) excerpt
  | found => .error (.invalidType found .excerpt)

def readFields (path : Option String) (score : Option Binary64) (texts : Option (List Excerpt)) :
    List (String × Json) → Except Fault Highlight
  | [] =>
    match path with
    | none => .error (.missingField "path")
    | some path => .ok ⟨path, score.getD (.zero false), texts.getD []⟩
  | (name, found) :: rest =>
    if name = "path" then do readFields (some (← readString found)) score texts rest
    else if name = "score" then do readFields path (some (← readNumber found)) texts rest
    else if name = "texts" then do
      readFields path score (some (← readSequence readExcerpt found)) rest
    else readFields path score texts rest

def read : Json → Except Fault Highlight
  | .object fields => readFields none none none fields
  | .array [] => .error (.tooFewElements 0 .highlight 3)
  | .array [path] => do return { path := ← readString path }
  | .array [path, score] => do return { path := ← readString path, score := ← readNumber score }
  | .array (path :: score :: texts :: rest) => do
    let highlight : Highlight :=
      ⟨← readString path, ← readNumber score, ← readSequence readExcerpt texts⟩
    noMoreThan 3 (path :: score :: texts :: rest) highlight
  | found => .error (.invalidType found .highlight)

def readAll (value : Json) : Except Fault (List Highlight) :=
  readSequence read value

/-! ### writing -/

def Excerpt.toJson (excerpt : Excerpt) : Json :=
  .object [("value", .string excerpt.value), ("type", .string excerpt.kind.name)]

def toJson (highlight : Highlight) : Json :=
  .object [
    ("path", .string highlight.path),
    ("score", .float highlight.score),
    ("texts", .array (highlight.texts.map Excerpt.toJson))]

end Highlight

end DatasetSearch
