import DatasetSearch.Binary64.Shortest
import DatasetSearch.Bson.Basic
import DatasetSearch.Calendar.Timestamp
import DatasetSearch.Json.Writer

/-!
Store values as JSON. Types that JSON lacks become objects whose keys start with a dollar sign. The
canonical form writes every number so, and every date as a count of milliseconds; the relaxed form
writes numbers as numbers where JSON has them, and dates of the years 1970 to 9999 as timestamps.
-/

set_option autoImplicit false
set_option relaxedAutoImplicit false

namespace DatasetSearch.Bson

def tagged (key : String) (value : Json) : Json :=
  .object [(key, value)]

def decimalText (n : Int) : Json :=
  .string (String.ofList (Json.writeInt n))

def doubleText (x : Binary64) : String :=
  if x.isNaN then "NaN"
  else if x.isInfinite then if x.negative then "-Infinity" else "Infinity"
  else String.ofList (x.write Json.numberStyle)

def dateCount (millis : Int) : Json :=
  tagged "$date" (tagged "$numberLong" (decimalText millis))

def relaxedDate (millis : Int) : Json :=
  if 0 ≤ millis ∧ Calendar.yearOf ⟨millis⟩ ≤ 9999 then
    tagged "$date" (.string (Calendar.timestamp ⟨millis⟩))
  else dateCount millis

def sortedOptions (options : String) : String :=
  String.ofList (options.toList.mergeSort fun a b ↦ a.toNat ≤ b.toNat)

mutual

/-- The JSON form of a value, relaxed or canonical. -/
def toJson (relaxed : Bool) : Bson → Json
  | null => .null
  | bool b => .bool b
  | int32 n => if relaxed then .int n else tagged "$numberInt" (decimalText n)
  | int64 n => if relaxed then .int n else tagged "$numberLong" (decimalText n)
  | double x =>
    if relaxed && x.isFinite then .float x else tagged "$numberDouble" (.string (doubleText x))
  | string s => .string s
  | array items => .array (itemsToJson relaxed items)
  | document fields => .object (fieldsToJson relaxed fields)
  | date millis => if relaxed then relaxedDate millis else dateCount millis
  | objectId hex => tagged "$oid" (.string hex)
  | binary base64 subType =>
    tagged "$binary" (.object [("base64", .string base64), ("subType", .string subType)])
  | regex pattern options =>
    tagged "$regularExpression"
      (.object [("pattern", .string pattern), ("options", .string (sortedOptions options))])
  | code source => tagged "$code" (.string source)
  | codeWithScope source scope =>
    .object [("$code", .string source), ("$scope", .object (fieldsToJson relaxed scope))]
  | timestamp time increment =>
    tagged "$timestamp" (.object [("t", .int time), ("i", .int increment)])
  | symbol s => tagged "$symbol" (.string s)
  | decimal digits => tagged "$numberDecimal" (.string digits)
  | undefined => tagged "$undefined" (.bool true)
  | minKey => tagged "$minKey" (.int 1)
  | maxKey => tagged "$maxKey" (.int 1)
  | dbPointer ns hex =>
    tagged "$dbPointer" (.object [("$ref", .string ns), ("$id", tagged "$oid" (.string hex))])

def itemsToJson (relaxed : Bool) : List Bson → List Json
  | [] => []
  | item :: rest => toJson relaxed item :: itemsToJson relaxed rest

def fieldsToJson (relaxed : Bool) : List (String × Bson) → List (String × Json)
  | [] => []
  | (name, value) :: rest => (name, toJson relaxed value) :: fieldsToJson relaxed rest

end

def canonical (value : Bson) : Json := toJson false value

def relaxed (value : Bson) : Json := toJson true value

end DatasetSearch.Bson
