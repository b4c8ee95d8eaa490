import DatasetSearch.Binary64.Basic
import DatasetSearch.Fields

/-!
JSON values. Numbers written without a fraction and an exponent are whole numbers, all others are
floating-point numbers, and the fields of an object keep their order.
-/

set_option autoImplicit false
set_option relaxedAutoImplicit false

namespace DatasetSearch

inductive Json where
  | null
  | bool (value : Bool)
  | int (value : Int)
  | float (value : Binary64)
  | string (value : String)
  | array (items : List Json)
  | object (fields : List (String × Json))
  deriving Repr, Inhabited

namespace Json

/-- The number nearest to a JSON number; other values are no numbers. -/
def number? : Json → Option Binary64
  | int n => some (Binary64.ofInt n)
  | float x => some x
  | _ => none

/-- A missing value is written as null. -/
def ofOption {α : Type} (encode : α → Json) : Option α → Json
  | none => null
  | some a => encode a

end Json

end DatasetSearch
