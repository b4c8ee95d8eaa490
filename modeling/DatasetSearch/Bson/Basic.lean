import DatasetSearch.Binary64.Basic

/-!
Values of the document store. They are JSON's values with whole numbers of two widths, and the
types that only the store has.
-/

set_option autoImplicit false
set_option relaxedAutoImplicit false

namespace DatasetSearch

inductive Bson where
  | null
  | bool (value : Bool)
  | int32 (value : Int)
  | int64 (value : Int)
  | double (value : Binary64)
  | string (value : String)
  | array (items : List Bson)
  | document (fields : List (String × Bson))
  | date (millis : Int)
  | objectId (hex : String)
  | binary (base64 subType : String)
  | regex (pattern options : String)
  | code (source : String)
  | codeWithScope (source : String) (scope : List (String × Bson))
  | timestamp (time increment : Nat)
  | symbol (value : String)
  | decimal (digits : String)
  | undefined
  | minKey
  | maxKey
  | dbPointer (namespaceName hex : String)
  deriving Repr, Inhabited

end DatasetSearch
