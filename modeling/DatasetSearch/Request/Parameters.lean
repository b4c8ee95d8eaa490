import DatasetSearch.Request.Validation
import DatasetSearch.Text.Percent

/-!
Search parameters in a query string. Every known name may occur once, even with a blank value;
unknown names are passed over. The term is taken as it is, every other value is trimmed, and what
is blank then counts as absent. Parameters are read in the order of the query and the first fault
ends the reading.
-/

set_option autoImplicit false
set_option relaxedAutoImplicit false

namespace DatasetSearch

inductive Parameter where
  | term
  | sortBy
  | contentType
  | providerName
  | creatorName
  | dataCoverageStart
  | dataCoverageEnd
  | publishedStart
  | publishedEnd
  | pageNumber
  | pageSize
  deriving DecidableEq, Repr

namespace Parameter

def name : Parameter → String
  | term => "term"
  | sortBy => "sortBy"
  | contentType => "contentType"
  | providerName => "providerName"
  | creatorName => "creatorName"
  | dataCoverageStart => "dataCoverageStart"
  | dataCoverageEnd => "dataCoverageEnd"
  | publishedStart => "publishedStart"
  | publishedEnd => "publishedEnd"
  | pageNumber => "pageNumber"
  | pageSize => "pageSize"

def all : List Parameter :=
  [term, sortBy, contentType, providerName, creatorName, dataCoverageStart, dataCoverageEnd,
    publishedStart, publishedEnd, pageNumber, pageSize]

def ofName? (s : String) : Option Parameter :=
  all.find? (·.name == s)

end Parameter

/-- The parameters of a query as far as they are present. -/
structure Parameters where
  term : Option String := none
  sortBy : Option String := none
  contentType : Option String := none
  providerName : Option String := none
  creatorName : Option String := none
  dataCoverageStart : Option Int32 := none
  dataCoverageEnd : Option Int32 := none
  publishedStart : Option Int32 := none
  publishedEnd : Option Int32 := none
  pageNumber : Option UInt32 := none
  pageSize : Option UInt32 := none
  deriving DecidableEq, Repr, Inhabited

namespace Parameters

inductive Fault where
  | duplicate (parameter : Parameter)
  | numeral (fault : Text.Numeral.Fault)
  deriving DecidableEq, Repr

def Fault.reason : Fault → String
  | duplicate parameter => "duplicate field \x60" ++ parameter.name ++ "\x60"
  | numeral fault => fault.message

def Fault.message (fault : Fault) : String :=
  "Failed to deserialize query string: " ++ fault.reason

/-! ### values -/

def present? (value : String) : Option String :=
  let trimmed := Text.trim value
  if trimmed.isEmpty then none else some trimmed

def number? (bounds : Text.Numeral.Bounds) (value : String) : Except Fault (Option Int) :=
  match present? value with
  | none => .ok none
  | some trimmed =>
    match Text.Numeral.read bounds trimmed.toList with
    | .ok n => .ok (some n)
    | .error fault => .error (.numeral fault)

def year? (value : String) : Except Fault (Option Int32) :=
  (number? (.signed 32) value).map (·.map Int32.ofInt)

def count? (value : String) : Except Fault (Option UInt32) :=
  (number? (.unsigned 32) value).map (·.map fun n ↦ UInt32.ofNat n.toNat)

/-! ### reading -/

def set (params : Parameters) (parameter : Parameter) (value : String) :
    Except Fault Parameters :=
  match parameter with
  | .term => .ok { params with term := some value }
  | .sortBy => .ok { params with sortBy := present? value }
  | .contentType => .ok { params with contentType := present? value }
  | .providerName => .ok { params with providerName := present? value }
  | .creatorName => .ok { params with creatorName := present? value }
  | .dataCoverageStart => (year? value).map fun y ↦ { params with dataCoverageStart := y }
  | .dataCoverageEnd => (year? value).map fun y ↦ { params with dataCoverageEnd := y }
  | .publishedStart => (year? value).map fun y ↦ { params with publishedStart := y }
  | .publishedEnd => (year? value).map fun y ↦ { params with publishedEnd := y }
  | .pageNumber => (count? value).map fun n ↦ { params with pageNumber := n }
  | .pageSize => (count? value).map fun n ↦ { params with pageSize := n }

/-- Reads the remaining pieces after the parameters in `seen`. -/
def readFrom (seen : List Parameter) (params : Parameters) :
    List (String × String) → Except Fault Parameters
  | [] => .ok params
  | (name, value) :: rest =>
    match Parameter.ofName? name with
    | none => readFrom seen params rest
    | some parameter =>
      if parameter ∈ seen then .error (.duplicate parameter)
      else match params.set parameter value with
        | .error fault => .error fault
        | .ok params => readFrom (parameter :: seen) params rest

/-- The parameters of a query string; a target without a query has none. -/
def ofQuery (query : Option String) : Except Fault Parameters :=
  readFrom [] {} (Form.decode (Text.Utf8.encode (query.getD "").toList))

/-- The request that the parameters ask for, which needs a term. -/
def toRequest (params : Parameters) (defaultPageSize : UInt32) : Except Request.Fault Request :=
  match params.term with
  | none => .error .emptyTerm
  | some term => .ok {
      term
      sortBy := params.sortBy
      contentType := params.contentType
      providerName := params.providerName
      creatorName := params.creatorName
      dataCoverageStart := params.dataCoverageStart
      dataCoverageEnd := params.dataCoverageEnd
      publishedStart := params.publishedStart
      publishedEnd := params.publishedEnd
      pageNumber := params.pageNumber.getD 1
      pageSize := params.pageSize.getD defaultPageSize }

end Parameters

end DatasetSearch
