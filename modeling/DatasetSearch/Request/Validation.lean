import DatasetSearch.Checks
import DatasetSearch.Request.Basic
import DatasetSearch.Text.Space

/-!
Which requests are accepted. The checks run in a fixed order and the first one that fails names the
fault: the term, the page, the years one by one, the order of each span, the sort field.
-/

set_option autoImplicit false
set_option relaxedAutoImplicit false

namespace DatasetSearch

structure Limits where
  maxPageSize : UInt32 := Request.defaultMaxPageSize
  deriving DecidableEq, Repr, Inhabited

namespace Request

inductive Fault where
  | emptyTerm
  | notPositive (field : String)
  | pageSizeTooLarge (size limit : UInt32)
  | yearOutOfRange (field : String) (year : Int32)
  | invertedRange (firstField : String) (first : Int32) (lastField : String) (last : Int32)
  | invalidSortField (field : String)
  deriving DecidableEq, Repr

def Fault.message : Fault → String
  | emptyTerm => "search term must not be empty"
  | notPositive field => field ++ " must be a positive integer"
  | pageSizeTooLarge size limit =>
    "pageSize " ++ toString size.toNat ++ " exceeds the maximum of " ++ toString limit.toNat
  | yearOutOfRange field year =>
    field ++ " year " ++ toString year.toInt ++ " is outside the supported range"
  | invertedRange firstField first lastField last =>
    firstField ++ " (" ++ toString first.toInt ++ ") is after " ++ lastField ++ " (" ++
      toString last.toInt ++ ")"
  | invalidSortField field => "sortBy '" ++ field ++ "' is not a valid field path"

def firstYear : Int32 := 1

/-- The last year whose successor still has four digits. -/
def lastYear : Int32 := 9998

def isFieldStart (c : Char) : Bool :=
  ('A' ≤ c && c ≤ 'Z') || ('a' ≤ c && c ≤ 'z') || ('0' ≤ c && c ≤ '9') || c == '_' || c == '@'

/-- A field path starts with a letter, a digit, an underscore or an at sign, and goes on with
these and with dots. -/
def isFieldPath (s : String) : Bool :=
  match s.toList with
  | [] => false
  | c :: rest => isFieldStart c && rest.all fun c ↦ isFieldStart c || c == '.'

def checkYear (field : String) (year : Option Int32) : Except Fault Unit :=
  match year with
  | none => .ok ()
  | some year => ensure (firstYear ≤ year && year ≤ lastYear) (.yearOutOfRange field year)

def checkOrder (firstField : String) (first : Option Int32) (lastField : String)
    (last : Option Int32) : Except Fault Unit :=
  match first, last with
  | some first, some last =>
    ensure (first ≤ last) (.invertedRange firstField first lastField last)
  | _, _ => .ok ()

def checkSort (field : Option String) : Except Fault Unit :=
  match field with
  | none => .ok ()
  | some field => ensure (isFieldPath field) (.invalidSortField field)

def validate (limits : Limits) (request : Request) : Except Fault Unit := do
  ensure (!Text.isBlank request.term) .emptyTerm
  ensure (request.pageNumber != 0) (.notPositive "pageNumber")
  ensure (request.pageSize != 0) (.notPositive "pageSize")
  ensure (request.pageSize ≤ limits.maxPageSize)
    (.pageSizeTooLarge request.pageSize limits.maxPageSize)
  checkYear "publishedStart" request.publishedStart
  checkYear "publishedEnd" request.publishedEnd
  checkYear "dataCoverageStart" request.dataCoverageStart
  checkYear "dataCoverageEnd" request.dataCoverageEnd
  checkOrder "publishedStart" request.publishedStart "publishedEnd" request.publishedEnd
  checkOrder "dataCoverageStart" request.dataCoverageStart
    "dataCoverageEnd" request.dataCoverageEnd
  checkSort request.sortBy

end Request

end DatasetSearch
