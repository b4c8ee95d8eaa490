import DatasetSearch.Calendar

/-!
Query plans: an ordered list of stages, of which the search stage holds clauses in three groups. A
clause looks into one field, for a text, for a span of time or for a term within a few edits.
-/

set_option autoImplicit false
set_option relaxedAutoImplicit false

namespace DatasetSearch

inductive Clause where
  | text (path query : String)
  | range (path : String) (gte lt : Option Instant)
  | fuzzy (path query : String) (maxEdits : UInt8)
  deriving DecidableEq, Repr

namespace Clause

def path : Clause → String
  | text path _ => path
  | range path _ _ => path
  | fuzzy path _ _ => path

/-- A range from `gte` on and before `lt`; with both sides open there is no clause. -/
def bounded? (path : String) (gte lt : Option Instant) : Option Clause :=
  if gte.isNone && lt.isNone then none else some (range path gte lt)

end Clause

structure SearchStage where
  must : List Clause := []
  should : List Clause := []
  filter : List Clause := []
  highlightPaths : List String := []
  deriving DecidableEq, Repr

inductive Stage where
  | search (stage : SearchStage)
  | sort (field : String) (ascending : Bool)
  | skip (count : UInt64)
  | limit (count : UInt32)
  | annotate (scoreField highlightField : String)
  deriving DecidableEq, Repr

namespace Stage

def name : Stage → String
  | search _ => "search"
  | sort _ _ => "sort"
  | skip _ => "skip"
  | limit _ => "limit"
  | annotate _ _ => "annotate"

end Stage

structure Plan where
  stages : List Stage
  deriving DecidableEq, Repr

end DatasetSearch
