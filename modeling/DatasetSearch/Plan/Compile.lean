import DatasetSearch.Catalog
import DatasetSearch.Plan.Basic
import DatasetSearch.Request.Basic
import DatasetSearch.Text.Space

/-!
The plan of a request: `search`, `sort` if a sort field is given, `skip`, `limit`, `annotate`.
Facets come from two tables of rules, one rule for each clause that a request can ask for. A rule
makes at most one clause of a request; beside that, its row declares the parameters it reads and the
field it looks into.

A plan cuts out one page: it skips the results of the pages before and is limited to the page size.
There is one stage of each kind, but for the sort, which may be missing (`mem_stages_iff`).
-/

set_option autoImplicit false
set_option relaxedAutoImplicit false

namespace DatasetSearch

/-- A rule of the tables: the parameters it is declared to read, the field it is declared to look
into, and the clause that it makes of a request. -/
structure FacetRule where
  param : String
  target : String
  clause? : Request → Option Clause

namespace FacetRule

/-- A text clause with the value unchanged; a blank value makes no clause. -/
def textClause? (path : String) (value : Option String) : Option Clause :=
  value.bind fun value ↦ if Text.isBlank value then none else some (.text path value)

def fromYear (year : Option Int32) : Option Instant :=
  year.bind fun year ↦ Calendar.startOfYear year.toInt

/-- The end of a year is the start of the next one. -/
def throughYear (year : Option Int32) : Option Instant :=
  year.bind fun year ↦ Calendar.startOfYear (year.toInt + 1)

def mustRules : List FacetRule := [
  ⟨"creatorName", Catalog.creatorName, fun request ↦
    textClause? Catalog.creatorName request.creatorName⟩,
  ⟨"providerName", Catalog.providerName, fun request ↦
    textClause? Catalog.providerName request.providerName⟩,
  ⟨"contentType", Catalog.recordType, fun request ↦
    textClause? Catalog.recordType request.contentType⟩]

def filterRules : List FacetRule := [
  ⟨"publishedStart/publishedEnd", Catalog.datePublished, fun request ↦
    Clause.bounded? Catalog.datePublished (fromYear request.publishedStart)
      (throughYear request.publishedEnd)⟩,
  ⟨"dataCoverageStart", Catalog.coverageStart, fun request ↦
    Clause.bounded? Catalog.coverageStart (fromYear request.dataCoverageStart) none⟩,
  ⟨"dataCoverageEnd", Catalog.coverageEnd, fun request ↦
    Clause.bounded? Catalog.coverageEnd (throughYear request.dataCoverageEnd) none⟩]

end FacetRule

namespace Plan

def maxEdits : UInt8 := 1

def searchStage (request : Request) : SearchStage where
  must := FacetRule.mustRules.filterMap (·.clause? request)
  should := Catalog.searchable.map fun path ↦ .fuzzy path request.term maxEdits
  filter := FacetRule.filterRules.filterMap (·.clause? request)
  highlightPaths := Catalog.highlighted

/-- Sorting comes before the page is cut out, so that pages are cut from one order. -/
def ofRequest (request : Request) : Plan where
  stages :=
    .search (searchStage request) :: (request.sortBy.map (Stage.sort · true)).toList ++
      [.skip request.skip, .limit request.pageSize, .annotate Catalog.score Catalog.highlights]

/-! ### the page of a plan -/

theorem mem_stages_iff (request : Request) (stage : Stage) :
    stage ∈ (ofRequest request).stages ↔
      stage = .search (searchStage request) ∨
      (∃ field, request.sortBy = some field ∧ stage = .sort field true) ∨
      stage = .skip request.skip ∨ stage = .limit request.pageSize ∨
      stage = .annotate Catalog.score Catalog.highlights := by
  cases hsort : request.sortBy <;> simp [ofRequest, hsort]

theorem skip_mem_iff (request : Request) (count : UInt64) :
    .skip count ∈ (ofRequest request).stages ↔
      count.toNat = (request.pageNumber.toNat - 1) * request.pageSize.toNat := by
  rw [← request.toNat_skip, UInt64.toNat_inj]
  cases request.sortBy <;> simp [ofRequest]

theorem limit_mem_iff (request : Request) (count : UInt32) :
    .limit count ∈ (ofRequest request).stages ↔ count = request.pageSize := by
  cases request.sortBy <;> simp [ofRequest]

end Plan

end DatasetSearch
