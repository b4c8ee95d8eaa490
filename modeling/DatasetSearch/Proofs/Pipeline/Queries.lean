import DatasetSearch.Proofs.Pipeline.Keys
import Mathlib.Data.List.Basic

/-!
# The queries of a pipeline

The texts of a plan's clauses stand under the key `query`. Hiding them in the plan or in the
pipeline comes to the same (`hideQueries_render`), so nothing else in a pipeline depends on them.
Reading them back finds the text of each clause, with the operator that the clause became and the
field it looks into, in the order of writing (`searchTexts_render`).

Both hold of every plan, also of one that sorts by a field or annotates under a name called
`query`: what stands under such a key is no text.
-/

set_option autoImplicit false
set_option relaxedAutoImplicit false

namespace DatasetSearch

def Clause.hideQuery : Clause → Clause
  | .text path _ => .text path ""
  | .range path gte lt => .range path gte lt
  | .fuzzy path _ maxEdits => .fuzzy path "" maxEdits

def Stage.hideQueries : Stage → Stage
  | .search stage => .search {
      must := stage.must.map Clause.hideQuery
      should := stage.should.map Clause.hideQuery
      filter := stage.filter.map Clause.hideQuery
      highlightPaths := stage.highlightPaths }
  | .sort field ascending => .sort field ascending
  | .skip count => .skip count
  | .limit count => .limit count
  | .annotate scoreField highlightField => .annotate scoreField highlightField

def Plan.hideQueries (plan : Plan) : Plan where
  stages := plan.stages.map Stage.hideQueries

namespace Pipeline

open Bson

/-! ### hiding -/

/-- A pipeline with the texts under the key `query` hidden, at any depth. -/
def hideQueries (pipeline : List Document) : List Document :=
  pipeline.map hideQueriesOfFields

theorem hideQueries_renderClause (clause : Clause) :
    (renderClause clause).hideQueries = renderClause clause.hideQuery := by
  cases clause with
  | text path query => simp [renderClause, Clause.hideQuery]
  | range path gte lt =>
    cases gte <;> cases lt <;> simp [renderClause, optional, renderDate, Clause.hideQuery]
  | fuzzy path query maxEdits => simp [renderClause, Clause.hideQuery]

theorem hideQueries_renderGroup {key : String} (hkey : key ≠ "query") (clauses : List Clause) :
    hideQueriesOfFields (renderGroup key clauses) =
      renderGroup key (clauses.map Clause.hideQuery) := by
  cases clauses with
  | nil => simp [renderGroup]
  | cons clause rest =>
    simp [renderGroup, hkey, hideQueriesOfItems_eq_map, hideQueries_renderClause]

theorem hideQueries_renderStage (index : String) (stage : Stage) :
    hideQueriesOfFields (renderStage index stage) = renderStage index stage.hideQueries := by
  cases stage with
  | search stage =>
    simp [renderStage, renderSearch, Stage.hideQueries, hideQueries_renderGroup]
  | sort field ascending => simp [renderStage, Stage.hideQueries]
  | skip count => simp [renderStage, Stage.hideQueries]
  | limit count => simp [renderStage, Stage.hideQueries]
  | annotate scoreField highlightField =>
    by_cases hapart : scoreField = highlightField <;>
      simp [renderStage, Fields.put, hapart, Stage.hideQueries]

theorem hideQueries_render (plan : Plan) (index : String) :
    hideQueries (render plan index) = render plan.hideQueries index := by
  simp [hideQueries, render, Plan.hideQueries, hideQueries_renderStage]

/-! ### reading -/

/-- A text to search for: the keys that lead to the operator, the field it looks into and the
text. -/
structure SearchText where
  operator : List String
  path : Option Bson
  text : String

/-- The text that stands under the key `query` of a document at a place. -/
def searchText? (place : Place) : Option SearchText :=
  match place.value with
  | .document fields =>
    match Fields.get? "query" fields with
    | some (.string text) => some ⟨place.keys, Fields.get? "path" fields, text⟩
    | _ => none
  | _ => none

def searchTexts (pipeline : List Document) : List SearchText :=
  (places pipeline).filterMap searchText?

/-- The text of a clause whose document has the keys `above` before it. -/
def clauseText? (above : List String) : Clause → Option SearchText
  | .text path query => some ⟨above ++ ["text"], some (.string path), query⟩
  | .fuzzy path query _ => some ⟨above ++ ["autocomplete"], some (.string path), query⟩
  | .range _ _ _ => none

def groupTexts (key : String) (clauses : List Clause) : List SearchText :=
  clauses.filterMap (clauseText? ["$search", "compound", key])

def stageTexts : Stage → List SearchText
  | .search stage =>
    groupTexts "filter" stage.filter ++ groupTexts "should" stage.should ++
      groupTexts "must" stage.must
  | _ => []

theorem searchTexts_renderClause (above : List String) (clause : Clause) :
    (Bson.places above (renderClause clause)).filterMap searchText? =
      (clauseText? above clause).toList := by
  cases clause with
  | text path query => simp [renderClause, searchText?, Fields.get?, clauseText?]
  | range path gte lt =>
    cases gte <;> cases lt <;>
      simp [renderClause, optional, renderDate, searchText?, Fields.get?, clauseText?]
  | fuzzy path query maxEdits => simp [renderClause, searchText?, Fields.get?, clauseText?]

theorem searchTexts_renderGroup (key : String) (clauses : List Clause) :
    (placesOfFields ["$search", "compound"] (renderGroup key clauses)).filterMap searchText? =
      groupTexts key clauses := by
  cases clauses with
  | nil => rfl
  | cons clause rest =>
    simp only [renderGroup, List.isEmpty_cons, Bool.false_eq_true, if_false, placesOfFields,
      Bson.places, placesOfItems_eq_flatMap, List.flatMap_map, List.append_nil]
    rw [List.filterMap_cons_none rfl, List.filterMap_flatMap]
    simp only [searchTexts_renderClause]
    exact (List.filterMap_eq_flatMap_toList _ _).symm

/-- The groups stand beside each other in a document that has no text of its own. -/
theorem get?_query_compound (stage : SearchStage) :
    Fields.get? "query" (renderGroup "filter" stage.filter ++
      (renderGroup "should" stage.should ++ renderGroup "must" stage.must)) = none := by
  rw [get?_renderGroup_append (by decide), get?_renderGroup_append (by decide),
    ← List.append_nil (renderGroup "must" stage.must), get?_renderGroup_append (by decide),
    Fields.get?_nil]

theorem searchTexts_renderStage (index : String) (stage : Stage) :
    (placesOfFields [] (renderStage index stage)).filterMap searchText? = stageTexts stage := by
  cases stage with
  | search stage =>
    simp [renderStage, renderSearch, stageTexts, List.filterMap_cons, searchTexts_renderGroup,
      searchText?, Fields.get?, get?_query_compound]
  | sort field ascending =>
    by_cases hquery : field = "query" <;>
      simp [renderStage, stageTexts, searchText?, Fields.get?, hquery]
  | skip count => simp [renderStage, stageTexts, searchText?]
  | limit count => simp [renderStage, stageTexts, searchText?]
  | annotate scoreField highlightField =>
    -- A name may be `query` itself, but what stands under it is a document.
    by_cases hapart : scoreField = highlightField <;> by_cases hscore : scoreField = "query" <;>
      by_cases hhighlight : highlightField = "query" <;>
      simp_all [renderStage, Fields.put, stageTexts, List.filterMap_cons, searchText?,
        Fields.get?]

theorem searchTexts_render (plan : Plan) (index : String) :
    searchTexts (render plan index) = plan.stages.flatMap stageTexts := by
  simp only [searchTexts, places, render, List.flatMap_map, List.filterMap_flatMap,
    searchTexts_renderStage]

end Pipeline

end DatasetSearch
