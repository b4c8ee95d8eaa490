import DatasetSearch.Pipeline.Render
import DatasetSearch.Proofs.Bson.Places
import DatasetSearch.Plan.Compile

/-!
# The keys of a pipeline

Which keys a stage has, and at which places, depends on its kind alone, but for the field of a sort
and the two names of an annotation (`keys_renderStage`). In the pipeline of a request the names of
the annotation are fixed too. What remains is the sort field under `$sort`
(`keys_of_mem_places_ofRequest`): no other text of a request becomes a key.
-/

set_option autoImplicit false
set_option relaxedAutoImplicit false

namespace DatasetSearch.Pipeline

open Bson

/-- All fields of all stages, at any depth. -/
def places (pipeline : List Document) : List Place :=
  pipeline.flatMap (placesOfFields [])

/-! ### clauses -/

/-- The places that a clause may have fields at. -/
def clausePlaces : List (List String) := [
  ["text"], ["text", "path"], ["text", "query"],
  ["range"], ["range", "path"], ["range", "gte"], ["range", "lt"],
  ["autocomplete"], ["autocomplete", "query"], ["autocomplete", "path"],
  ["autocomplete", "fuzzy"], ["autocomplete", "fuzzy", "maxEdits"]]

theorem keys_renderClause (above : List String) (clause : Clause) :
    (Bson.places above (renderClause clause)).map Place.keys ⊆ clausePlaces.map (above ++ ·) := by
  cases clause with
  | text path query => simp [renderClause, clausePlaces]
  | range path gte lt =>
    cases gte <;> cases lt <;> simp [renderClause, optional, renderDate, clausePlaces]
  | fuzzy path query maxEdits => simp [renderClause, clausePlaces]

/-- The places that a group of clauses may have fields at. -/
def groupPlaces (key : String) : List (List String) :=
  ["$search", "compound", key] :: clausePlaces.map (["$search", "compound", key] ++ ·)

theorem keys_renderGroup (key : String) (clauses : List Clause) :
    (placesOfFields ["$search", "compound"] (renderGroup key clauses)).map Place.keys ⊆
      groupPlaces key := by
  unfold renderGroup
  split
  · simp
  · have hclauses : ((clauses.map renderClause).flatMap
        (Bson.places ["$search", "compound", key])).map Place.keys ⊆ groupPlaces key := by
      rw [List.flatMap_map, List.map_flatMap]
      intro keys hkeys
      obtain ⟨clause, -, hkeys⟩ := List.mem_flatMap.mp hkeys
      exact List.mem_cons_of_mem _ (keys_renderClause _ clause hkeys)
    have hgroup : ["$search", "compound", key] ∈ groupPlaces key := List.mem_cons_self
    simpa [placesOfItems_eq_flatMap, hgroup] using hclauses

theorem get?_renderGroup_append {key name : String} (hne : key ≠ name) (clauses : List Clause)
    (rest : Document) :
    Fields.get? name (renderGroup key clauses ++ rest) = Fields.get? name rest := by
  cases clauses <;> simp [renderGroup, Fields.get?, hne]

/-! ### stages -/

def searchPlaces : List (List String) :=
  [["$search"], ["$search", "index"], ["$search", "compound"]] ++ groupPlaces "filter" ++
    groupPlaces "should" ++ groupPlaces "must" ++
    [["$search", "highlight"], ["$search", "highlight", "path"]]

/-- The places that a stage may have fields at. -/
def stagePlaces : Stage → List (List String)
  | .search _ => searchPlaces
  | .sort field _ => [["$sort"], ["$sort", field]]
  | .skip _ => [["$skip"]]
  | .limit _ => [["$limit"]]
  | .annotate scoreField highlightField => [
    ["$set"], ["$set", scoreField], ["$set", scoreField, "$meta"],
    ["$set", highlightField], ["$set", highlightField, "$meta"]]

theorem keys_renderSearch (index : String) (stage : SearchStage) :
    (placesOfFields [] (renderSearch index stage)).map Place.keys ⊆ searchPlaces := by
  have hfilter := keys_renderGroup "filter" stage.filter
  have hshould := keys_renderGroup "should" stage.should
  have hmust := keys_renderGroup "must" stage.must
  intro keys hkeys
  simp only [renderSearch, placesOfFields, placesOfFields_append, Bson.places,
    placesOfItems_strings, List.nil_append, List.append_nil, List.cons_append, List.map_cons,
    List.map_append, List.map_nil, List.mem_cons, List.mem_append, List.not_mem_nil,
    or_false] at hkeys
  rcases hkeys with rfl | rfl | rfl | ((hkeys | hkeys) | hkeys) | rfl | rfl
  · simp [searchPlaces]
  · simp [searchPlaces]
  · simp [searchPlaces]
  · simp [searchPlaces, hfilter hkeys]
  · simp [searchPlaces, hshould hkeys]
  · simp [searchPlaces, hmust hkeys]
  · simp [searchPlaces]
  · simp [searchPlaces]

theorem keys_renderStage (index : String) (stage : Stage) :
    (placesOfFields [] (renderStage index stage)).map Place.keys ⊆ stagePlaces stage := by
  cases stage with
  | search stage => exact keys_renderSearch index stage
  | sort field ascending => simp [renderStage, stagePlaces]
  | skip count => simp [renderStage, stagePlaces]
  | limit count => simp [renderStage, stagePlaces]
  | annotate scoreField highlightField =>
    by_cases hapart : scoreField = highlightField <;>
      simp [renderStage, Fields.put, hapart, stagePlaces]

/-! ### the pipeline of a request -/

/-- The places at which a pipeline of any request may have fields. -/
def fixedPlaces : List (List String) :=
  searchPlaces ++ [["$sort"], ["$skip"], ["$limit"], ["$set"], ["$set", "score"],
    ["$set", "score", "$meta"], ["$set", "highlights"], ["$set", "highlights", "$meta"]]

/-- The operators of a pipeline, each at its place. -/
def operatorPlaces : List (List String) := [
  ["$search"], ["$sort"], ["$skip"], ["$limit"], ["$set"],
  ["$set", "score", "$meta"], ["$set", "highlights", "$meta"]]

/-- Each stage has one key, and the stages come in one order. -/
theorem map_keys_ofRequest (request : Request) (index : String) :
    (render (.ofRequest request) index).map Fields.keys =
      ["$search"] :: (request.sortBy.map fun _ ↦ ["$sort"]).toList ++
        [["$skip"], ["$limit"], ["$set"]] := by
  cases hsort : request.sortBy <;>
    simp [render, Plan.ofRequest, hsort, renderStage, renderSearch, Fields.keys]

theorem mem_fixedPlaces_of_mem_stagePlaces {request : Request} {stage : Stage}
    (hstage : stage ∈ (Plan.ofRequest request).stages) {keys : List String}
    (hkeys : keys ∈ stagePlaces stage) :
    keys ∈ fixedPlaces ∨ ∃ field, request.sortBy = some field ∧ keys = ["$sort", field] := by
  have hkind := (Plan.mem_stages_iff request stage).mp hstage
  rcases hkind with rfl | ⟨field, hsort, rfl⟩ | rfl | rfl | rfl
  · exact Or.inl (List.mem_append_left _ hkeys)
  · simp only [stagePlaces, List.mem_cons, List.not_mem_nil, or_false] at hkeys
    rcases hkeys with rfl | rfl
    · simp [fixedPlaces]
    · exact Or.inr ⟨field, hsort, rfl⟩
  · simp_all [stagePlaces, fixedPlaces]
  · simp_all [stagePlaces, fixedPlaces]
  · simp only [stagePlaces, Catalog.score, Catalog.highlights, List.mem_cons, List.not_mem_nil,
      or_false] at hkeys
    rcases hkeys with rfl | rfl | rfl | rfl | rfl <;> simp [fixedPlaces]

theorem keys_of_mem_places_ofRequest {request : Request} {index : String} {place : Place}
    (hplace : place ∈ places (render (.ofRequest request) index)) :
    place.keys ∈ fixedPlaces ∨
      ∃ field, request.sortBy = some field ∧ place.keys = ["$sort", field] := by
  obtain ⟨document, hdocument, hplace⟩ := List.mem_flatMap.mp hplace
  obtain ⟨stage, hstage, rfl⟩ := List.mem_map.mp hdocument
  exact mem_fixedPlaces_of_mem_stagePlaces hstage
    (keys_renderStage index stage (List.mem_map_of_mem hplace))

def IsOperator (key : String) : Prop :=
  key.toList.head? = some '$'

instance (key : String) : Decidable (IsOperator key) :=
  inferInstanceAs (Decidable (_ = _))

/-- Of the fixed places those that end in an operator are the places of operators. -/
theorem mem_operatorPlaces_of_mem_fixedPlaces :
    ∀ keys ∈ fixedPlaces, (∃ key ∈ keys.getLast?, IsOperator key) → keys ∈ operatorPlaces := by
  decide +kernel

end DatasetSearch.Pipeline
