import DatasetSearch.Proofs.Pipeline.Keys
import DatasetSearch.Proofs.Plan.ProperClauses
import Mathlib.Data.Set.Basic

/-!
# The groups of a pipeline

What stands under given keys of a pipeline is traced back to the plan. Under the key of a group
there is one array, with the documents of the clauses in the group, or nothing if it has none
(`mem_valuesAt_group`). One key further there are the bodies of these documents, each under the
operator of its clause (`mem_valuesAt_operator`). A text under the key `query` at any depth is the
text of a clause (`exists_clause_of_query`).
-/

set_option autoImplicit false
set_option relaxedAutoImplicit false

namespace DatasetSearch

open Bson

namespace Pipeline

/-! ### values at a place -/

/-- The values that stand under the given keys. -/
def valuesAt (pipeline : List Document) (keys : List String) : Set Bson :=
  {value | ⟨keys, value⟩ ∈ places pipeline}

theorem mem_valuesAt_stage (pipeline : List Document) (key : String) (value : Bson) :
    value ∈ valuesAt pipeline [key] ↔ ∃ stage ∈ pipeline, (key, value) ∈ stage := by
  have hstage (stage : Document) :
      (⟨[key], value⟩ : Place) ∈ placesOfFields [] stage ↔ (key, value) ∈ stage :=
    mem_placesOfFields_iff [] key value stage
  simp only [valuesAt, places, Set.mem_ofPred_eq, List.mem_flatMap, hstage]

/-! ### groups of clauses -/

/-- The document of all groups that have clauses. -/
def compound (stage : SearchStage) : Document :=
  renderGroup "filter" stage.filter ++ renderGroup "should" stage.should ++
    renderGroup "must" stage.must

theorem mem_renderGroup_iff (name key : String) (clauses : List Clause) (value : Bson) :
    (key, value) ∈ renderGroup name clauses ↔
      key = name ∧ clauses ≠ [] ∧ value = .array (clauses.map renderClause) := by
  cases clauses <;> simp [renderGroup]

theorem mem_compound_iff (stage : SearchStage) (key : String) (value : Bson) :
    (key, value) ∈ compound stage ↔
      ∃ clauses, (key, clauses) ∈ stage.groups ∧ clauses ≠ [] ∧
        value = .array (clauses.map renderClause) := by
  simp only [compound, List.mem_append, mem_renderGroup_iff, SearchStage.groups, List.mem_cons,
    List.not_mem_nil, or_false, Prod.mk.injEq, or_and_right, exists_or, and_assoc,
    exists_eq_left, exists_and_left, or_assoc]

theorem mem_places_renderGroup (above : List String) (key : String) (clauses : List Clause)
    (place : Place) :
    place ∈ placesOfFields above (renderGroup key clauses) ↔
      (clauses ≠ [] ∧ place = ⟨above ++ [key], .array (clauses.map renderClause)⟩) ∨
        ∃ clause ∈ clauses, place ∈ Bson.places (above ++ [key]) (renderClause clause) := by
  cases clauses with
  | nil => simp [renderGroup]
  | cons clause rest =>
    simp only [renderGroup, List.isEmpty_cons, Bool.false_eq_true, if_false, placesOfFields,
      Bson.places, placesOfItems_eq_flatMap, List.flatMap_map, List.append_nil, List.mem_cons,
      List.mem_flatMap, ne_eq, reduceCtorEq, not_false_eq_true, true_and]

theorem mem_places_compound (stage : SearchStage) (place : Place) :
    place ∈ placesOfFields ["$search", "compound"] (compound stage) ↔
      ∃ group ∈ stage.groups,
        (group.2 ≠ [] ∧
          place = ⟨["$search", "compound", group.1], .array (group.2.map renderClause)⟩) ∨
        ∃ clause ∈ group.2,
          place ∈ Bson.places ["$search", "compound", group.1] (renderClause clause) := by
  simp only [compound, placesOfFields_append, List.mem_append, mem_places_renderGroup,
    SearchStage.groups, List.mem_cons, List.not_mem_nil, or_false, List.cons_append,
    List.nil_append, or_assoc, exists_eq_or_imp, exists_eq_left]

/-- The one field of a clause's document is its operator. -/
theorem mem_places_renderClause_iff (group key operator : String) (clause : Clause) (value : Bson) :
    ⟨["$search", "compound", key, operator], value⟩ ∈
        Bson.places ["$search", "compound", group] (renderClause clause) ↔
      key = group ∧ .document [(operator, value)] = renderClause clause := by
  cases clause with
  | text path query => simp [renderClause, and_assoc]
  | range path gte lt =>
    cases gte <;> cases lt <;> simp [renderClause, optional, renderDate, and_assoc]
  | fuzzy path query maxEdits => simp [renderClause, and_assoc]

section Request

variable (request : Request) (index : String)

theorem mem_valuesAt_compound (key : String) (tail : List String) (value : Bson) :
    value ∈ valuesAt (render (.ofRequest request) index) ("$search" :: "compound" :: key :: tail) ↔
      ⟨"$search" :: "compound" :: key :: tail, value⟩ ∈
        placesOfFields ["$search", "compound"] (compound (Plan.searchStage request)) := by
  cases hsort : request.sortBy <;>
    simp [valuesAt, places, render, Plan.ofRequest, hsort, renderStage, renderSearch, Fields.put,
      Catalog.score, Catalog.highlights, compound]

theorem mem_valuesAt_group (key : String) (value : Bson) :
    value ∈ valuesAt (render (.ofRequest request) index) ["$search", "compound", key] ↔
      ∃ clauses, (key, clauses) ∈ (Plan.searchStage request).groups ∧ clauses ≠ [] ∧
        value = .array (clauses.map renderClause) := by
  rw [mem_valuesAt_compound, ← mem_compound_iff]
  exact mem_placesOfFields_iff ["$search", "compound"] key value _

theorem mem_valuesAt_operator (key operator : String) (value : Bson) :
    value ∈ valuesAt (render (.ofRequest request) index) ["$search", "compound", key, operator] ↔
      ∃ clauses, (key, clauses) ∈ (Plan.searchStage request).groups ∧
        ∃ clause ∈ clauses, .document [(operator, value)] = renderClause clause := by
  rw [mem_valuesAt_compound, mem_places_compound]
  constructor
  · rintro ⟨⟨group, clauses⟩, hgroup, ⟨-, hplace⟩ | ⟨clause, hclause, hplace⟩⟩
    · simp at hplace
    · obtain ⟨rfl, hrender⟩ := (mem_places_renderClause_iff _ _ _ _ _).mp hplace
      exact ⟨clauses, hgroup, clause, hclause, hrender⟩
  · rintro ⟨clauses, hgroup, clause, hclause, hrender⟩
    refine ⟨(key, clauses), hgroup, Or.inr ⟨clause, hclause, ?_⟩⟩
    exact (mem_places_renderClause_iff _ _ _ _ _).mpr ⟨rfl, hrender⟩

end Request

/-! ### queries -/

/-- The text that a clause looks for. -/
def query? : Clause → Option String
  | .text _ query => some query
  | .range _ _ _ => none
  | .fuzzy _ query _ => some query

theorem not_isBlank_of_query? {clause : Clause} (hproper : clause.IsProper) {text : String}
    (hquery : query? clause = some text) : Text.isBlank text = false := by
  cases clause with
  | text path query =>
    cases hquery
    exact hproper
  | range path gte lt => cases hquery
  | fuzzy path query maxEdits =>
    cases hquery
    exact hproper

theorem eq_of_mem_places_date {above : List String} {key : String} {t : Option Instant}
    {place : Place}
    (hplace : place ∈ placesOfFields above (optional key (t.map renderDate))) :
    ∃ millis, place = ⟨above ++ [key], .date millis⟩ := by
  cases t with
  | none => simp [optional] at hplace
  | some t => exact ⟨t.millis, by simpa [optional, renderDate] using hplace⟩

theorem query?_of_mem_places {above : List String} {clause : Clause} {place : Place}
    (hplace : place ∈ Bson.places above (renderClause clause))
    (hkey : place.keys.getLast? = some "query") {text : String}
    (htext : place.value = .string text) : query? clause = some text := by
  cases clause with
  | text path query =>
    simp only [renderClause, Bson.places, placesOfFields, List.mem_cons, List.mem_append,
      List.not_mem_nil, or_false] at hplace
    rcases hplace with rfl | rfl | rfl <;> simp_all [query?]
  | range path gte lt =>
    simp only [renderClause, Bson.places, placesOfFields, placesOfFields_append, List.mem_cons,
      List.mem_append, List.cons_append, List.not_mem_nil, or_false] at hplace
    rcases hplace with rfl | rfl | hplace | (hgte | hlt)
    · simp at hkey
    · simp at hkey
    · simp at hplace
    · obtain ⟨millis, rfl⟩ := eq_of_mem_places_date hgte
      simp at hkey
    · obtain ⟨millis, rfl⟩ := eq_of_mem_places_date hlt
      simp at hkey
  | fuzzy path query maxEdits =>
    simp only [renderClause, Bson.places, placesOfFields, List.mem_cons, List.cons_append,
      List.nil_append, List.not_mem_nil, or_false] at hplace
    rcases hplace with rfl | rfl | rfl | rfl | rfl <;> simp_all [query?]

theorem exists_clause_of_query_search {index : String} {stage : SearchStage} {place : Place}
    (hplace : place ∈ placesOfFields [] (renderSearch index stage))
    (hkey : place.keys.getLast? = some "query") {text : String}
    (htext : place.value = .string text) :
    ∃ group ∈ stage.groups, ∃ clause ∈ group.2, query? clause = some text := by
  have hcompound : place ∈ placesOfFields ["$search", "compound"] (compound stage) := by
    simp only [renderSearch, Bson.places, placesOfFields, placesOfItems_strings, List.nil_append,
      List.append_nil, List.mem_cons, List.mem_append, List.cons_append, List.not_mem_nil,
      or_false] at hplace
    rcases hplace with rfl | rfl | rfl | hplace | rfl | rfl
    · simp at hkey
    · simp at hkey
    · simp at hkey
    · exact hplace
    · simp at hkey
    · simp at hkey
  obtain ⟨group, hgroup, ⟨-, rfl⟩ | ⟨clause, hclause, hinside⟩⟩ :=
    (mem_places_compound stage place).mp hcompound
  · simp at htext
  · exact ⟨group, hgroup, clause, hclause, query?_of_mem_places hinside hkey htext⟩

/-- A text under the key `query` is the text of a clause, also in a pipeline that sorts by a field
of that name. -/
theorem exists_clause_of_query {request : Request} {index : String} {place : Place}
    (hplace : place ∈ places (render (.ofRequest request) index))
    (hkey : place.keys.getLast? = some "query") {text : String}
    (htext : place.value = .string text) :
    ∃ group ∈ (Plan.searchStage request).groups, ∃ clause ∈ group.2,
      query? clause = some text := by
  obtain ⟨document, hdocument, hplace⟩ := List.mem_flatMap.mp hplace
  obtain ⟨stage, hstage, rfl⟩ := List.mem_map.mp hdocument
  have hkeys := keys_renderStage index stage (List.mem_map_of_mem hplace)
  rcases (Plan.mem_stages_iff request stage).mp hstage with rfl | ⟨field, -, rfl⟩ | rfl | rfl | rfl
  · exact exists_clause_of_query_search hplace hkey htext
  · simp only [renderStage, Bson.places, placesOfFields, List.mem_cons, List.append_nil,
      List.not_mem_nil, or_false] at hplace
    rcases hplace with rfl | rfl <;> simp at htext
  · simp_all [stagePlaces]
  · simp_all [stagePlaces]
  · simp only [stagePlaces, Catalog.score, Catalog.highlights, List.mem_cons, List.not_mem_nil,
      or_false] at hkeys
    rcases hkeys with hkeys | hkeys | hkeys | hkeys | hkeys <;> simp [hkeys] at hkey

end Pipeline

end DatasetSearch
