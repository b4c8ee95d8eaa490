import DatasetSearch.Proofs.Pipeline.Queries
import DatasetSearch.Proofs.Plan.Distinction
import DatasetSearch.Proofs.Request.Acceptance

/-!
# User text in a pipeline

The term and the facets of a request are texts that a user is free to choose. They reach the
pipeline as texts under the key `query` and nowhere else: requests that differ in the wording of
such texts only have the same pipeline once its queries are hidden
(`SameShape.hideQueries_ofRequest`), and the wordings stand there unchanged, each with its operator
and the field looked into (`searchTexts_ofRequest`).

The sort field is the one text that becomes a key. An accepted one is not an operator
(`not_isOperator_of_isFieldPath`), so the operators of an accepted request's pipeline are those
that every pipeline has, each at its place. `userText_confined` says both.
-/

set_option autoImplicit false
set_option relaxedAutoImplicit false

namespace DatasetSearch

open Request

/-! ### requests of one shape -/

/-- Two requests that differ at most in the wording of the term and of the facets. Whether a facet
is given, and not blank, belongs to the shape. -/
structure Request.SameShape (a b : Request) : Prop where
  sortBy : a.sortBy = b.sortBy
  publishedStart : a.publishedStart = b.publishedStart
  publishedEnd : a.publishedEnd = b.publishedEnd
  dataCoverageStart : a.dataCoverageStart = b.dataCoverageStart
  dataCoverageEnd : a.dataCoverageEnd = b.dataCoverageEnd
  pageNumber : a.pageNumber = b.pageNumber
  pageSize : a.pageSize = b.pageSize
  creatorName : (facet? a.creatorName).isSome = (facet? b.creatorName).isSome
  providerName : (facet? a.providerName).isSome = (facet? b.providerName).isSome
  contentType : (facet? a.contentType).isSome = (facet? b.contentType).isSome

theorem FacetRule.hideQuery_textClause? {path : String} {value other : Option String}
    (hgiven : (facet? value).isSome = (facet? other).isSome) :
    (textClause? path value).map Clause.hideQuery =
      (textClause? path other).map Clause.hideQuery := by
  rw [textClause?_eq_map, textClause?_eq_map]
  cases hvalue : facet? value <;> cases hother : facet? other <;>
    simp_all [Clause.hideQuery]

namespace Request.SameShape

variable {a b : Request} (hshape : a.SameShape b)

include hshape

theorem hideQuery_clause? {rule : FacetRule} (hrule : rule ∈ FacetRule.all) :
    (rule.clause? a).map Clause.hideQuery = (rule.clause? b).map Clause.hideQuery := by
  simp only [FacetRule.all, FacetRule.mustRules, FacetRule.filterRules, List.cons_append,
    List.nil_append, List.mem_cons, List.not_mem_nil, or_false] at hrule
  rcases hrule with rfl | rfl | rfl | rfl | rfl | rfl
  · exact FacetRule.hideQuery_textClause? hshape.creatorName
  · exact FacetRule.hideQuery_textClause? hshape.providerName
  · exact FacetRule.hideQuery_textClause? hshape.contentType
  · simp [hshape.publishedStart, hshape.publishedEnd]
  · simp [hshape.dataCoverageStart]
  · simp [hshape.dataCoverageEnd]

theorem hideQuery_clauses {rules : List FacetRule} (hrules : rules ⊆ FacetRule.all) :
    (rules.filterMap (·.clause? a)).map Clause.hideQuery =
      (rules.filterMap (·.clause? b)).map Clause.hideQuery := by
  rw [List.map_filterMap, List.map_filterMap]
  exact List.filterMap_congr fun rule hrule ↦ hshape.hideQuery_clause? (hrules hrule)

theorem hideQueries_searchStage :
    (Stage.search (Plan.searchStage a)).hideQueries =
      (Stage.search (Plan.searchStage b)).hideQueries := by
  have hmust := hshape.hideQuery_clauses (List.subset_append_left FacetRule.mustRules _)
  have hfilter := hshape.hideQuery_clauses (List.subset_append_right _ FacetRule.filterRules)
  simp [Stage.hideQueries, Plan.searchStage, hmust, hfilter, Clause.hideQuery]

theorem hideQueries_ofRequest : (Plan.ofRequest a).hideQueries = (Plan.ofRequest b).hideQueries := by
  have hskip : a.skip = b.skip := by
    rw [skip, skip, hshape.pageNumber, hshape.pageSize]
  simp only [Plan.hideQueries, Plan.ofRequest, List.cons_append, List.map_cons, List.map_append,
    hshape.hideQueries_searchStage, hshape.sortBy, hskip, hshape.pageSize]

end Request.SameShape

namespace Pipeline

open Bson

/-! ### the texts of a request -/

/-- The facets of a request, each with the field that it is looked for in. -/
def facets (request : Request) : List (String × Option String) := [
  ("creator.@list.name", request.creatorName),
  ("provider.name", request.providerName),
  ("@type", request.contentType)]

/-- The texts that a request asks to search for: the term in each searchable field, and each facet
that is given. -/
def askedTexts (request : Request) : List SearchText :=
  (["name", "description", "keywords"].map fun field ↦
    ⟨["$search", "compound", "should", "autocomplete"], some (.string field), request.term⟩) ++
  (facets request).filterMap fun (field, value) ↦ (facet? value).map fun text ↦
    ⟨["$search", "compound", "must", "text"], some (.string field), text⟩

/-- A range holds no text to search for. -/
theorem clauseText?_bounded? (above : List String) (path : String) (gte lt : Option Instant) :
    (Clause.bounded? path gte lt).bind (clauseText? above) = none := by
  unfold Clause.bounded?
  split <;> rfl

theorem clauseText?_textClause? (above : List String) (path : String) (value : Option String) :
    (FacetRule.textClause? path value).bind (clauseText? above) =
      (facet? value).map fun text ↦ ⟨above ++ ["text"], some (.string path), text⟩ := by
  rw [FacetRule.textClause?_eq_map]
  cases facet? value <;> rfl

theorem groupTexts_filter (request : Request) :
    groupTexts "filter" (Plan.searchStage request).filter = [] := by
  simp [groupTexts, Plan.searchStage, List.filterMap_filterMap, FacetRule.filterRules,
    clauseText?_bounded?]

theorem groupTexts_should (request : Request) :
    groupTexts "should" (Plan.searchStage request).should =
      ["name", "description", "keywords"].map fun field ↦
        ⟨["$search", "compound", "should", "autocomplete"], some (.string field),
          request.term⟩ := by
  simp [groupTexts, Plan.searchStage, Catalog.searchable, Catalog.name, Catalog.description,
    Catalog.keywords, clauseText?]

theorem groupTexts_must (request : Request) :
    groupTexts "must" (Plan.searchStage request).must =
      (facets request).filterMap fun (field, value) ↦ (facet? value).map fun text ↦
        ⟨["$search", "compound", "must", "text"], some (.string field), text⟩ := by
  rw [groupTexts, Plan.searchStage, List.filterMap_filterMap]
  simp only [FacetRule.mustRules, List.filterMap_cons, List.filterMap_nil,
    clauseText?_textClause?]
  rfl

theorem searchTexts_ofRequest (request : Request) (index : String) :
    searchTexts (render (.ofRequest request) index) = askedTexts request := by
  have hsort : (request.sortBy.map (Stage.sort · true)).toList.flatMap stageTexts = [] := by
    cases request.sortBy <;> rfl
  rw [searchTexts_render, Plan.ofRequest, List.cons_append, List.flatMap_cons,
    List.flatMap_append, hsort]
  simp [stageTexts, groupTexts_filter, groupTexts_should, groupTexts_must, askedTexts]

/-! ### operators -/

theorem not_isOperator_of_isFieldPath {field : String} (hpath : isFieldPath field = true) :
    ¬ IsOperator field := by
  intro hoperator
  unfold isFieldPath at hpath
  split at hpath
  · cases hpath
  · next c rest hfield =>
    rw [IsOperator, hfield, List.head?_cons, Option.some.injEq] at hoperator
    subst hoperator
    simp [isFieldStart] at hpath

/-- The user's texts in a pipeline. Requests of one shape have one pipeline but for the texts under
the key `query`, which are the term and the facets as they were given. In the pipeline of an
accepted request each stage has one key, operators stand at their places only, and a key that is not
fixed is the sort field. -/
theorem userText_confined (a b : Request) (index : String) :
    (a.SameShape b →
      hideQueries (render (.ofRequest a) index) = hideQueries (render (.ofRequest b) index)) ∧
    searchTexts (render (.ofRequest a) index) = askedTexts a ∧
    ∀ limits, a.validate limits = .ok () →
      (render (.ofRequest a) index).map Fields.keys =
        ["$search"] :: (a.sortBy.map fun _ ↦ ["$sort"]).toList ++ [["$skip"], ["$limit"], ["$set"]] ∧
      ∀ place ∈ places (render (.ofRequest a) index),
        (∀ key ∈ place.keys.getLast?, IsOperator key → place.keys ∈ operatorPlaces) ∧
        (place.keys ∈ fixedPlaces ∨
          ∃ field, a.sortBy = some field ∧ place.keys = ["$sort", field]) := by
  refine ⟨fun hshape ↦ ?_, searchTexts_ofRequest a index, fun limits hvalid ↦
    ⟨map_keys_ofRequest a index, fun place hplace ↦ ?_⟩⟩
  · rw [hideQueries_render, hideQueries_render, hshape.hideQueries_ofRequest]
  · have hfixed := keys_of_mem_places_ofRequest hplace
    refine ⟨fun key hkey hoperator ↦ ?_, hfixed⟩
    rcases hfixed with hfixed | ⟨field, hsort, hkeys⟩
    · exact mem_operatorPlaces_of_mem_fixedPlaces _ hfixed ⟨key, hkey, hoperator⟩
    · have haccepted := (validate_eq_ok_iff limits a).mp hvalid
      have hfield : key = field := by simpa [hkeys, eq_comm] using hkey
      subst hfield
      exact absurd hoperator (not_isOperator_of_isFieldPath (haccepted.sortBy key hsort))

def plainWords : Request where
  term := "soil"
  sortBy := some "query"
  creatorName := some "NOAA"

/-- The same request with operators for words. -/
def operatorWords : Request where
  term := "$where"
  sortBy := some "query"
  creatorName := some "$function"

/-- Words that look like operators change no key, also where results are sorted by a field called
`query`. -/
theorem userText_confined_operatorWords :
    operatorWords.SameShape plainWords ∧ operatorWords.validate {} = .ok () ∧
      hideQueries (render (.ofRequest operatorWords) "catalog") =
        hideQueries (render (.ofRequest plainWords) "catalog") ∧
      (searchTexts (render (.ofRequest operatorWords) "catalog")).map SearchText.text =
        ["$where", "$where", "$where", "$function"] ∧
      ∀ place ∈ places (render (.ofRequest operatorWords) "catalog"),
        ∀ key ∈ place.keys.getLast?, IsOperator key → place.keys ∈ operatorPlaces := by
  have hshape : operatorWords.SameShape plainWords := by
    constructor <;> decide
  have hvalid : operatorWords.validate {} = .ok () := rfl
  obtain ⟨hsame, htexts, hkeys⟩ := userText_confined operatorWords plainWords "catalog"
  refine ⟨hshape, hvalid, hsame hshape, ?_, fun place hplace ↦ ?_⟩
  · rw [htexts]
    decide
  · exact ((hkeys {} hvalid).2 place hplace).1

end Pipeline

end DatasetSearch
