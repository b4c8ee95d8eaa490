import DatasetSearch.Proofs.Pipeline.Groups

/-!
# Pipelines that the engine can take

The engine refuses a group without clauses and a range without bounds, and it finds nothing for a
blank text or in an empty range. `IsExecutable` lists what a pipeline has to keep clear of, and what
it has to keep of its request: every year as the bound that it stands for, the page, and the sort
field. `render_isExecutable` says that the pipeline of an accepted request is so.

A year's bound is not compared with a formula: it is the instant from which on civil years are not
earlier (`IsStartOf`).
-/

set_option autoImplicit false
set_option relaxedAutoImplicit false

namespace DatasetSearch.Pipeline

open Bson Calendar

/-! ### ranges of a pipeline -/

/-- The document of a range. -/
def rangeBody (path : String) (gte lt : Option Instant) : Document :=
  ("path", .string path) ::
    optional "gte" (gte.map renderDate) ++ optional "lt" (lt.map renderDate)

theorem get?_rangeBody (path : String) (gte lt : Option Instant) :
    Fields.get? "path" (rangeBody path gte lt) = some (.string path) ∧
      Fields.get? "gte" (rangeBody path gte lt) = gte.map renderDate ∧
      Fields.get? "lt" (rangeBody path gte lt) = lt.map renderDate := by
  cases gte <;> cases lt <;> simp [rangeBody, optional, Fields.get?]

/-- A range document has dates for bounds, at least one of them, and the lower one is before the
upper one. -/
structure IsProperRange (range : Document) : Prop where
  dates : ∀ side ∈ ["gte", "lt"], ∀ bound, Fields.get? side range = some bound →
    ∃ millis, bound = .date millis
  bounded : (Fields.get? "gte" range).isSome ∨ (Fields.get? "lt" range).isSome
  ordered : ∀ start stop, Fields.get? "gte" range = some (.date start) →
    Fields.get? "lt" range = some (.date stop) → start < stop

theorem isProperRange_rangeBody {path : String} {gte lt : Option Instant}
    (hproper : (Clause.range path gte lt).IsProper) : IsProperRange (rangeBody path gte lt) := by
  obtain ⟨-, hgte, hlt⟩ := get?_rangeBody path gte lt
  obtain ⟨hbounded, hordered⟩ := hproper
  constructor
  · intro side hside bound hbound
    simp only [List.mem_cons, List.not_mem_nil, or_false] at hside
    rcases hside with rfl | rfl
    · rw [hgte] at hbound
      obtain ⟨start, -, rfl⟩ := Option.map_eq_some_iff.mp hbound
      exact ⟨start.millis, rfl⟩
    · rw [hlt] at hbound
      obtain ⟨stop, -, rfl⟩ := Option.map_eq_some_iff.mp hbound
      exact ⟨stop.millis, rfl⟩
  · simpa only [hgte, hlt, Option.isSome_map] using hbounded
  · intro start stop hstart hstop
    rw [hgte] at hstart
    rw [hlt] at hstop
    obtain ⟨first, hfirst, hsame⟩ := Option.map_eq_some_iff.mp hstart
    obtain ⟨last, hlast, hother⟩ := Option.map_eq_some_iff.mp hstop
    have hmillis := hordered first hfirst last hlast
    cases hsame
    cases hother
    exact hmillis

/-- The first millisecond of a civil year: what is not before it lies in this year or later. -/
def IsStartOf (year millis : Int) : Prop :=
  ∀ t : Instant, millis ≤ t.millis ↔ year ≤ civilYear t

/-- A filter on a field that is bounded by the start of a year. -/
def HasBound (pipeline : List Document) (path side : String) (year : Int) : Prop :=
  ∃ range millis, .document range ∈ valuesAt pipeline ["$search", "compound", "filter", "range"] ∧
    Fields.get? "path" range = some (.string path) ∧
    Fields.get? side range = some (.date millis) ∧ IsStartOf year millis

/-! ### what the engine can take -/

structure IsExecutable (limits : Limits) (request : Request) (pipeline : List Document) :
    Prop where
  should : valuesAt pipeline ["$search", "compound", "should"] =
    {.array (["name", "description", "keywords"].map fun field ↦
      .document [("autocomplete", .document [
        ("query", .string request.term),
        ("path", .string field),
        ("fuzzy", .document [("maxEdits", .int32 1)])])])}
  groups : ∀ group ∈ (Plan.searchStage request).groups,
    (valuesAt pipeline ["$search", "compound", group.1]).Nonempty ↔ group.2 ≠ []
  filled : ∀ key, ∀ value ∈ valuesAt pipeline ["$search", "compound", key],
    ∃ clause rest, value = .array (clause :: rest)
  ranges : ∀ key, ∀ value ∈ valuesAt pipeline ["$search", "compound", key, "range"],
    ∃ range, value = .document range ∧ IsProperRange range
  publishedStart : ∀ year ∈ request.publishedStart,
    HasBound pipeline "datePublished" "gte" year.toInt
  publishedEnd : ∀ year ∈ request.publishedEnd,
    HasBound pipeline "datePublished" "lt" (year.toInt + 1)
  dataCoverageStart : ∀ year ∈ request.dataCoverageStart,
    HasBound pipeline "temporalCoverage.start" "gte" year.toInt
  dataCoverageEnd : ∀ year ∈ request.dataCoverageEnd,
    HasBound pipeline "temporalCoverage.end" "gte" (year.toInt + 1)
  queries : ∀ place ∈ places pipeline, place.keys.getLast? = some "query" →
    ∀ text, place.value = .string text → Text.isBlank text = false
  limit : ∃ count : Int, valuesAt pipeline ["$limit"] = {.int64 count} ∧ 1 ≤ count ∧
    count ≤ limits.maxPageSize.toNat
  skip : ∃ count : Int, valuesAt pipeline ["$skip"] = {.int64 count} ∧ 0 ≤ count ∧
    count ≤ 2 ^ 63 - 1 ∧ (limits.maxPageSize.toNat ≤ 2 ^ 31 →
      count = (request.pageNumber.toNat - 1) * request.pageSize.toNat)
  sort : valuesAt pipeline ["$sort"] =
    {value | ∃ field, request.sortBy = some field ∧ value = .document [(field, .int32 1)]}

section Request

variable (request : Request) (index : String)

theorem valuesAt_should :
    valuesAt (render (.ofRequest request) index) ["$search", "compound", "should"] =
      {.array (["name", "description", "keywords"].map fun field ↦
        .document [("autocomplete", .document [
          ("query", .string request.term),
          ("path", .string field),
          ("fuzzy", .document [("maxEdits", .int32 1)])])])} := by
  ext value
  rw [mem_valuesAt_group, Set.mem_singleton_iff]
  simp [SearchStage.groups, Plan.searchStage, Catalog.searchable, Catalog.name, Catalog.description,
    Catalog.keywords, renderClause, Plan.maxEdits]

theorem nonempty_valuesAt_group {key : String} {clauses : List Clause}
    (hgroup : (key, clauses) ∈ (Plan.searchStage request).groups) :
    (valuesAt (render (.ofRequest request) index) ["$search", "compound", key]).Nonempty ↔
      clauses ≠ [] := by
  constructor
  · rintro ⟨value, hvalue⟩
    obtain ⟨others, hothers, hne, -⟩ := (mem_valuesAt_group request index key value).mp hvalue
    have hkeys : ((Plan.searchStage request).groups.map Prod.fst).Nodup := by
      simp [SearchStage.groups]
    have hsame := List.inj_on_of_nodup_map hkeys hgroup hothers rfl
    rwa [(Prod.mk.inj hsame).2]
  · intro hne
    exact ⟨_, (mem_valuesAt_group request index key _).mpr ⟨clauses, hgroup, hne, rfl⟩⟩

theorem valuesAt_limit :
    valuesAt (render (.ofRequest request) index) ["$limit"] =
      {.int64 request.pageSize.toNat} := by
  ext value
  rw [mem_valuesAt_stage, Set.mem_singleton_iff]
  cases hsort : request.sortBy <;>
    simp [render, Plan.ofRequest, hsort, renderStage, renderSearch]

theorem valuesAt_skip :
    valuesAt (render (.ofRequest request) index) ["$skip"] =
      {.int64 (min request.skip.toNat greatestSkip : Nat)} := by
  ext value
  rw [mem_valuesAt_stage, Set.mem_singleton_iff]
  cases hsort : request.sortBy <;>
    simp [render, Plan.ofRequest, hsort, renderStage, renderSearch]

theorem valuesAt_sort :
    valuesAt (render (.ofRequest request) index) ["$sort"] =
      {value | ∃ field, request.sortBy = some field ∧ value = .document [(field, .int32 1)]} := by
  ext value
  rw [mem_valuesAt_stage]
  cases hsort : request.sortBy <;>
    simp [render, Plan.ofRequest, hsort, renderStage, renderSearch]

/-- A rule that bounds a range by the start of a year leaves this bound in the pipeline. -/
theorem hasBound_of_rule (param target side : String) (gte lt : Request → Option Instant)
    (hrule : ⟨param, target, fun request ↦ Clause.bounded? target (gte request) (lt request)⟩ ∈
      FacetRule.filterRules) {year : Int}
    (hopen : (gte request).isSome ∨ (lt request).isSome)
    (hside : Fields.get? side (rangeBody target (gte request) (lt request)) =
      some (renderDate (yearStart year))) :
    HasBound (render (.ofRequest request) index) target side year := by
  have hclause : Clause.range target (gte request) (lt request) ∈
      (Plan.searchStage request).filter := by
    refine List.mem_filterMap.mpr ⟨_, hrule, ?_⟩
    exact (Clause.bounded?_eq_some_iff _ _ _ _).mpr ⟨hopen, rfl⟩
  refine ⟨rangeBody target (gte request) (lt request), (yearStart year).millis, ?_,
    (get?_rangeBody _ _ _).1, hside, fun t ↦ millis_startOfYear_le_iff t year⟩
  exact (mem_valuesAt_operator request index _ _ _).mpr
    ⟨_, List.mem_cons_self, _, hclause, rfl⟩

end Request

section Accepted

variable {limits : Limits} {request : Request} (haccepted : request.IsAcceptable limits)
  (index : String)

include haccepted

theorem hasBounds :
    (∀ year ∈ request.publishedStart,
      HasBound (render (.ofRequest request) index) "datePublished" "gte" year.toInt) ∧
    (∀ year ∈ request.publishedEnd,
      HasBound (render (.ofRequest request) index) "datePublished" "lt" (year.toInt + 1)) ∧
    (∀ year ∈ request.dataCoverageStart,
      HasBound (render (.ofRequest request) index) "temporalCoverage.start" "gte" year.toInt) ∧
    (∀ year ∈ request.dataCoverageEnd,
      HasBound (render (.ofRequest request) index) "temporalCoverage.end" "gte"
        (year.toInt + 1)) := by
  refine ⟨fun year hyear ↦ ?_, fun year hyear ↦ ?_, fun year hyear ↦ ?_, fun year hyear ↦ ?_⟩
  · have hgte := FacetRule.fromYear_eq_some hyear (haccepted.publishedStart year hyear)
    refine hasBound_of_rule request index "publishedStart/publishedEnd" _ _
      (fun r ↦ FacetRule.fromYear r.publishedStart) (fun r ↦ FacetRule.throughYear r.publishedEnd)
      (by simp [FacetRule.filterRules, Catalog.datePublished]) (by simp [hgte]) ?_
    simp [get?_rangeBody, hgte]
  · have hlt := FacetRule.throughYear_eq_some hyear (haccepted.publishedEnd year hyear)
    refine hasBound_of_rule request index "publishedStart/publishedEnd" _ _
      (fun r ↦ FacetRule.fromYear r.publishedStart) (fun r ↦ FacetRule.throughYear r.publishedEnd)
      (by simp [FacetRule.filterRules, Catalog.datePublished]) (by simp [hlt]) ?_
    simp [get?_rangeBody, hlt]
  · have hgte := FacetRule.fromYear_eq_some hyear (haccepted.dataCoverageStart year hyear)
    refine hasBound_of_rule request index "dataCoverageStart" _ _
      (fun r ↦ FacetRule.fromYear r.dataCoverageStart) (fun _ ↦ none)
      (by simp [FacetRule.filterRules, Catalog.coverageStart]) (by simp [hgte]) ?_
    simp [get?_rangeBody, hgte]
  · have hgte := FacetRule.throughYear_eq_some hyear (haccepted.dataCoverageEnd year hyear)
    refine hasBound_of_rule request index "dataCoverageEnd" _ _
      (fun r ↦ FacetRule.throughYear r.dataCoverageEnd) (fun _ ↦ none)
      (by simp [FacetRule.filterRules, Catalog.coverageEnd]) (by simp [hgte]) ?_
    simp [get?_rangeBody, hgte]

/-- The count to skip is not cut while pages have at most as many results as a signed word of half
the size can count. -/
theorem skip_le_greatestSkip (hlimit : limits.maxPageSize.toNat ≤ 2 ^ 31) :
    request.skip.toNat ≤ greatestSkip := by
  have hnumber := request.pageNumber.toNat_lt
  have hsize : request.pageSize.toNat ≤ 2 ^ 31 :=
    Nat.le_trans (UInt32.le_iff_toNat_le.mp haccepted.pageSize_le) hlimit
  rw [request.toNat_skip]
  calc (request.pageNumber.toNat - 1) * request.pageSize.toNat
      ≤ (2 ^ 32 - 2) * 2 ^ 31 := Nat.mul_le_mul (by omega) hsize
    _ ≤ greatestSkip := by decide

end Accepted

/-- The pipeline of an accepted request is one that the engine can take. -/
theorem render_isExecutable (limits : Limits) (request : Request)
    (hvalid : request.validate limits = .ok ()) (index : String) :
    IsExecutable limits request (render (.ofRequest request) index) := by
  have haccepted := (Request.validate_eq_ok_iff limits request).mp hvalid
  obtain ⟨hfirst, hlast, hstart, hend⟩ := hasBounds haccepted index
  constructor
  case should => exact valuesAt_should request index
  case groups =>
    rintro ⟨key, clauses⟩ hgroup
    exact nonempty_valuesAt_group request index hgroup
  case filled =>
    intro key value hvalue
    obtain ⟨clauses, -, hne, rfl⟩ := (mem_valuesAt_group request index key value).mp hvalue
    obtain ⟨clause, rest, rfl⟩ := List.exists_cons_of_ne_nil hne
    exact ⟨renderClause clause, rest.map renderClause, rfl⟩
  case ranges =>
    intro key value hvalue
    obtain ⟨clauses, hgroup, clause, hclause, hrender⟩ :=
      (mem_valuesAt_operator request index key "range" value).mp hvalue
    have hproper := Plan.isProper_of_mem_groups haccepted hgroup hclause
    cases clause with
    | text path query => simp [renderClause] at hrender
    | fuzzy path query maxEdits => simp [renderClause] at hrender
    | range path gte lt =>
      have hbody : value = .document (rangeBody path gte lt) := by
        simpa [renderClause, rangeBody] using hrender
      exact ⟨rangeBody path gte lt, hbody, isProperRange_rangeBody hproper⟩
  case publishedStart => exact hfirst
  case publishedEnd => exact hlast
  case dataCoverageStart => exact hstart
  case dataCoverageEnd => exact hend
  case queries =>
    intro place hplace hkey text htext
    obtain ⟨⟨key, clauses⟩, hgroup, clause, hclause, hquery⟩ :=
      exists_clause_of_query hplace hkey htext
    exact not_isBlank_of_query? (Plan.isProper_of_mem_groups haccepted hgroup hclause) hquery
  case limit =>
    have hsize : request.pageSize.toNat ≠ 0 := fun h ↦ haccepted.pageSize (UInt32.toNat_inj.mp h)
    have hlimit := UInt32.le_iff_toNat_le.mp haccepted.pageSize_le
    exact ⟨_, valuesAt_limit request index, by omega, by omega⟩
  case skip =>
    have hnumber : request.pageNumber.toNat ≠ 0 := fun h ↦
      haccepted.pageNumber (UInt32.toNat_inj.mp h)
    have hcut : min request.skip.toNat greatestSkip ≤ 2 ^ 63 - 1 := Nat.min_le_right _ _
    refine ⟨_, valuesAt_skip request index, by omega, by omega, fun hlimit ↦ ?_⟩
    rw [Nat.min_eq_left (skip_le_greatestSkip haccepted hlimit), request.toNat_skip,
      Int.natCast_mul, Int.natCast_sub (by omega)]
    rfl
  case sort => exact valuesAt_sort request index

/-- The last page of the greatest size whose count to skip is not cut. -/
def lastPage : Request where
  term := "soil"
  sortBy := some "query"
  creatorName := some "NOAA"
  publishedStart := some 1972
  publishedEnd := some 1972
  dataCoverageEnd := some 9998
  pageNumber := 4294967295
  pageSize := 2147483648

theorem render_isExecutable_lastPage :
    lastPage.validate ⟨2147483648⟩ = .ok () ∧
      IsExecutable ⟨2147483648⟩ lastPage (render (.ofRequest lastPage) "catalog") ∧
      valuesAt (render (.ofRequest lastPage) "catalog") ["$skip"] =
        {.int64 9223372032559808512} := by
  have hvalid : lastPage.validate ⟨2147483648⟩ = .ok () := rfl
  have hexecutable := render_isExecutable ⟨2147483648⟩ lastPage hvalid "catalog"
  obtain ⟨count, hskip, -, -, hexact⟩ := hexecutable.skip
  refine ⟨hvalid, hexecutable, ?_⟩
  rw [hskip, hexact (by decide)]
  rfl

end DatasetSearch.Pipeline
