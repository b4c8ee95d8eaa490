import DatasetSearch.Proofs.Plan.Distinction
import DatasetSearch.Proofs.Request.QueryText

/-!
# What a plan holds

A plan is a search, a sort if a field to sort by is given, and the page. `ofRequest_content` says
this of every request, accepted or not, and says what the search looks for: the term in each
searchable field, and for each rule of the tables at most one clause, in the order of the tables.

The columns of a row of the tables are written side by side: the parameters it names, its target
and its clause. They belong together (`isCoherent_of_mem`). The clause of a mandatory rule is the
text of the one parameter it names (`clause?_mustRule`), and that of a date rule is a range with the
bounds of the years it names (`clause?_filterRule`). `Request.bound?` says what these are as far as
dates reach: the first day of a first year, and the first day after a last one.
-/

set_option autoImplicit false
set_option relaxedAutoImplicit false

namespace DatasetSearch

open Calendar

/-! ### bounds of years -/

/-- The bound that a year parameter puts on instants. -/
def Request.bound? (request : Request) : Parameter → Option Instant
  | .publishedStart => (startYear? request.publishedStart).map fun y ↦ yearStart y.toInt
  | .publishedEnd => (endYear? request.publishedEnd).map fun y ↦ yearStart (y.toInt + 1)
  | .dataCoverageStart => (startYear? request.dataCoverageStart).map fun y ↦ yearStart y.toInt
  | .dataCoverageEnd => (endYear? request.dataCoverageEnd).map fun y ↦ yearStart (y.toInt + 1)
  | _ => none

theorem Request.number_toInt_injective :
    Function.Injective fun year : Int32 ↦ Parameter.Value.number year.toInt := by
  intro year other hvalue
  exact Int32.toInt_inj.mp (Parameter.Value.number.inj hvalue)

/-- The bound of a parameter depends on nothing but its value. -/
theorem Request.bound?_congr {a b : Request} {parameter : Parameter}
    (hvalue : a.value? parameter = b.value? parameter) :
    a.bound? parameter = b.bound? parameter := by
  cases parameter
  case publishedStart | publishedEnd | dataCoverageStart | dataCoverageEnd =>
    have hyear := Option.map_injective number_toInt_injective hvalue
    simp only [bound?, hyear]
  all_goals rfl

/-! ### clauses of one rule -/

namespace FacetRule

/-- The parameters that a rule names, one after the other with slashes between them. -/
def params (rule : FacetRule) : List Parameter :=
  (rule.param.toList.splitOn '/').filterMap fun name ↦ Parameter.ofName? (String.ofList name)

/-- What a rule for a text makes: the text of its parameter, unchanged and unless it is blank. -/
def MakesText (rule : FacetRule) (parameter : Parameter) : Prop :=
  ∀ request clause, rule.clause? request = some clause ↔
    ∃ text, request.value? parameter = some (.text text) ∧ Text.isBlank text = false ∧
      clause = .text rule.target text

/-- What a rule for dates makes: a range with the bounds of its parameters, unless there are
none. -/
def MakesRange (rule : FacetRule) (lower upper : Option Parameter) : Prop :=
  ∀ request clause, rule.clause? request = some clause ↔
    (∃ parameter ∈ lower.toList ++ upper.toList, (request.bound? parameter).isSome) ∧
      clause = .range rule.target (lower.bind request.bound?) (upper.bind request.bound?)

theorem clause?_mustRule {rule : FacetRule} (hrule : rule ∈ mustRules) :
    ∃ parameter, rule.params = [parameter] ∧ rule.MakesText parameter := by
  simp only [mustRules, List.mem_cons, List.not_mem_nil, or_false] at hrule
  rcases hrule with rfl | rfl | rfl
  · refine ⟨.creatorName, by decide, fun request clause ↦ ?_⟩
    simp [textClause?_eq_some_iff, Request.value?]
  · refine ⟨.providerName, by decide, fun request clause ↦ ?_⟩
    simp [textClause?_eq_some_iff, Request.value?]
  · refine ⟨.contentType, by decide, fun request clause ↦ ?_⟩
    simp [textClause?_eq_some_iff, Request.value?]

theorem clause?_filterRule {rule : FacetRule} (hrule : rule ∈ filterRules) :
    ∃ lower upper, rule.params = lower.toList ++ upper.toList ∧ rule.MakesRange lower upper := by
  simp only [filterRules, List.mem_cons, List.not_mem_nil, or_false] at hrule
  rcases hrule with rfl | rfl | rfl
  · refine ⟨some .publishedStart, some .publishedEnd, by decide, fun request clause ↦ ?_⟩
    simp [Clause.bounded?_eq_some_iff, fromYear_eq_map, throughYear_eq_map, Request.bound?]
  · refine ⟨some .dataCoverageStart, none, by decide, fun request clause ↦ ?_⟩
    simp [Clause.bounded?_eq_some_iff, fromYear_eq_map, Request.bound?]
  · refine ⟨some .dataCoverageEnd, none, by decide, fun request clause ↦ ?_⟩
    simp [Clause.bounded?_eq_some_iff, throughYear_eq_map, Request.bound?]

/-- A rule with columns that belong together: it names parameters and nothing else, reads no others,
and looks into its target. -/
structure IsCoherent (rule : FacetRule) : Prop where
  param : rule.param = "/".intercalate (rule.params.map Parameter.name)
  reads : ∀ a b : Request, (∀ parameter ∈ rule.params, a.value? parameter = b.value? parameter) →
    rule.clause? a = rule.clause? b
  path : ∀ request clause, rule.clause? request = some clause → clause.path = rule.target

theorem intercalate_params : ∀ row ∈ all.map fun rule ↦ (rule.param, rule.params),
    row.1 = "/".intercalate (row.2.map Parameter.name) := by
  decide

theorem isCoherent_of_mem {rule : FacetRule} (hrule : rule ∈ all) : rule.IsCoherent := by
  refine ⟨intercalate_params _ (List.mem_map_of_mem hrule), fun a b hagree ↦ ?_,
    fun request clause ↦ path_of_clause? hrule⟩
  refine Option.ext fun clause ↦ ?_
  rcases List.mem_append.mp hrule with hmust | hfilter
  · obtain ⟨parameter, hparams, hmakes⟩ := clause?_mustRule hmust
    rw [hmakes, hmakes, hagree parameter (by simp [hparams])]
  · obtain ⟨lower, upper, hparams, hmakes⟩ := clause?_filterRule hfilter
    have hbounds : ∀ parameter ∈ lower.toList ++ upper.toList,
        a.bound? parameter = b.bound? parameter := fun parameter hmem ↦
      Request.bound?_congr (hagree parameter (hparams ▸ hmem))
    have hlower : lower.bind a.bound? = lower.bind b.bound? :=
      Option.bind_congr fun parameter hmem ↦ hbounds parameter (by simp [hmem])
    have hupper : upper.bind a.bound? = upper.bind b.bound? :=
      Option.bind_congr fun parameter hmem ↦ hbounds parameter (by simp [hmem])
    have hsome : (∃ parameter ∈ lower.toList ++ upper.toList, (a.bound? parameter).isSome) ↔
        ∃ parameter ∈ lower.toList ++ upper.toList, (b.bound? parameter).isSome :=
      exists_congr fun parameter ↦ and_congr_right fun hmem ↦ by rw [hbounds parameter hmem]
    rw [hmakes, hmakes, hlower, hupper, hsome]

/-! ### clauses of a table -/

/-- The clauses of a table look into targets of the table, in its order, each target at most as
often as it stands there. -/
theorem path_sublist_targets {rules : List FacetRule} (hrules : rules ⊆ all) (request : Request) :
    ((rules.filterMap (·.clause? request)).map Clause.path).Sublist (rules.map target) := by
  induction rules with
  | nil => simp
  | cons rule rules ih =>
    obtain ⟨hrule, hrest⟩ := List.cons_subset.mp hrules
    cases hclause : rule.clause? request with
    | none =>
      rw [List.filterMap_cons, hclause, List.map_cons]
      exact (ih hrest).cons _
    | some clause =>
      rw [List.filterMap_cons, hclause]
      dsimp only
      rw [List.map_cons, List.map_cons, path_of_clause? hrule hclause]
      exact (ih hrest).cons_cons _

end FacetRule

/-! ### plans -/

/-- The search of a request. -/
structure SearchStage.IsFor (request : Request) (stage : SearchStage) : Prop where
  should : stage.should =
    ["name", "description", "keywords"].map fun field ↦ .fuzzy field request.term 1
  must : stage.must = FacetRule.mustRules.filterMap (·.clause? request)
  filter : stage.filter = FacetRule.filterRules.filterMap (·.clause? request)
  must_path : (stage.must.map Clause.path).Sublist (FacetRule.mustRules.map FacetRule.target)
  filter_path : (stage.filter.map Clause.path).Sublist (FacetRule.filterRules.map FacetRule.target)
  text_of_must : ∀ clause ∈ stage.must, ∃ path text,
    clause = .text path text ∧ Text.isBlank text = false
  range_of_filter : ∀ clause ∈ stage.filter, ∃ path gte lt,
    clause = .range path gte lt ∧ (gte.isSome ∨ lt.isSome)
  highlightPaths : stage.highlightPaths = ["name", "description", "keywords", "creator.@list.name"]

namespace Plan

theorem isFor_searchStage (request : Request) : (searchStage request).IsFor request where
  should := rfl
  must := rfl
  filter := rfl
  must_path := FacetRule.path_sublist_targets (List.subset_append_left _ _) request
  filter_path := FacetRule.path_sublist_targets (List.subset_append_right _ _) request
  text_of_must := by
    intro clause hclause
    obtain ⟨rule, hrule, hmade⟩ := List.mem_filterMap.mp hclause
    obtain ⟨parameter, -, hmakes⟩ := FacetRule.clause?_mustRule hrule
    obtain ⟨text, -, hblank, rfl⟩ := (hmakes request clause).mp hmade
    exact ⟨rule.target, text, rfl, hblank⟩
  range_of_filter := by
    intro clause hclause
    obtain ⟨rule, hrule, hmade⟩ := List.mem_filterMap.mp hclause
    obtain ⟨lower, upper, -, hmakes⟩ := FacetRule.clause?_filterRule hrule
    obtain ⟨⟨parameter, hmem, hbound⟩, rfl⟩ := (hmakes request clause).mp hmade
    refine ⟨rule.target, _, _, rfl, ?_⟩
    rcases List.mem_append.mp hmem with hlower | hupper
    · left
      rw [Option.mem_toList.mp hlower]
      exact hbound
    · right
      rw [Option.mem_toList.mp hupper]
      exact hbound
  highlightPaths := rfl

/-- The stages of every plan, and the clauses of its search rule by rule. -/
theorem ofRequest_content (request : Request) :
    (∃ stage : SearchStage, stage.IsFor request ∧
      (ofRequest request).stages =
        .search stage ::
          (match request.sortBy with
            | none => []
            | some field => [.sort field true]) ++
          [.skip request.skip, .limit request.pageSize, .annotate "score" "highlights"]) ∧
      (∀ rule ∈ FacetRule.mustRules ++ FacetRule.filterRules, rule.IsCoherent) ∧
      (∀ rule ∈ FacetRule.mustRules, ∃ parameter,
        rule.params = [parameter] ∧ rule.MakesText parameter) ∧
      ∀ rule ∈ FacetRule.filterRules, ∃ lower upper,
        rule.params = lower.toList ++ upper.toList ∧ rule.MakesRange lower upper := by
  refine ⟨⟨searchStage request, isFor_searchStage request, ?_⟩,
    fun rule ↦ FacetRule.isCoherent_of_mem, fun rule ↦ FacetRule.clause?_mustRule,
    fun rule ↦ FacetRule.clause?_filterRule⟩
  cases hsort : request.sortBy <;> simp [ofRequest, hsort, Catalog.score, Catalog.highlights]

/-- A request that no check would let pass: its term and one facet are blank, its page is the
zeroth, and its years lie at the ends of what a word can hold and of what a date can be. -/
def unchecked : Request where
  term := " "
  sortBy := some "$where"
  creatorName := some "\u3000"
  providerName := some " NOAA"
  publishedStart := some (-262144)
  publishedEnd := some 2147483647
  dataCoverageEnd := some (-262144)
  pageNumber := 0

/-- The year before the first date ends where dates begin, so it bounds coverage, and nothing else
is left of the years. The rule that makes this range reads no year of publication. -/
theorem ofRequest_content_unchecked :
    (∃ stage : SearchStage,
      (ofRequest unchecked).stages =
        [.search stage, .sort "$where" true, .skip 0, .limit 30, .annotate "score" "highlights"] ∧
      stage.must = [.text "provider.name" " NOAA"] ∧
      stage.filter =
        [.range "temporalCoverage.end" (some (yearStart (-262143))) none]) ∧
      ∃ rule ∈ FacetRule.filterRules, rule.target = "temporalCoverage.end" ∧
        rule.clause? { unchecked with publishedEnd := none } = rule.clause? unchecked := by
  obtain ⟨⟨stage, hstage, hstages⟩, hcoherent, -, hranges⟩ := ofRequest_content unchecked
  refine ⟨⟨stage, hstages, ?_, ?_⟩, ?_⟩
  · rw [hstage.must]
    decide
  · rw [hstage.filter]
    decide
  · have hrule : FacetRule.filterRules[2] ∈ FacetRule.filterRules := List.getElem_mem _
    refine ⟨_, hrule, rfl, (hcoherent _ (List.mem_append_right _ hrule)).reads _ _ ?_⟩
    decide

end Plan

end DatasetSearch
