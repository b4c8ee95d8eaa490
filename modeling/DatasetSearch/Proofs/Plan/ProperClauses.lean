import DatasetSearch.Proofs.Plan.DateFilters
import DatasetSearch.Proofs.Plan.Distinction

/-!
# Proper clauses

A clause is proper if something can match it: its text is not blank, or its range has a bound, and
instants inside if it has two. Those of an accepted request all are (`isProper_of_mem_groups`). Its
term is not blank and a blank facet makes no clause; its spans are in order, and the start of a year
comes before the start of the year after a later one (`fromYear_lt_throughYear`). The rules never
make a range that is open on both sides.
-/

set_option autoImplicit false
set_option relaxedAutoImplicit false

namespace DatasetSearch

open Calendar

/-- The groups of clauses of a search stage, each with its key. -/
def SearchStage.groups (stage : SearchStage) : List (String × List Clause) :=
  [("filter", stage.filter), ("should", stage.should), ("must", stage.must)]

/-! ### clauses of a plan -/

/-- A clause that something can match: a text that is not blank, or a range with a bound, and with
instants inside if it has two. -/
def Clause.IsProper : Clause → Prop
  | .range _ gte lt =>
    (gte.isSome ∨ lt.isSome) ∧ ∀ start ∈ gte, ∀ stop ∈ lt, start.millis < stop.millis
  | .text _ query => Text.isBlank query = false
  | .fuzzy _ query _ => Text.isBlank query = false

namespace FacetRule

theorem isProper_of_textClause? {path : String} {value : Option String} {clause : Clause}
    (hclause : textClause? path value = some clause) : clause.IsProper := by
  obtain ⟨text, -, hblank, rfl⟩ := (textClause?_eq_some_iff _ _ _).mp hclause
  exact hblank

theorem isProper_of_bounded? {path : String} {gte lt : Option Instant} {clause : Clause}
    (hclause : Clause.bounded? path gte lt = some clause)
    (hordered : ∀ start ∈ gte, ∀ stop ∈ lt, start.millis < stop.millis) : clause.IsProper := by
  obtain ⟨hbound, rfl⟩ := (Clause.bounded?_eq_some_iff _ _ _ _).mp hclause
  exact ⟨hbound, hordered⟩

theorem fromYear_eq_some {first : Option Int32} {year : Int32} (hyear : year ∈ first)
    (hfilter : Request.IsFilterYear year) : fromYear first = some (yearStart year.toInt) := by
  rw [Option.mem_def.mp hyear]
  exact startOfYear_toInt hfilter

theorem throughYear_eq_some {last : Option Int32} {year : Int32} (hyear : year ∈ last)
    (hfilter : Request.IsFilterYear year) :
    throughYear last = some (yearStart (year.toInt + 1)) := by
  rw [Option.mem_def.mp hyear]
  exact startOfYear_add hfilter (by decide) (Int.le_refl 1)

/-- The start of a year comes before the start of the year after a later one. -/
theorem fromYear_lt_throughYear {first last : Option Int32}
    (hordered : ∀ f ∈ first, ∀ l ∈ last, f.toInt ≤ l.toInt) :
    ∀ start ∈ fromYear first, ∀ stop ∈ throughYear last, start.millis < stop.millis := by
  intro start hstart stop hstop
  rw [Option.mem_def, fromYear_eq_map] at hstart
  rw [Option.mem_def, throughYear_eq_map] at hstop
  obtain ⟨f, hf, rfl⟩ := Option.map_eq_some_iff.mp hstart
  obtain ⟨l, hl, rfl⟩ := Option.map_eq_some_iff.mp hstop
  have hle : f.toInt ≤ l.toInt :=
    hordered f (Option.eq_some_of_filter_eq_some hf) l (Option.eq_some_of_filter_eq_some hl)
  have hdays : daysBefore f.toInt < daysBefore (l.toInt + 1) :=
    (daysBefore_lt_iff _ _).mpr (by omega)
  exact Int.mul_lt_mul_of_pos_left hdays (by decide)

/-- The clauses that the rules make of an accepted request are proper. -/
theorem isProper_of_clause? {limits : Limits} {request : Request}
    (haccepted : request.IsAcceptable limits) {rule : FacetRule} (hrule : rule ∈ all)
    {clause : Clause} (hclause : rule.clause? request = some clause) : clause.IsProper := by
  simp only [all, mustRules, filterRules, List.cons_append, List.nil_append, List.mem_cons,
    List.not_mem_nil, or_false] at hrule
  rcases hrule with rfl | rfl | rfl | rfl | rfl | rfl
  · exact isProper_of_textClause? hclause
  · exact isProper_of_textClause? hclause
  · exact isProper_of_textClause? hclause
  · exact isProper_of_bounded? hclause (fromYear_lt_throughYear haccepted.published)
  · exact isProper_of_bounded? hclause (by simp)
  · exact isProper_of_bounded? hclause (by simp)

end FacetRule

/-- All clauses of an accepted request's plan are proper, in whichever group they stand. -/
theorem Plan.isProper_of_mem_groups {limits : Limits} {request : Request}
    (haccepted : request.IsAcceptable limits) {key : String} {clauses : List Clause}
    (hgroup : (key, clauses) ∈ (searchStage request).groups) {clause : Clause}
    (hclause : clause ∈ clauses) : clause.IsProper := by
  simp only [SearchStage.groups, List.mem_cons, Prod.mk.injEq, List.not_mem_nil, or_false] at hgroup
  rcases hgroup with ⟨rfl, rfl⟩ | ⟨rfl, rfl⟩ | ⟨rfl, rfl⟩
  · obtain ⟨rule, hrule, hmade⟩ := List.mem_filterMap.mp hclause
    exact FacetRule.isProper_of_clause? haccepted (List.mem_append_right _ hrule) hmade
  · obtain ⟨path, -, rfl⟩ := List.mem_map.mp hclause
    exact haccepted.term
  · obtain ⟨rule, hrule, hmade⟩ := List.mem_filterMap.mp hclause
    exact FacetRule.isProper_of_clause? haccepted (List.mem_append_left _ hrule) hmade

end DatasetSearch
