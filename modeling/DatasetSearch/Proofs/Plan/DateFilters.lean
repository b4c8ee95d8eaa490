import DatasetSearch.Proofs.Calendar.CivilYear
import DatasetSearch.Proofs.Plan.Facets
import DatasetSearch.Proofs.Request.Acceptance

/-!
# Date filters

An instant meets a range clause if it is not before the lower bound and before the upper one; an
open side bounds nothing. `Plan.Keeps` asks of an instant that it meets every required clause of a
plan on one field, so a field without a clause is not restricted.

`keeps_dates_iff_years` is what the date filters of an accepted request mean in years: publication
from the first year through the last one, coverage that starts in the asked year or later, and
coverage that ends after the asked year. The years of an accepted request all have a start, so no
bound is lost; `millis_startOfYear_le_iff` turns each bound into a comparison of years.
-/

set_option autoImplicit false
set_option relaxedAutoImplicit false

namespace DatasetSearch

open Calendar

/-! ### instants and clauses -/

/-- Only a range says anything about an instant. -/
def Clause.Meets (t : Instant) : Clause → Prop
  | .range _ gte lt =>
    (∀ start ∈ gte, start.millis ≤ t.millis) ∧ ∀ stop ∈ lt, t.millis < stop.millis
  | .text _ _ => False
  | .fuzzy _ _ _ => False

/-- Whether a plan keeps a result that holds the given instant in the given field. -/
def Plan.Keeps (plan : Plan) (path : String) (t : Instant) : Prop :=
  ∀ clause ∈ plan.required, clause.path = path → clause.Meets t

/-- With both sides open there is no clause, and nothing is asked of the instant either. -/
theorem Clause.bounded?_meets_iff (path : String) (gte lt : Option Instant) (t : Instant) :
    (∀ clause, bounded? path gte lt = some clause → clause.Meets t) ↔
      (∀ start ∈ gte, start.millis ≤ t.millis) ∧ ∀ stop ∈ lt, t.millis < stop.millis := by
  cases gte <;> cases lt <;> simp [bounded?, Meets]

/-! ### bounds as years -/

/-- A year that can be filtered by has a start, and so has the year after it. -/
theorem startOfYear_add {y : Int32} (hyear : Request.IsFilterYear y) {offset : Int}
    (hzero : 0 ≤ offset) (hone : offset ≤ 1) :
    startOfYear (y.toInt + offset) = some ⟨millisPerDay * daysBefore (y.toInt + offset)⟩ := by
  unfold Request.IsFilterYear at hyear
  refine if_pos ?_
  unfold leastYear greatestYear
  omega

theorem startOfYear_toInt {y : Int32} (hyear : Request.IsFilterYear y) :
    startOfYear y.toInt = some ⟨millisPerDay * daysBefore y.toInt⟩ := by
  simpa using startOfYear_add hyear (Int.le_refl 0) (by decide)

section Bounds

variable {year : Option Int32} (hyear : ∀ y ∈ year, Request.IsFilterYear y) (t : Instant)

include hyear

theorem fromYear_le_iff :
    (∀ start ∈ FacetRule.fromYear year, start.millis ≤ t.millis) ↔
      ∀ y ∈ year, y.toInt ≤ civilYear t := by
  cases year with
  | none => simp [FacetRule.fromYear]
  | some y =>
    simp [FacetRule.fromYear, startOfYear_toInt (hyear y rfl), millis_startOfYear_le_iff]

theorem throughYear_le_iff :
    (∀ start ∈ FacetRule.throughYear year, start.millis ≤ t.millis) ↔
      ∀ y ∈ year, y.toInt < civilYear t := by
  cases year with
  | none => simp [FacetRule.throughYear]
  | some y =>
    have hstart := startOfYear_add (hyear y rfl) (by decide) (Int.le_refl 1)
    have hbound := millis_startOfYear_le_iff t (y.toInt + 1)
    simp only [FacetRule.throughYear, Option.bind_some, hstart, Option.mem_some_iff, forall_eq']
    omega

theorem lt_throughYear_iff :
    (∀ stop ∈ FacetRule.throughYear year, t.millis < stop.millis) ↔
      ∀ y ∈ year, civilYear t ≤ y.toInt := by
  cases year with
  | none => simp [FacetRule.throughYear]
  | some y =>
    have hstart := startOfYear_add (hyear y rfl) (by decide) (Int.le_refl 1)
    have hbound := millis_startOfYear_le_iff t (y.toInt + 1)
    simp only [FacetRule.throughYear, Option.bind_some, hstart, Option.mem_some_iff, forall_eq']
    omega

end Bounds

/-! ### the filters of a request -/

/-- The rule that puts a range on a field restricts that field to the range. -/
theorem Plan.keeps_target_iff (param target : String) (gte lt : Request → Option Instant)
    (hrule : ⟨param, target, fun request ↦ Clause.bounded? target (gte request) (lt request)⟩ ∈
      FacetRule.all) (request : Request) (t : Instant) :
    (Plan.ofRequest request).Keeps target t ↔
      (∀ start ∈ gte request, start.millis ≤ t.millis) ∧
        ∀ stop ∈ lt request, t.millis < stop.millis := by
  rw [← Clause.bounded?_meets_iff target]
  constructor
  · intro hkeeps clause hclause
    have hrequired := (mem_required_and_path_iff hrule request clause).mpr hclause
    exact hkeeps clause hrequired.1 hrequired.2
  · intro hmeets clause hrequired hpath
    exact hmeets clause ((mem_required_and_path_iff hrule request clause).mp ⟨hrequired, hpath⟩)

/-- The date filters of an accepted request, read as years. -/
theorem keeps_dates_iff_years (limits : Limits) (request : Request)
    (hvalid : request.validate limits = .ok ()) (t : Instant) :
    ((Plan.ofRequest request).Keeps "datePublished" t ↔
        (∀ first ∈ request.publishedStart, first.toInt ≤ civilYear t) ∧
          ∀ last ∈ request.publishedEnd, civilYear t ≤ last.toInt) ∧
      ((Plan.ofRequest request).Keeps "temporalCoverage.start" t ↔
        ∀ first ∈ request.dataCoverageStart, first.toInt ≤ civilYear t) ∧
      ((Plan.ofRequest request).Keeps "temporalCoverage.end" t ↔
        ∀ last ∈ request.dataCoverageEnd, last.toInt < civilYear t) := by
  have haccepted := (Request.validate_eq_ok_iff limits request).mp hvalid
  have hpublished := Plan.keeps_target_iff "publishedStart/publishedEnd" "datePublished"
    (fun r ↦ FacetRule.fromYear r.publishedStart) (fun r ↦ FacetRule.throughYear r.publishedEnd)
    (by simp [FacetRule.all, FacetRule.filterRules, Catalog.datePublished]) request t
  have hstart := Plan.keeps_target_iff "dataCoverageStart" "temporalCoverage.start"
    (fun r ↦ FacetRule.fromYear r.dataCoverageStart) (fun _ ↦ none)
    (by simp [FacetRule.all, FacetRule.filterRules, Catalog.coverageStart]) request t
  have hend := Plan.keeps_target_iff "dataCoverageEnd" "temporalCoverage.end"
    (fun r ↦ FacetRule.throughYear r.dataCoverageEnd) (fun _ ↦ none)
    (by simp [FacetRule.all, FacetRule.filterRules, Catalog.coverageEnd]) request t
  refine ⟨?_, ?_, ?_⟩
  · rw [hpublished, fromYear_le_iff haccepted.publishedStart,
      lt_throughYear_iff haccepted.publishedEnd]
  · rw [hstart, fromYear_le_iff haccepted.dataCoverageStart]
    simp
  · rw [hend, throughYear_le_iff haccepted.dataCoverageEnd]
    simp

/-- Published from 1969 through the leap year 1972, with coverage that ends after 1969. -/
def fourYears : Request where
  term := "soil"
  publishedStart := some 1969
  publishedEnd := some 1972
  dataCoverageEnd := some 1969

/-- The last millisecond of the end year is kept and the next one is not, while coverage may not
end before 1970. -/
theorem keeps_dates_fourYears :
    fourYears.validate {} = .ok () ∧
      (Plan.ofRequest fourYears).Keeps "datePublished" ⟨94694399999⟩ ∧
      ¬ (Plan.ofRequest fourYears).Keeps "datePublished" ⟨94694400000⟩ ∧
      ¬ (Plan.ofRequest fourYears).Keeps "temporalCoverage.end" ⟨-1⟩ := by
  have hvalid : fourYears.validate {} = .ok () := rfl
  have hlast : civilYear ⟨94694399999⟩ = 1972 := by cbv
  have hnext : civilYear ⟨94694400000⟩ = 1973 := by cbv
  have hbefore : civilYear ⟨-1⟩ = 1969 := by cbv
  refine ⟨hvalid, ?_, ?_, ?_⟩
  · rw [(keeps_dates_iff_years {} fourYears hvalid _).1, hlast]
    simp [fourYears]
  · rw [(keeps_dates_iff_years {} fourYears hvalid _).1, hnext]
    simp [fourYears]
  · rw [(keeps_dates_iff_years {} fourYears hvalid _).2.2, hbefore]
    simp [fourYears]

end DatasetSearch
