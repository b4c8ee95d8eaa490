import DatasetSearch.Proofs.Calendar.CivilYear
import DatasetSearch.Proofs.Plan.Facets
import DatasetSearch.Proofs.Request.NormalForm

/-!
# Requests of one plan

Two requests have the same plan exactly if they have the same normal form (`ofRequest_eq_iff`), so
a plan neither loses a field of its request nor takes one for another.

Each kind of clause is an injective function of what the normal form keeps of its fields: a text
clause of the facet (`textClause?_eq_map`), and a bound of its year, because the starts of years
follow each other strictly (`fromYear_eq_map`, `throughYear_eq_map`). A clause can be told from the
others of its plan by the field it looks into, so equal plans have the same clause for each rule
(`clauses_eq_of_ofRequest_eq`).
-/

set_option autoImplicit false
set_option relaxedAutoImplicit false

namespace DatasetSearch

open Calendar Request

/-! ### starts of years -/

namespace Calendar

def yearStart (year : Int) : Instant :=
  ⟨millisPerDay * daysBefore year⟩

theorem yearStart_injective : Function.Injective yearStart := by
  intro year other hstart
  have hmillis : millisPerDay * daysBefore year = millisPerDay * daysBefore other :=
    congrArg Instant.millis hstart
  have hdays : daysBefore year = daysBefore other :=
    Int.eq_of_mul_eq_mul_left (by decide) hmillis
  have hbefore := daysBefore_lt_iff year other
  have hafter := daysBefore_lt_iff other year
  omega

theorem startOfYear_eq (year : Int) :
    startOfYear year = if IsDateYear year then some (yearStart year) else none := rfl

end Calendar

/-! ### clauses as functions of the normal form -/

theorem Clause.bounded?_eq_iff (path : String) (gte lt otherGte otherLt : Option Instant) :
    bounded? path gte lt = bounded? path otherGte otherLt ↔ gte = otherGte ∧ lt = otherLt := by
  cases gte <;> cases lt <;> cases otherGte <;> cases otherLt <;> simp [bounded?]

namespace FacetRule

theorem textClause?_eq_map (path : String) (value : Option String) :
    textClause? path value = (facet? value).map (Clause.text path) := by
  cases value with
  | none => rfl
  | some text => cases hblank : Text.isBlank text <;> simp [textClause?, facet?, hblank]

theorem textClause?_eq_iff (path : String) (value other : Option String) :
    textClause? path value = textClause? path other ↔ facet? value = facet? other := by
  rw [textClause?_eq_map, textClause?_eq_map]
  refine (Option.map_injective fun text otherText htext ↦ ?_).eq_iff
  exact (Clause.text.inj htext).2

theorem fromYear_eq_map (year : Option Int32) :
    fromYear year = (startYear? year).map fun year ↦ yearStart year.toInt := by
  cases year with
  | none => rfl
  | some year =>
    by_cases hdate : IsDateYear year.toInt <;>
      simp [fromYear, startYear?, startOfYear_eq, hdate]

theorem throughYear_eq_map (year : Option Int32) :
    throughYear year = (endYear? year).map fun year ↦ yearStart (year.toInt + 1) := by
  cases year with
  | none => rfl
  | some year =>
    by_cases hdate : IsDateYear (year.toInt + 1)
    · have hword : year.toInt + 1 < 2147483648 := lt_of_le_of_lt hdate.2 (by decide)
      simp [throughYear, endYear?, startOfYear_eq, hdate, hword]
    · simp [throughYear, endYear?, startOfYear_eq, hdate]

theorem fromYear_eq_iff (year other : Option Int32) :
    fromYear year = fromYear other ↔ startYear? year = startYear? other := by
  rw [fromYear_eq_map, fromYear_eq_map]
  refine (Option.map_injective fun first second hstart ↦ ?_).eq_iff
  exact Int32.toInt_inj.mp (yearStart_injective hstart)

theorem throughYear_eq_iff (year other : Option Int32) :
    throughYear year = throughYear other ↔ endYear? year = endYear? other := by
  rw [throughYear_eq_map, throughYear_eq_map]
  refine (Option.map_injective fun first second hstart ↦ ?_).eq_iff
  exact Int32.toInt_inj.mp ((Int.add_left_inj 1).mp (yearStart_injective hstart))

/-- The facets and years of two requests have the same normal form exactly if each rule makes the
same clause of both. -/
theorem clauses_eq_iff (a b : Request) :
    (∀ rule ∈ all, rule.clause? a = rule.clause? b) ↔
      (facet? a.creatorName = facet? b.creatorName ∧
        facet? a.providerName = facet? b.providerName ∧
        facet? a.contentType = facet? b.contentType) ∧
      (startYear? a.publishedStart = startYear? b.publishedStart ∧
        endYear? a.publishedEnd = endYear? b.publishedEnd) ∧
      startYear? a.dataCoverageStart = startYear? b.dataCoverageStart ∧
      endYear? a.dataCoverageEnd = endYear? b.dataCoverageEnd := by
  simp only [all, mustRules, filterRules, List.cons_append, List.nil_append, List.forall_mem_cons,
    List.not_mem_nil, false_imp_iff, implies_true, and_true, textClause?_eq_iff,
    Clause.bounded?_eq_iff, fromYear_eq_iff, throughYear_eq_iff, and_assoc]

end FacetRule

/-! ### plans -/

namespace Plan

theorem clauses_eq_of_ofRequest_eq {a b : Request} (hplan : ofRequest a = ofRequest b)
    {rule : FacetRule} (hrule : rule ∈ FacetRule.all) : rule.clause? a = rule.clause? b := by
  refine Option.ext fun clause ↦ ?_
  rw [← mem_required_and_path_iff hrule, ← mem_required_and_path_iff hrule, hplan]

theorem stages_eq_iff (a b : Request) :
    ofRequest a = ofRequest b ↔
      searchStage a = searchStage b ∧ a.sortBy = b.sortBy ∧ a.skip = b.skip ∧
        a.pageSize = b.pageSize := by
  cases ha : a.sortBy <;> cases hb : b.sortBy <;> simp [ofRequest, ha, hb]

theorem searchStage_eq {a b : Request} (hterm : a.term = b.term)
    (hclauses : ∀ rule ∈ FacetRule.all, rule.clause? a = rule.clause? b) :
    searchStage a = searchStage b := by
  have hmust : FacetRule.mustRules.filterMap (·.clause? a) =
      FacetRule.mustRules.filterMap (·.clause? b) :=
    List.filterMap_congr fun rule hrule ↦ hclauses rule (List.mem_append_left _ hrule)
  have hfilter : FacetRule.filterRules.filterMap (·.clause? a) =
      FacetRule.filterRules.filterMap (·.clause? b) :=
    List.filterMap_congr fun rule hrule ↦ hclauses rule (List.mem_append_right _ hrule)
  rw [searchStage, searchStage, hterm, hmust, hfilter]

theorem term_eq_of_searchStage_eq {a b : Request} (hstage : searchStage a = searchStage b) :
    a.term = b.term := by
  have hshould := congrArg SearchStage.should hstage
  simp only [searchStage, Catalog.searchable, List.map_cons, List.cons.injEq,
    Clause.fuzzy.injEq] at hshould
  exact hshould.1.2.1

/-- Requests have the same plan exactly if they have the same normal form. -/
theorem ofRequest_eq_iff (a b : Request) :
    ofRequest a = ofRequest b ↔ a.normalForm = b.normalForm := by
  rw [normalForm_eq_iff]
  constructor
  · intro hplan
    obtain ⟨hstage, hsort, hskip, hsize⟩ := (stages_eq_iff a b).mp hplan
    have hterm := term_eq_of_searchStage_eq hstage
    have hpage := (skip_eq_iff hsize).mp hskip
    obtain ⟨⟨hcreator, hprovider, htype⟩, ⟨hfirst, hlast⟩, hstart, hend⟩ :=
      (FacetRule.clauses_eq_iff a b).mp fun _ ↦ clauses_eq_of_ofRequest_eq hplan
    exact ⟨hterm, hsort, htype, hprovider, hcreator, hstart, hend, hfirst, hlast, hpage, hsize⟩
  · rintro ⟨hterm, hsort, htype, hprovider, hcreator, hstart, hend, hfirst, hlast, hpage, hsize⟩
    have hclauses := (FacetRule.clauses_eq_iff a b).mpr
      ⟨⟨hcreator, hprovider, htype⟩, ⟨hfirst, hlast⟩, hstart, hend⟩
    have hstage := searchStage_eq hterm hclauses
    exact (stages_eq_iff a b).mpr ⟨hstage, hsort, (skip_eq_iff hsize).mpr hpage, hsize⟩

example :
    ofRequest { term := "soil", creatorName := some " ", publishedEnd := some 2147483647 } =
      ofRequest { term := "soil", pageNumber := 0 } := by decide

end Plan

end DatasetSearch
