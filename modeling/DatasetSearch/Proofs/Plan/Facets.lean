import DatasetSearch.Plan.Compile
import Mathlib.Data.List.Nodup

/-!
# The clauses of a plan

A result of a plan has to match the clauses in the groups `must` and `filter`; those in `should`
only rank it. `mem_required_ofRequest` traces each required clause of a compiled plan to the rule
that made it, and `path_of_clause?` says that a rule looks into its declared target and nowhere
else. The targets differ, so what a plan requires of one of them is the clause of one rule
(`mem_required_and_path_iff`).
-/

set_option autoImplicit false
set_option relaxedAutoImplicit false

namespace DatasetSearch

/-! ### required clauses -/

/-- The clauses of a stage that every result has to match. -/
def Stage.required : Stage → List Clause
  | .search stage => stage.must ++ stage.filter
  | .sort _ _ => []
  | .skip _ => []
  | .limit _ => []
  | .annotate _ _ => []

def Plan.required (plan : Plan) : List Clause :=
  plan.stages.flatMap Stage.required

def FacetRule.all : List FacetRule :=
  mustRules ++ filterRules

theorem Plan.required_ofRequest (request : Request) :
    (Plan.ofRequest request).required = FacetRule.all.filterMap (·.clause? request) := by
  have hsort : (request.sortBy.map (Stage.sort · true)).toList.flatMap Stage.required = [] := by
    cases request.sortBy <;> rfl
  simp only [required, ofRequest, List.cons_append, List.flatMap_cons, List.flatMap_append, hsort,
    List.nil_append, List.flatMap_nil, List.append_nil]
  simp [Stage.required, searchStage, FacetRule.all]

theorem Plan.mem_required_ofRequest (request : Request) (clause : Clause) :
    clause ∈ (Plan.ofRequest request).required ↔
      ∃ rule ∈ FacetRule.all, rule.clause? request = some clause := by
  rw [required_ofRequest, List.mem_filterMap]

/-! ### clauses of rules -/

theorem Clause.bounded?_eq_some_iff (path : String) (gte lt : Option Instant) (clause : Clause) :
    bounded? path gte lt = some clause ↔
      (gte.isSome ∨ lt.isSome) ∧ clause = .range path gte lt := by
  cases gte <;> cases lt <;> simp [bounded?, eq_comm]

namespace FacetRule

theorem textClause?_eq_some_iff (path : String) (value : Option String) (clause : Clause) :
    textClause? path value = some clause ↔
      ∃ text, value = some text ∧ Text.isBlank text = false ∧ clause = .text path text := by
  rw [textClause?, Option.bind_eq_some_iff]
  refine exists_congr fun text ↦ and_congr_right fun _ ↦ ?_
  cases Text.isBlank text with
  | true => simp
  | false => simp [@eq_comm _ clause]

theorem path_of_textClause? {path : String} {value : Option String} {clause : Clause}
    (hclause : textClause? path value = some clause) : clause.path = path := by
  obtain ⟨text, -, -, rfl⟩ := (textClause?_eq_some_iff _ _ _).mp hclause
  rfl

theorem path_of_bounded? {path : String} {gte lt : Option Instant} {clause : Clause}
    (hclause : Clause.bounded? path gte lt = some clause) : clause.path = path := by
  rw [((Clause.bounded?_eq_some_iff _ _ _ _).mp hclause).2]
  rfl

/-- The clause of a rule of the tables looks into the rule's target. -/
theorem path_of_clause? {rule : FacetRule} (hrule : rule ∈ all) {request : Request}
    {clause : Clause} (hclause : rule.clause? request = some clause) :
    clause.path = rule.target := by
  simp only [all, mustRules, filterRules, List.cons_append, List.nil_append, List.mem_cons,
    List.not_mem_nil, or_false] at hrule
  rcases hrule with rfl | rfl | rfl | rfl | rfl | rfl
  · exact path_of_textClause? hclause
  · exact path_of_textClause? hclause
  · exact path_of_textClause? hclause
  · exact path_of_bounded? hclause
  · exact path_of_bounded? hclause
  · exact path_of_bounded? hclause

/-- No two rules look into one field. -/
theorem nodup_targets : (all.map target).Nodup := by
  decide

theorem eq_of_target_eq {rule other : FacetRule} (hrule : rule ∈ all) (hother : other ∈ all)
    (htarget : rule.target = other.target) : rule = other :=
  List.inj_on_of_nodup_map nodup_targets hrule hother htarget

end FacetRule

/-- What a plan requires of a rule's target is the rule's clause. -/
theorem Plan.mem_required_and_path_iff {rule : FacetRule} (hrule : rule ∈ FacetRule.all)
    (request : Request) (clause : Clause) :
    clause ∈ (Plan.ofRequest request).required ∧ clause.path = rule.target ↔
      rule.clause? request = some clause := by
  rw [mem_required_ofRequest]
  constructor
  · rintro ⟨⟨other, hother, hclause⟩, hpath⟩
    have htarget : other.target = rule.target :=
      (FacetRule.path_of_clause? hother hclause).symm.trans hpath
    rwa [FacetRule.eq_of_target_eq hother hrule htarget] at hclause
  · intro hclause
    exact ⟨⟨rule, hrule, hclause⟩, FacetRule.path_of_clause? hrule hclause⟩

end DatasetSearch
