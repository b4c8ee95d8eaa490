import DatasetSearch.Pipeline.Render
import Mathlib.Data.Option.Basic

/-!
# Plans of one pipeline

Two plans render to the same pipeline exactly if they are the same up to counts to skip that are
too great for a signed word (`render_eq_iff`). So nothing of a plan is dropped, merged or moved:
neither a clause, nor the group it stands in, nor a bound of a range, although groups without
clauses and open sides of ranges leave no key behind.

A key that may be left out does no harm as long as it does not occur further on. Then an equation
between documents says that both have the key with one value or both lack it
(`optional_append_eq_iff`). The equations for clauses, stages and plans are put together from that,
constructor by constructor. The only stage that a document can hide a part of is an annotation that
puts both its values under one name.
-/

set_option autoImplicit false
set_option relaxedAutoImplicit false

namespace DatasetSearch

/-- A count to skip above the greatest one of a pipeline becomes the greatest one. -/
def Stage.cut : Stage → Stage
  | .skip count => .skip (if 9223372036854775807 < count then 9223372036854775807 else count)
  | stage => stage

def Plan.cut (plan : Plan) : Plan where
  stages := plan.stages.map Stage.cut

/-- An annotation has two different names for its two values. -/
def Stage.NamesApart : Stage → Prop
  | .annotate scoreField highlightField => scoreField ≠ highlightField
  | _ => True

def Plan.NamesApart (plan : Plan) : Prop :=
  ∀ stage ∈ plan.stages, stage.NamesApart

namespace Pipeline

/-! ### keys that may be left out -/

theorem eq_of_mem_keys_optional {key name : String} {value : Option Bson}
    (hname : name ∈ Fields.keys (optional key value)) : name = key := by
  cases value with
  | none => simp [optional, Fields.keys] at hname
  | some value => simpa [optional, Fields.keys] using hname

theorem not_mem_keys_optional {key name : String} (hne : name ≠ key) (value : Option Bson) :
    name ∉ Fields.keys (optional key value) :=
  fun hname ↦ hne (eq_of_mem_keys_optional hname)

theorem not_mem_keys_append {name : String} {first second : Document}
    (hfirst : name ∉ Fields.keys first) (hsecond : name ∉ Fields.keys second) :
    name ∉ Fields.keys (first ++ second) := by
  rw [Fields.keys, List.map_append, List.mem_append]
  exact not_or.mpr ⟨hfirst, hsecond⟩

theorem optional_append_eq_iff {key : String} {value other : Option Bson} {rest tail : Document}
    (hrest : key ∉ Fields.keys rest) (htail : key ∉ Fields.keys tail) :
    optional key value ++ rest = optional key other ++ tail ↔ value = other ∧ rest = tail := by
  -- With the key on one side only, it would begin the rest of the other side.
  cases value with
  | none =>
    cases other with
    | none => simp [optional]
    | some other =>
      have hne : rest ≠ (key, other) :: tail := fun h ↦ hrest (by simp [h, Fields.keys])
      simp [optional, hne]
  | some value =>
    cases other with
    | none =>
      have hne : (key, value) :: rest ≠ tail := fun h ↦ htail (by simp [← h, Fields.keys])
      simp [optional, hne]
    | some other => simp [optional]

theorem optional_eq_iff {key : String} {value other : Option Bson} :
    optional key value = optional key other ↔ value = other := by
  cases value <;> cases other <;> simp [optional]

/-! ### clauses -/

theorem renderDate_injective : Function.Injective renderDate := by
  intro t u hdate
  exact congrArg Instant.mk (Bson.date.inj hdate)

theorem rangeBody_eq_iff (path otherPath : String) (gte lt otherGte otherLt : Option Instant) :
    ((("path", .string path) :: optional "gte" (gte.map renderDate) ++
        optional "lt" (lt.map renderDate) : Document) =
      ("path", .string otherPath) :: optional "gte" (otherGte.map renderDate) ++
        optional "lt" (otherLt.map renderDate)) ↔
      path = otherPath ∧ gte = otherGte ∧ lt = otherLt := by
  have hdates (t u : Option Instant) : t.map renderDate = u.map renderDate ↔ t = u :=
    (Option.map_injective renderDate_injective).eq_iff
  rw [List.cons_append, List.cons_append, List.cons.injEq,
    optional_append_eq_iff (not_mem_keys_optional (by decide) _)
      (not_mem_keys_optional (by decide) _),
    optional_eq_iff, hdates, hdates]
  simp

theorem renderClause_injective : Function.Injective renderClause := by
  intro clause other hclause
  cases clause with
  | text path query => cases other <;> simp_all [renderClause]
  | range path gte lt =>
    cases other with
    | text otherPath query => simp [renderClause] at hclause
    | fuzzy otherPath query maxEdits => simp [renderClause] at hclause
    | range otherPath otherGte otherLt =>
      simp only [renderClause, Bson.document.injEq, List.cons.injEq, Prod.mk.injEq, true_and,
        and_true] at hclause
      obtain ⟨rfl, rfl, rfl⟩ := (rangeBody_eq_iff _ _ _ _ _ _).mp hclause
      rfl
  | fuzzy path query maxEdits =>
    cases other with
    | text otherPath otherQuery => simp [renderClause] at hclause
    | range otherPath gte lt => simp [renderClause] at hclause
    | fuzzy otherPath otherQuery otherEdits =>
      simp only [renderClause, Bson.document.injEq, List.cons.injEq, Prod.mk.injEq,
        Bson.string.injEq, Bson.int32.injEq, Int.natCast_inj, UInt8.toNat_inj, true_and,
        and_true] at hclause
      obtain ⟨rfl, rfl, rfl⟩ := hclause
      rfl

/-! ### stages -/

/-- What a group leaves in the document: nothing if it has no clauses. -/
def groupValue (clauses : List Clause) : Option Bson :=
  if clauses.isEmpty then none else some (.array (clauses.map renderClause))

theorem renderGroup_eq_optional (key : String) (clauses : List Clause) :
    renderGroup key clauses = optional key (groupValue clauses) := by
  cases clauses <;> rfl

theorem groupValue_injective : Function.Injective groupValue := by
  intro clauses others hvalue
  cases clauses with
  | nil => cases others <;> simp_all [groupValue]
  | cons clause rest =>
    cases others with
    | nil => simp [groupValue] at hvalue
    | cons other tail =>
      simp only [groupValue, List.isEmpty_cons, Bool.false_eq_true, if_false, Option.some.injEq,
        Bson.array.injEq] at hvalue
      exact (List.map_inj_right renderClause_injective).mp hvalue

theorem compound_eq_iff (stage other : SearchStage) :
    renderGroup "filter" stage.filter ++ renderGroup "should" stage.should ++
        renderGroup "must" stage.must =
      renderGroup "filter" other.filter ++ renderGroup "should" other.should ++
        renderGroup "must" other.must ↔
    stage.filter = other.filter ∧ stage.should = other.should ∧ stage.must = other.must := by
  simp only [renderGroup_eq_optional, List.append_assoc]
  have hfilter (should must : Option Bson) :
      "filter" ∉ Fields.keys (optional "should" should ++ optional "must" must) :=
    not_mem_keys_append (not_mem_keys_optional (by decide) _)
      (not_mem_keys_optional (by decide) _)
  rw [optional_append_eq_iff (hfilter _ _) (hfilter _ _),
    optional_append_eq_iff (not_mem_keys_optional (by decide) _)
      (not_mem_keys_optional (by decide) _),
    optional_eq_iff, groupValue_injective.eq_iff, groupValue_injective.eq_iff,
    groupValue_injective.eq_iff]

theorem renderSearch_injective (index : String) : Function.Injective (renderSearch index) := by
  intro stage other hstage
  simp only [renderSearch, List.cons.injEq, Prod.mk.injEq, Bson.document.injEq, Bson.array.injEq,
    compound_eq_iff, true_and, and_true] at hstage
  obtain ⟨⟨hfilter, hshould, hmust⟩, hpaths⟩ := hstage
  have hhighlight := (List.map_inj_right fun _ _ ↦ Bson.string.inj).mp hpaths
  cases stage
  cases other
  simp_all

theorem renderSkip_eq_iff (count other : UInt64) :
    min count.toNat greatestSkip = min other.toNat greatestSkip ↔
      Stage.cut (.skip count) = Stage.cut (.skip other) := by
  have hcut (c : UInt64) :
      (if 9223372036854775807 < c then 9223372036854775807 else c : UInt64).toNat =
        min c.toNat greatestSkip := by
    split
    · next hlt => exact (Nat.min_eq_right (Nat.le_of_lt (UInt64.lt_iff_toNat_lt.mp hlt))).symm
    · next hle => exact (Nat.min_eq_left (UInt64.not_lt.mp hle)).symm
  rw [← hcut, ← hcut, UInt64.toNat_inj, Stage.cut, Stage.cut, Stage.skip.injEq]

theorem renderStage_annotate {scoreField highlightField : String}
    (hapart : scoreField ≠ highlightField) (index : String) :
    renderStage index (.annotate scoreField highlightField) =
      [("$set", .document [(scoreField, .document [("$meta", .string "searchScore")]),
        (highlightField, .document [("$meta", .string "searchHighlights")])])] := by
  simp [renderStage, Fields.put, hapart]

theorem renderStage_eq_iff (index : String) {stage other : Stage} (hstage : stage.NamesApart)
    (hother : other.NamesApart) :
    renderStage index stage = renderStage index other ↔ stage.cut = other.cut := by
  -- Documents of two kinds of stages differ in their first key, and so do not meet.
  cases stage with
  | search stage =>
    cases other with
    | search other =>
      simp only [renderStage, Stage.cut, Stage.search.injEq, (renderSearch_injective index).eq_iff]
    | _ => simp [renderStage, renderSearch, Stage.cut]
  | sort field ascending =>
    cases other with
    | sort otherField otherAscending =>
      cases ascending <;> cases otherAscending <;> simp [renderStage, Stage.cut]
    | _ => simp [renderStage, renderSearch, Stage.cut]
  | skip count =>
    cases other with
    | skip otherCount =>
      simp only [renderStage, List.cons.injEq, Prod.mk.injEq, Bson.int64.injEq, Int.natCast_inj,
        renderSkip_eq_iff, true_and, and_true]
    | _ => simp [renderStage, renderSearch, Stage.cut]
  | limit count =>
    cases other with
    | limit otherCount =>
      simp only [renderStage, Stage.cut, List.cons.injEq, Prod.mk.injEq, Bson.int64.injEq,
        Int.natCast_inj, UInt32.toNat_inj, Stage.limit.injEq, true_and, and_true]
    | _ => simp [renderStage, renderSearch, Stage.cut]
  | annotate scoreField highlightField =>
    cases other with
    | annotate otherScore otherHighlight =>
      simp [renderStage_annotate hstage, renderStage_annotate hother, Stage.cut]
    | _ => simp [renderStage, renderSearch, Stage.cut]

/-! ### plans -/

theorem renderStages_eq_iff (index : String) {stages others : List Stage}
    (hstages : ∀ stage ∈ stages, stage.NamesApart) (hothers : ∀ other ∈ others, other.NamesApart) :
    stages.map (renderStage index) = others.map (renderStage index) ↔
      stages.map Stage.cut = others.map Stage.cut := by
  induction stages generalizing others with
  | nil => simp
  | cons stage rest ih =>
    cases others with
    | nil => simp
    | cons other tail =>
      rw [List.forall_mem_cons] at hstages hothers
      rw [List.map_cons, List.map_cons, List.map_cons, List.map_cons, List.cons.injEq,
        List.cons.injEq, renderStage_eq_iff index hstages.1 hothers.1, ih hstages.2 hothers.2]

/-- Plans render to one pipeline exactly if they are equal once counts to skip are cut. -/
theorem render_eq_iff (plan other : Plan) (hplan : plan.NamesApart) (hother : other.NamesApart)
    (index : String) : render plan index = render other index ↔ plan.cut = other.cut := by
  rw [Plan.cut, Plan.cut, Plan.mk.injEq]
  exact renderStages_eq_iff index hplan hother

def deepPlan (must filter : List Clause) (count : UInt64) : Plan where
  stages := [.search { must, filter }, .skip count, .annotate "score" "highlights"]

def sinceEpoch : Clause := .range "datePublished" (some ⟨0⟩) none

theorem namesApart_deepPlan (must filter : List Clause) (count : UInt64) :
    (deepPlan must filter count).NamesApart := by
  simp [Plan.NamesApart, deepPlan, Stage.NamesApart]

/-- Of two counts beyond the greatest one either renders to the same pipeline, but a clause that
stands in another group does not. -/
theorem render_eq_iff_deepPlan :
    (deepPlan [sinceEpoch] [] 9223372036854775808).NamesApart ∧
      (deepPlan [] [sinceEpoch] 9223372036854775808).NamesApart ∧
      render (deepPlan [sinceEpoch] [] 9223372036854775808) "catalog" =
        render (deepPlan [sinceEpoch] [] 18446744073709551615) "catalog" ∧
      render (deepPlan [sinceEpoch] [] 9223372036854775808) "catalog" ≠
        render (deepPlan [] [sinceEpoch] 9223372036854775808) "catalog" := by
  refine ⟨namesApart_deepPlan _ _ _, namesApart_deepPlan _ _ _, ?_, ?_⟩
  · rw [render_eq_iff _ _ (namesApart_deepPlan _ _ _) (namesApart_deepPlan _ _ _)]
    rfl
  · rw [ne_eq, render_eq_iff _ _ (namesApart_deepPlan _ _ _) (namesApart_deepPlan _ _ _)]
    simp [deepPlan, Plan.cut, Stage.cut]

end Pipeline

end DatasetSearch
