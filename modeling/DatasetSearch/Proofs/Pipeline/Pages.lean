import DatasetSearch.Pipeline.Render
import DatasetSearch.Plan.Compile
import Mathlib.Algebra.Order.Ring.Nat

/-!
# Pages of a pipeline

A pipeline cuts a page out of a list of results by the counts under its keys `$skip` and `$limit`.
`page?` reads the two counts off the rendered documents and gives no page unless there is one of
each. For a compiled plan there is, and the page is what the request asks for although the count to
skip was cut to what a signed word holds (`page?_render`): a list that a signed word can index has
nothing left behind the cut.

`pages_partition` puts the pages of one size one after the other. They are the beginning of the
list, so between two pages nothing is lost, repeated or moved.
-/

set_option autoImplicit false
set_option relaxedAutoImplicit false

namespace DatasetSearch.Pipeline

/-! ### counts and pages -/

def count? (key : String) (stage : Document) : Option Int :=
  match Fields.get? key stage with
  | some (.int64 count) => some count
  | _ => none

/-- The whole numbers that stages hold under a key, in the order of the stages. -/
def counts (key : String) (pipeline : List Document) : List Int :=
  pipeline.filterMap (count? key)

/-- The page that a pipeline cuts out, if it has one count to skip and one limit. -/
def page? {α : Type} (pipeline : List Document) (results : List α) : Option (List α) :=
  match counts "$skip" pipeline, counts "$limit" pipeline with
  | [.ofNat skip], [.ofNat limit] => some ((results.drop skip).take limit)
  | _, _ => none

/-- The pipeline of a request, turned to another page. -/
def ofPage (request : Request) (index : String) (number size : UInt32) : List Document :=
  render (.ofRequest (request.withPage number size)) index

def pageNumbers (last : UInt32) : List UInt32 :=
  (List.range last.toNat).map fun before ↦ UInt32.ofNat (before + 1)

theorem counts_skip (request : Request) (index : String) :
    counts "$skip" (render (.ofRequest request) index) =
      [((min request.skip.toNat greatestSkip : Nat) : Int)] := by
  cases hsort : request.sortBy <;>
    simp [counts, render, Plan.ofRequest, hsort, renderStage, renderSearch, count?, Fields.get?]

theorem counts_limit (request : Request) (index : String) :
    counts "$limit" (render (.ofRequest request) index) = [(request.pageSize.toNat : Int)] := by
  cases hsort : request.sortBy <;>
    simp [counts, render, Plan.ofRequest, hsort, renderStage, renderSearch, count?, Fields.get?]

/-! ### one page -/

variable {α : Type} {results : List α}

/-- Behind the greatest count there are no results left to skip. -/
theorem drop_min_greatestSkip (hresults : results.length < 2 ^ 63) (skip : Nat) :
    results.drop (min skip greatestSkip) = results.drop skip := by
  rcases Nat.le_total skip greatestSkip with hle | hge
  · rw [Nat.min_eq_left hle]
  · have hlength : results.length ≤ greatestSkip := Nat.le_sub_one_of_lt hresults
    rw [Nat.min_eq_right hge, List.drop_eq_nil_of_le hlength,
      List.drop_eq_nil_of_le (Nat.le_trans hlength hge)]

theorem page?_render (request : Request) (index : String) (hresults : results.length < 2 ^ 63) :
    page? (render (.ofRequest request) index) results =
      some ((results.drop request.skip.toNat).take request.pageSize.toNat) := by
  rw [← drop_min_greatestSkip hresults]
  simp only [page?, counts_skip, counts_limit]

theorem page?_ofPage (request : Request) (index : String) (number size : UInt32)
    (hresults : results.length < 2 ^ 63) :
    page? (ofPage request index number size) results =
      some ((results.drop ((number.toNat - 1) * size.toNat)).take size.toNat) := by
  rw [ofPage, page?_render _ _ hresults, Request.toNat_skip]
  rfl

/-! ### all pages -/

theorem flatMap_range_take (results : List α) (size count : Nat) :
    ((List.range count).flatMap fun before ↦ (results.drop (before * size)).take size) =
      results.take (count * size) := by
  induction count with
  | zero => simp
  | succ count ih =>
    rw [List.range_succ, List.flatMap_append, ih, Nat.succ_mul, List.take_add]
    simp

theorem toNat_pageNumber {last : UInt32} {before : Nat} (hbefore : before ∈ List.range last.toNat) :
    (UInt32.ofNat (before + 1)).toNat = before + 1 := by
  have hlast := last.toNat_lt
  have hlt := List.mem_range.mp hbefore
  exact UInt32.toNat_ofNat_of_lt' (Nat.lt_of_le_of_lt hlt hlast)

theorem mapM_page?_ofPage (request : Request) (index : String) (size last : UInt32)
    (hresults : results.length < 2 ^ 63) :
    (pageNumbers last).mapM (fun number ↦ page? (ofPage request index number size) results) =
      some ((List.range last.toNat).map fun before ↦
        (results.drop (before * size.toNat)).take size.toNat) := by
  simp only [page?_ofPage _ _ _ _ hresults]
  have hpages : (pageNumbers last).map (fun number ↦
      (results.drop ((number.toNat - 1) * size.toNat)).take size.toNat) =
      (List.range last.toNat).map fun before ↦
        (results.drop (before * size.toNat)).take size.toNat := by
    rw [pageNumbers, List.map_map]
    refine List.map_congr_left fun before hbefore ↦ ?_
    rw [Function.comp_apply, toNat_pageNumber hbefore, Nat.add_sub_cancel]
  rw [← hpages]
  exact List.mapM_pure

/-- The pages of a request, one after the other, are the beginning of the results. The count to skip
is the exact product of the page number and size, and cutting it changes no page. -/
theorem pages_partition (request : Request) (index : String) (size last : UInt32)
    (results : List α) (hresults : results.length < 2 ^ 63) :
    ((pageNumbers last).mapM fun number ↦
        page? (ofPage request index number size) results).map List.flatten =
      some (results.take (last.toNat * size.toNat)) ∧
    ∀ number : UInt32,
      (request.withPage number size).skip.toNat = (number.toNat - 1) * size.toNat ∧
      counts "$skip" (ofPage request index number size) =
        [((min ((number.toNat - 1) * size.toNat) (2 ^ 63 - 1) : Nat) : Int)] ∧
      counts "$limit" (ofPage request index number size) = [(size.toNat : Int)] ∧
      page? (ofPage request index number size) results =
        some ((results.drop ((number.toNat - 1) * size.toNat)).take size.toNat) := by
  refine ⟨?_, fun number ↦ ?_⟩
  · rw [mapM_page?_ofPage request index size last hresults, Option.map_some, ← List.flatMap_def,
      flatMap_range_take]
  · have hskip := (request.withPage number size).toNat_skip
    refine ⟨hskip, ?_, counts_limit _ _, page?_ofPage request index number size hresults⟩
    rw [ofPage, counts_skip, hskip]
    rfl

/-- Three pages of two hold five results, and the last page of the greatest size, whose count to
skip is cut, holds none. -/
theorem pages_partition_fiveResults :
    [10, 20, 30, 40, 50].length < 2 ^ 63 ∧
      ((pageNumbers 3).mapM fun number ↦
        page? (ofPage (.ofTerm "soil") "catalog" number 2) [10, 20, 30, 40, 50]).map List.flatten =
          some [10, 20, 30, 40, 50] ∧
      counts "$skip" (ofPage (.ofTerm "soil") "catalog" 4294967295 4294967295) =
        [9223372036854775807] ∧
      page? (ofPage (.ofTerm "soil") "catalog" 4294967295 4294967295) [10, 20, 30, 40, 50] =
        some [] := by
  have hlength : [10, 20, 30, 40, 50].length < 2 ^ 63 := by decide
  have hpages := pages_partition (.ofTerm "soil") "catalog" 2 3 [10, 20, 30, 40, 50] hlength
  have hlast := (pages_partition (.ofTerm "soil") "catalog" 4294967295 3 [10, 20, 30, 40, 50]
    hlength).2 4294967295
  refine ⟨hlength, hpages.1, hlast.2.1, ?_⟩
  rw [hlast.2.2.2, List.drop_eq_nil_of_le (by decide), List.take_nil]

end DatasetSearch.Pipeline
