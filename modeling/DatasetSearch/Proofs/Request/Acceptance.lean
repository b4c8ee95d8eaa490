import DatasetSearch.Request.Validation

/-!
# Accepted requests

`IsAcceptable` lists what a request has to satisfy under given limits, one field for each check,
with years compared as integers. `validate_eq_ok_iff` says that the checks let pass exactly the
acceptable requests.
-/

set_option autoImplicit false
set_option relaxedAutoImplicit false

namespace DatasetSearch.Request

/-- The years that dates can be filtered by. -/
def IsFilterYear (year : Int32) : Prop :=
  1 ≤ year.toInt ∧ year.toInt ≤ 9998

structure IsAcceptable (limits : Limits) (request : Request) : Prop where
  term : Text.isBlank request.term = false
  pageNumber : request.pageNumber ≠ 0
  pageSize : request.pageSize ≠ 0
  pageSize_le : request.pageSize ≤ limits.maxPageSize
  publishedStart : ∀ year ∈ request.publishedStart, IsFilterYear year
  publishedEnd : ∀ year ∈ request.publishedEnd, IsFilterYear year
  dataCoverageStart : ∀ year ∈ request.dataCoverageStart, IsFilterYear year
  dataCoverageEnd : ∀ year ∈ request.dataCoverageEnd, IsFilterYear year
  published : ∀ first ∈ request.publishedStart, ∀ last ∈ request.publishedEnd,
    first.toInt ≤ last.toInt
  dataCoverage : ∀ first ∈ request.dataCoverageStart, ∀ last ∈ request.dataCoverageEnd,
    first.toInt ≤ last.toInt
  sortBy : ∀ field ∈ request.sortBy, isFieldPath field = true

/-! ### one check -/

theorem checkYear_eq_ok_iff (field : String) (year : Option Int32) :
    checkYear field year = .ok () ↔ ∀ y ∈ year, IsFilterYear y := by
  cases year with
  | none => simp [checkYear]
  | some year =>
    have hfirst : firstYear.toInt = 1 := rfl
    have hlast : lastYear.toInt = 9998 := rfl
    simp [checkYear, ensure_eq_ok_iff, IsFilterYear, Int32.le_iff_toInt_le, hfirst, hlast]

theorem checkOrder_eq_ok_iff (firstField lastField : String) (first last : Option Int32) :
    checkOrder firstField first lastField last = .ok () ↔
      ∀ f ∈ first, ∀ l ∈ last, f.toInt ≤ l.toInt := by
  cases first <;> cases last <;> simp [checkOrder, ensure_eq_ok_iff, Int32.le_iff_toInt_le]

theorem checkSort_eq_ok_iff (field : Option String) :
    checkSort field = .ok () ↔ ∀ f ∈ field, isFieldPath f = true := by
  cases field <;> simp [checkSort, ensure_eq_ok_iff]

/-! ### all checks -/

theorem validate_eq_ok_iff (limits : Limits) (request : Request) :
    request.validate limits = .ok () ↔ request.IsAcceptable limits := by
  simp only [validate, check_bind_eq_ok_iff, ensure_eq_ok_iff, checkYear_eq_ok_iff,
    checkOrder_eq_ok_iff, checkSort_eq_ok_iff, Bool.not_eq_true', bne_iff_ne, decide_eq_true_eq]
  constructor
  · rintro ⟨hterm, hnumber, hsize, hlimit, hps, hpe, hcs, hce, hpublished, hcoverage, hsort⟩
    exact ⟨hterm, hnumber, hsize, hlimit, hps, hpe, hcs, hce, hpublished, hcoverage, hsort⟩
  · intro h
    exact ⟨h.term, h.pageNumber, h.pageSize, h.pageSize_le, h.publishedStart, h.publishedEnd,
      h.dataCoverageStart, h.dataCoverageEnd, h.published, h.dataCoverage, h.sortBy⟩

/-! ### faults of the page size -/

def Fault.IsPageSize : Fault → Prop
  | notPositive field => field = "pageSize"
  | pageSizeTooLarge _ _ => True
  | emptyTerm | yearOutOfRange _ _ | invertedRange _ _ _ _ | invalidSortField _ => False

theorem checkYear_ne_error {fault : Fault} (hfault : fault.IsPageSize) (field : String)
    (year : Option Int32) : checkYear field year ≠ .error fault := by
  intro h
  cases year with
  | none => cases h
  | some year =>
    obtain ⟨-, rfl⟩ := (ensure_eq_error_iff ..).mp h
    exact hfault

theorem checkOrder_ne_error {fault : Fault} (hfault : fault.IsPageSize)
    (firstField lastField : String) (first last : Option Int32) :
    checkOrder firstField first lastField last ≠ .error fault := by
  intro h
  cases first with
  | none => cases h
  | some first =>
    cases last with
    | none => cases h
    | some last =>
      obtain ⟨-, rfl⟩ := (ensure_eq_error_iff ..).mp h
      exact hfault

theorem checkSort_ne_error {fault : Fault} (hfault : fault.IsPageSize) (field : Option String) :
    checkSort field ≠ .error fault := by
  intro h
  cases field with
  | none => cases h
  | some field =>
    obtain ⟨-, rfl⟩ := (ensure_eq_error_iff ..).mp h
    exact hfault

/-- A page size is found fault with only if it is zero or beyond the limit. -/
theorem pageSize_of_validate_eq_error {limits : Limits} {request : Request} {fault : Fault}
    (hfault : fault.IsPageSize) (herror : request.validate limits = .error fault) :
    request.pageSize = 0 ∨ ¬ request.pageSize ≤ limits.maxPageSize := by
  simp only [validate, check_bind_eq_error_iff, ensure_eq_error_iff, checkYear_ne_error hfault,
    checkOrder_ne_error hfault, checkSort_ne_error hfault, bne_eq_false_iff_eq,
    decide_eq_false_iff_not, and_false, or_false] at herror
  rcases herror with ⟨-, rfl⟩ | ⟨-, ⟨-, rfl⟩ | ⟨-, ⟨hzero, -⟩ | ⟨-, hlimit, -⟩⟩⟩
  · exact hfault.elim
  · have hname : "pageNumber" = "pageSize" := hfault
    exact absurd hname (by decide)
  · exact Or.inl hzero
  · exact Or.inr hlimit

end DatasetSearch.Request
