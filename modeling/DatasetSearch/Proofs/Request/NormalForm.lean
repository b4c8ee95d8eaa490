import DatasetSearch.Request.Basic
import DatasetSearch.Text.Space
import Mathlib.Algebra.Order.Ring.Int
import Mathlib.Data.Option.Basic

/-!
# The normal form of a request

Some parts of a request ask for nothing: a blank facet, a year that no date can be formed of, the
number zero of a page, and any page number where pages are empty. `normalForm` leaves them out or
puts the first page in their place, and keeps all else as it is.
-/

set_option autoImplicit false
set_option relaxedAutoImplicit false

namespace DatasetSearch.Request

/-- The value of a facet that is given and not blank. -/
def facet? (value : Option String) : Option String :=
  value.filter fun text ↦ !Text.isBlank text

/-- The years whose first day is a date. -/
def IsDateYear (year : Int) : Prop :=
  -262143 ≤ year ∧ year ≤ 262142

instance (year : Int) : Decidable (IsDateYear year) :=
  inferInstanceAs (Decidable (_ ∧ _))

def startYear? (year : Option Int32) : Option Int32 :=
  year.filter fun year ↦ IsDateYear year.toInt

/-- A span is closed by the first day of the year after its last one, which has to be a 32-bit
number itself. -/
def endYear? (year : Option Int32) : Option Int32 :=
  year.filter fun year ↦ year.toInt + 1 < 2 ^ 31 ∧ IsDateYear (year.toInt + 1)

def normalForm (request : Request) : Request :=
  { request with
    contentType := facet? request.contentType
    providerName := facet? request.providerName
    creatorName := facet? request.creatorName
    dataCoverageStart := startYear? request.dataCoverageStart
    dataCoverageEnd := endYear? request.dataCoverageEnd
    publishedStart := startYear? request.publishedStart
    publishedEnd := endYear? request.publishedEnd
    pageNumber :=
      if request.pageSize = 0 ∨ request.pageNumber = 0 then 1 else request.pageNumber }

theorem normalForm_eq_iff (a b : Request) :
    a.normalForm = b.normalForm ↔
      a.term = b.term ∧ a.sortBy = b.sortBy ∧
      facet? a.contentType = facet? b.contentType ∧
      facet? a.providerName = facet? b.providerName ∧
      facet? a.creatorName = facet? b.creatorName ∧
      startYear? a.dataCoverageStart = startYear? b.dataCoverageStart ∧
      endYear? a.dataCoverageEnd = endYear? b.dataCoverageEnd ∧
      startYear? a.publishedStart = startYear? b.publishedStart ∧
      endYear? a.publishedEnd = endYear? b.publishedEnd ∧
      a.normalForm.pageNumber = b.normalForm.pageNumber ∧ a.pageSize = b.pageSize := by
  rw [normalForm, normalForm, Request.mk.injEq]

/-! ### pages -/

theorem toNat_pageNumber_normalForm {request : Request} (hsize : request.pageSize ≠ 0) :
    request.normalForm.pageNumber.toNat = max request.pageNumber.toNat 1 := by
  by_cases hzero : request.pageNumber = 0
  · simp [normalForm, hzero]
  · have hpos : request.pageNumber.toNat ≠ 0 := fun h ↦ hzero (UInt32.toNat_inj.mp h)
    simp only [normalForm, hsize, hzero, or_self, if_false]
    omega

/-- Pages of one size begin at the same result exactly if they have the same number in normal
form. -/
theorem skip_eq_iff {a b : Request} (hsize : a.pageSize = b.pageSize) :
    a.skip = b.skip ↔ a.normalForm.pageNumber = b.normalForm.pageNumber := by
  rw [← UInt64.toNat_inj, toNat_skip, toNat_skip, hsize]
  by_cases hzero : b.pageSize = 0
  · -- Empty pages begin at the first result whatever their number.
    simp [normalForm, hsize, hzero]
  · have hpos : 0 < b.pageSize.toNat :=
      Nat.pos_of_ne_zero fun h ↦ hzero (UInt32.toNat_inj.mp h)
    rw [← UInt32.toNat_inj, toNat_pageNumber_normalForm (hsize ▸ hzero),
      toNat_pageNumber_normalForm hzero, Nat.mul_left_inj (Nat.ne_of_gt hpos)]
    omega

end DatasetSearch.Request
