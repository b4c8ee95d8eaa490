/-!
Keyword search requests: a term, optional facets, optional spans of years and a page.
-/

set_option autoImplicit false
set_option relaxedAutoImplicit false

namespace DatasetSearch

structure Request where
  term : String
  sortBy : Option String := none
  contentType : Option String := none
  providerName : Option String := none
  creatorName : Option String := none
  dataCoverageStart : Option Int32 := none
  dataCoverageEnd : Option Int32 := none
  publishedStart : Option Int32 := none
  publishedEnd : Option Int32 := none
  pageNumber : UInt32 := 1
  pageSize : UInt32 := 30
  deriving DecidableEq, Repr, Inhabited

namespace Request

def defaultPageSize : UInt32 := 30

def defaultMaxPageSize : UInt32 := 100

/-- How many results lie before the page. Page zero counts as the first page. -/
def skip (request : Request) : UInt64 :=
  let pagesBefore := if request.pageNumber = 0 then 0 else request.pageNumber - 1
  pagesBefore.toUInt64 * request.pageSize.toUInt64

/-- The product of two 32-bit words does not overflow 64 bits. -/
theorem toNat_skip (request : Request) :
    request.skip.toNat = (request.pageNumber.toNat - 1) * request.pageSize.toNat := by
  have hn := request.pageNumber.toNat_lt
  have hs := request.pageSize.toNat_lt
  have hp : (if request.pageNumber = 0 then 0 else request.pageNumber - 1).toNat =
      request.pageNumber.toNat - 1 := by
    split
    · simp_all
    · rename_i h
      have h1 : (1 : UInt32) ≤ request.pageNumber := by
        rw [UInt32.le_iff_toNat_le]
        have : request.pageNumber.toNat ≠ 0 := fun h0 ↦ h (UInt32.toNat_inj.mp h0)
        have : (1 : UInt32).toNat = 1 := rfl
        omega
      rw [UInt32.toNat_sub_of_le _ _ h1]
      rfl
  simp only [skip, UInt64.toNat_mul, UInt32.toNat_toUInt64, hp]
  apply Nat.mod_eq_of_lt
  have : (request.pageNumber.toNat - 1) * request.pageSize.toNat < 2 ^ 32 * 2 ^ 32 := by
    apply Nat.mul_lt_mul_of_lt_of_le (by omega) (by omega) (by omega)
  simpa using this

/-! ### building requests step by step -/

def ofTerm (term : String) : Request := { term }

def withSort (request : Request) (field : String) : Request :=
  { request with sortBy := some field }

def withContentType (request : Request) (value : String) : Request :=
  { request with contentType := some value }

def withProvider (request : Request) (value : String) : Request :=
  { request with providerName := some value }

def withCreator (request : Request) (value : String) : Request :=
  { request with creatorName := some value }

/-- Sets both ends of the coverage span; an end that is not given is cleared. -/
def withCoverage (request : Request) (first last : Option Int32) : Request :=
  { request with dataCoverageStart := first, dataCoverageEnd := last }

/-- Sets both ends of the span of publication years; an end that is not given is cleared. -/
def withPublished (request : Request) (first last : Option Int32) : Request :=
  { request with publishedStart := first, publishedEnd := last }

def withPage (request : Request) (number size : UInt32) : Request :=
  { request with pageNumber := number, pageSize := size }

end Request

end DatasetSearch
