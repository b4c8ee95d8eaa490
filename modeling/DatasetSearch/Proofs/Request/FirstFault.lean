import DatasetSearch.Proofs.Request.Acceptance
import DatasetSearch.Proofs.Request.FieldPath
import DatasetSearch.Request.Parameters

/-!
# The first fault of a request

Requests are checked in a fixed order, and what is found first is reported. `Check.all` is that
order, and `Finds` says for each check on its own when it finds fault with a request, and which. The
checks made one after the other are `validate` (`validate_eq_forM`), so its fault is what the first
of them finds that finds any (`validate_eq_error_iff`).

A request with which no check finds fault is well-formed, and `IsWellFormed` says what that is
without checks. `validate_decided` puts this together.
-/

set_option autoImplicit false
set_option relaxedAutoImplicit false

namespace DatasetSearch.Request

/-- The year that a request gives for a parameter. -/
def year? (request : Request) : Parameter → Option Int32
  | .dataCoverageStart => request.dataCoverageStart
  | .dataCoverageEnd => request.dataCoverageEnd
  | .publishedStart => request.publishedStart
  | .publishedEnd => request.publishedEnd
  | .term | .sortBy | .contentType | .providerName | .creatorName | .pageNumber | .pageSize => none

/-! ### the checks -/

inductive Check where
  | term
  | pageNumber
  | pageSize
  | pageLimit
  | year (parameter : Parameter)
  | order (first last : Parameter)
  | sortBy
  deriving DecidableEq, Repr

namespace Check

/-- The checks, in the order in which they are made. -/
def all : List Check := [
  .term, .pageNumber, .pageSize, .pageLimit,
  .year .publishedStart, .year .publishedEnd, .year .dataCoverageStart, .year .dataCoverageEnd,
  .order .publishedStart .publishedEnd, .order .dataCoverageStart .dataCoverageEnd,
  .sortBy]

section Found

variable (limits : Limits) (request : Request)

/-- The check finds fault with the request, and the fault names what is wrong and the values that
make it so. -/
inductive Finds : Check → Fault → Prop
  | term (hblank : ∀ c ∈ request.term.toList, Text.isSpace c = true) : Finds .term .emptyTerm
  | pageNumber (hzero : request.pageNumber.toNat = 0) :
    Finds .pageNumber (.notPositive "pageNumber")
  | pageSize (hzero : request.pageSize.toNat = 0) : Finds .pageSize (.notPositive "pageSize")
  | pageLimit (hlarge : limits.maxPageSize.toNat < request.pageSize.toNat) :
    Finds .pageLimit (.pageSizeTooLarge request.pageSize limits.maxPageSize)
  | year {parameter : Parameter} {year : Int32} (hyear : request.year? parameter = some year)
    (houtside : year.toInt < 1 ∨ 9998 < year.toInt) :
    Finds (.year parameter) (.yearOutOfRange parameter.name year)
  | order {firstParameter lastParameter : Parameter} {first last : Int32}
    (hfirst : request.year? firstParameter = some first)
    (hlast : request.year? lastParameter = some last) (hinverted : last.toInt < first.toInt) :
    Finds (.order firstParameter lastParameter)
      (.invertedRange firstParameter.name first lastParameter.name last)
  | sortBy {field : String} (hfield : request.sortBy = some field) (hpath : ¬ IsPathText field) :
    Finds .sortBy (.invalidSortField field)

/-- One check as it is made. -/
def run : Check → Except Fault Unit
  | term => ensure (!Text.isBlank request.term) .emptyTerm
  | pageNumber => ensure (request.pageNumber != 0) (.notPositive "pageNumber")
  | pageSize => ensure (request.pageSize != 0) (.notPositive "pageSize")
  | pageLimit =>
    ensure (request.pageSize ≤ limits.maxPageSize)
      (.pageSizeTooLarge request.pageSize limits.maxPageSize)
  | year parameter => checkYear parameter.name (request.year? parameter)
  | order first last => checkOrder first.name (request.year? first) last.name (request.year? last)
  | sortBy => checkSort request.sortBy

end Found

end Check

/-! ### what one check finds -/

theorem toNat_eq_zero_iff (n : UInt32) : n.toNat = 0 ↔ n = 0 :=
  ⟨fun h ↦ UInt32.toNat_inj.mp h, fun h ↦ by rw [h]; rfl⟩

section Faults

variable {fault : Fault}

theorem checkYear_eq_error_iff (field : String) (value : Option Int32) :
    checkYear field value = .error fault ↔
      ∃ year, value = some year ∧ (year.toInt < 1 ∨ 9998 < year.toInt) ∧
        .yearOutOfRange field year = fault := by
  cases value with
  | none => simp [checkYear]
  | some year =>
    have hfirst : firstYear.toInt = 1 := rfl
    have hlast : lastYear.toInt = 9998 := rfl
    have houtside : (decide (firstYear ≤ year) && decide (year ≤ lastYear)) = false ↔
        year.toInt < 1 ∨ 9998 < year.toInt := by
      rw [Bool.and_eq_false_iff, decide_eq_false_iff_not, decide_eq_false_iff_not,
        Int32.le_iff_toInt_le, Int32.le_iff_toInt_le, hfirst, hlast, Int.not_le, Int.not_le]
    simp [checkYear, ensure_eq_error_iff, houtside]

theorem checkOrder_eq_error_iff (firstField lastField : String) (start stop : Option Int32) :
    checkOrder firstField start lastField stop = .error fault ↔
      ∃ first last, start = some first ∧ stop = some last ∧ last.toInt < first.toInt ∧
        .invertedRange firstField first lastField last = fault := by
  cases start with
  | none => simp [checkOrder]
  | some first =>
    cases stop with
    | none => simp [checkOrder]
    | some last => simp [checkOrder, ensure_eq_error_iff, Int32.le_iff_toInt_le]

theorem checkSort_eq_error_iff (value : Option String) :
    checkSort value = .error fault ↔
      ∃ field, value = some field ∧ ¬ IsPathText field ∧ .invalidSortField field = fault := by
  cases value with
  | none => simp [checkSort]
  | some field =>
    simp only [checkSort, ensure_eq_error_iff, ← isFieldPath_iff, Bool.not_eq_true,
      Option.some.injEq, exists_eq_left']

end Faults

section Checks

variable (limits : Limits) (request : Request)

theorem Check.run_eq_error_iff (check : Check) (fault : Fault) :
    check.run limits request = .error fault ↔ check.Finds limits request fault := by
  cases check with
  | term =>
    rw [run, ensure_eq_error_iff, Bool.not_eq_false', Text.isBlank, List.all_eq_true]
    constructor
    · rintro ⟨hblank, rfl⟩
      exact .term hblank
    · intro hfound
      cases hfound with
      | term hblank => exact ⟨hblank, rfl⟩
  | pageNumber =>
    rw [run, ensure_eq_error_iff, bne_eq_false_iff_eq, ← toNat_eq_zero_iff]
    constructor
    · rintro ⟨hzero, rfl⟩
      exact .pageNumber hzero
    · intro hfound
      cases hfound with
      | pageNumber hzero => exact ⟨hzero, rfl⟩
  | pageSize =>
    rw [run, ensure_eq_error_iff, bne_eq_false_iff_eq, ← toNat_eq_zero_iff]
    constructor
    · rintro ⟨hzero, rfl⟩
      exact .pageSize hzero
    · intro hfound
      cases hfound with
      | pageSize hzero => exact ⟨hzero, rfl⟩
  | pageLimit =>
    rw [run, ensure_eq_error_iff, decide_eq_false_iff_not, UInt32.le_iff_toNat_le, Nat.not_le]
    constructor
    · rintro ⟨hlarge, rfl⟩
      exact .pageLimit hlarge
    · intro hfound
      cases hfound with
      | pageLimit hlarge => exact ⟨hlarge, rfl⟩
  | year parameter =>
    rw [run, checkYear_eq_error_iff]
    constructor
    · rintro ⟨year, hyear, houtside, rfl⟩
      exact .year hyear houtside
    · intro hfound
      cases hfound with
      | year hyear houtside => exact ⟨_, hyear, houtside, rfl⟩
  | order firstParameter lastParameter =>
    rw [run, checkOrder_eq_error_iff]
    constructor
    · rintro ⟨first, last, hfirst, hlast, hinverted, rfl⟩
      exact .order hfirst hlast hinverted
    · intro hfound
      cases hfound with
      | order hfirst hlast hinverted => exact ⟨_, _, hfirst, hlast, hinverted, rfl⟩
  | sortBy =>
    rw [run, checkSort_eq_error_iff]
    constructor
    · rintro ⟨field, hfield, hpath, rfl⟩
      exact .sortBy hfield hpath
    · intro hfound
      cases hfound with
      | sortBy hfield hpath => exact ⟨_, hfield, hpath, rfl⟩

theorem Check.run_eq_ok_iff (check : Check) :
    check.run limits request = .ok () ↔ ∀ fault, ¬ check.Finds limits request fault := by
  simp only [← run_eq_error_iff]
  cases check.run limits request with
  | error fault => simp
  | ok done => simp

/-! ### all checks -/

theorem validate_eq_forM : request.validate limits = Check.all.forM (Check.run limits request) := by
  simp only [Check.all, List.forM_eq_forM, List.forM_cons, List.forM_nil, bind_pure_unit]
  rfl

/-- The fault of a request is what the first check finds that finds any. -/
theorem validate_eq_error_iff (fault : Fault) :
    request.validate limits = .error fault ↔
      ∃ before check after, Check.all = before ++ check :: after ∧
        check.Finds limits request fault ∧
        ∀ earlier ∈ before, ∀ found, ¬ earlier.Finds limits request found := by
  simp only [validate_eq_forM, forM_eq_error_iff, Check.run_eq_error_iff, Check.run_eq_ok_iff]

/-! ### requests without faults -/

/-- What is asked of a request, in the order of the checks. -/
structure IsWellFormed : Prop where
  term : ∃ c ∈ request.term.toList, Text.isSpace c = false
  pageNumber : 1 ≤ request.pageNumber.toNat
  pageSize : 1 ≤ request.pageSize.toNat
  pageSize_le : request.pageSize.toNat ≤ limits.maxPageSize.toNat
  years : ∀ parameter, ∀ year ∈ request.year? parameter, 1 ≤ year.toInt ∧ year.toInt ≤ 9998
  published : ∀ first ∈ request.publishedStart, ∀ last ∈ request.publishedEnd,
    first.toInt ≤ last.toInt
  dataCoverage : ∀ first ∈ request.dataCoverageStart, ∀ last ∈ request.dataCoverageEnd,
    first.toInt ≤ last.toInt
  sortBy : ∀ field ∈ request.sortBy, IsPathText field

theorem isWellFormed_iff : request.IsWellFormed limits ↔ request.IsAcceptable limits := by
  have hterm : Text.isBlank request.term = false ↔
      ∃ c ∈ request.term.toList, Text.isSpace c = false := by
    simp [Text.isBlank]
  have hone (n : UInt32) : 1 ≤ n.toNat ↔ n ≠ 0 := by
    rw [Nat.one_le_iff_ne_zero, Ne, toNat_eq_zero_iff]
  constructor
  · intro h
    exact {
      term := hterm.mpr h.term
      pageNumber := (hone _).mp h.pageNumber
      pageSize := (hone _).mp h.pageSize
      pageSize_le := h.pageSize_le
      publishedStart := h.years .publishedStart
      publishedEnd := h.years .publishedEnd
      dataCoverageStart := h.years .dataCoverageStart
      dataCoverageEnd := h.years .dataCoverageEnd
      published := h.published
      dataCoverage := h.dataCoverage
      sortBy := fun field hfield ↦ (isFieldPath_iff field).mpr (h.sortBy field hfield) }
  · intro h
    refine {
      term := hterm.mp h.term
      pageNumber := (hone _).mpr h.pageNumber
      pageSize := (hone _).mpr h.pageSize
      pageSize_le := h.pageSize_le
      years := fun parameter ↦ ?_
      published := h.published
      dataCoverage := h.dataCoverage
      sortBy := fun field hfield ↦ (isFieldPath_iff field).mp (h.sortBy field hfield) }
    cases parameter
    case publishedStart => exact h.publishedStart
    case publishedEnd => exact h.publishedEnd
    case dataCoverageStart => exact h.dataCoverageStart
    case dataCoverageEnd => exact h.dataCoverageEnd
    all_goals
      intro year hyear
      cases hyear

variable {limits request}

/-- A higher limit on page sizes refuses no more requests. -/
theorem IsWellFormed.of_le {wider : Limits} (h : request.IsWellFormed limits)
    (hle : limits.maxPageSize.toNat ≤ wider.maxPageSize.toNat) : request.IsWellFormed wider :=
  { h with pageSize_le := Nat.le_trans h.pageSize_le hle }

end Checks

/-- Which requests are accepted, and what is reported of the others. -/
theorem validate_decided (limits : Limits) (request : Request) :
    (request.validate limits = .ok () ↔ request.IsWellFormed limits) ∧
    (∀ fault, request.validate limits = .error fault ↔
      ∃ before check after, Check.all = before ++ check :: after ∧
        check.Finds limits request fault ∧
        ∀ earlier ∈ before, ∀ found, ¬ earlier.Finds limits request found) ∧
    ∀ wider : Limits, limits.maxPageSize.toNat ≤ wider.maxPageSize.toNat →
      request.validate limits = .ok () → request.validate wider = .ok () := by
  have haccepted (limits : Limits) :
      request.validate limits = .ok () ↔ request.IsWellFormed limits := by
    rw [validate_eq_ok_iff, isWellFormed_iff]
  refine ⟨haccepted limits, validate_eq_error_iff limits request, fun wider hle hvalid ↦ ?_⟩
  exact (haccepted wider).mpr (((haccepted limits).mp hvalid).of_le hle)

/-- Three checks find fault with this request: its last year, the order of its other years, and its
sort field. -/
def manyFaults : Request where
  term := "ice"
  sortBy := some "$where"
  publishedStart := some 2015
  publishedEnd := some 2010
  dataCoverageEnd := some 9999

/-- Years are looked at one by one before they are compared. -/
theorem validate_decided_manyFaults :
    (Check.order .publishedStart .publishedEnd).Finds {} manyFaults
        (.invertedRange "publishedStart" 2015 "publishedEnd" 2010) ∧
      Check.sortBy.Finds {} manyFaults (.invalidSortField "$where") ∧
      manyFaults.validate {} = .error (.yearOutOfRange "dataCoverageEnd" 9999) ∧
      (ofTerm "ice").validate ⟨4294967295⟩ = .ok () := by
  have hyear : (Check.year .dataCoverageEnd).Finds {} manyFaults
      (.yearOutOfRange "dataCoverageEnd" 9999) := .year rfl (by decide)
  have hbefore : ∀ earlier ∈ Check.all.take 7, ∀ found, ¬ earlier.Finds {} manyFaults found := by
    simp only [← Check.run_eq_ok_iff]
    decide
  have hpath : ¬ IsPathText "$where" := by
    rw [← isFieldPath_iff]
    decide
  obtain ⟨-, hfault, -⟩ := validate_decided {} manyFaults
  obtain ⟨-, -, hwider⟩ := validate_decided {} (ofTerm "ice")
  exact ⟨.order rfl rfl (by decide), .sortBy rfl hpath,
    (hfault _).mpr ⟨_, _, _, rfl, hyear, hbefore⟩, hwider _ (by decide) rfl⟩

end DatasetSearch.Request
