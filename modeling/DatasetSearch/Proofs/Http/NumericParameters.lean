import DatasetSearch.Proofs.Http.Admission
import DatasetSearch.Proofs.Request.Reading

/-!
# Numeric parameters are exact

A numeric parameter accepts blank values and the numerals of its range (`Accepts`). A blank value
counts as absent and a numeral as its number, whatever else the query holds. With any other value
the query is turned down, and if nothing before that value is wrong, the reason tells whether the
number leaves the range or a character is no digit (`exists_reason_of_not_accepts`).
-/

set_option autoImplicit false
set_option relaxedAutoImplicit false

namespace DatasetSearch.Http

open Text Parameters

/-- The text is the numeral of a number in the range. -/
def IsNumeralIn (bounds : Numeral.Bounds) (text : List Char) : Prop :=
  ∃ n, Numeral.Denotes bounds text n ∧ bounds.Holds n

/-- A value that a parameter with the range takes. White space around a numeral is no part of it. -/
def Accepts (bounds : Numeral.Bounds) (value : String) : Prop :=
  isBlank value = true ∨ IsNumeralIn bounds (trim value).toList

/-- The reason for refusing a text. The digits are looked at from the left: either they leave the
range before another character is met, or they do not. -/
structure IsReasonFor (reason : String) (bounds : Numeral.Bounds) (text : List Char) : Prop where
  tooLarge : reason = "number too large to fit in target type" ↔
    Numeral.LeavesBounds bounds text ∧ (Numeral.splitSign bounds text).1 = false
  tooSmall : reason = "number too small to fit in target type" ↔
    Numeral.LeavesBounds bounds text ∧ (Numeral.splitSign bounds text).1 = true
  invalidDigit : reason = "invalid digit found in string" ↔ ¬ Numeral.LeavesBounds bounds text

section Value

variable {parameter : Parameter} {bounds : Numeral.Bounds}
  (hbounds : parameter.bounds? = some bounds) {value : String}

include hbounds

theorem holds_zero_of_bounds? : bounds.Holds 0 := by
  cases parameter <;> cases hbounds <;> decide

theorem ne_term_of_bounds? : parameter ≠ .term := by
  rintro rfl
  cases hbounds

theorem read_of_denotes (hvalue : ¬ isBlank value = true) {n : Int}
    (hn : Numeral.Denotes bounds (trim value).toList n) (hholds : bounds.Holds n) :
    parameter.read value = .ok (some (.number n)) := by
  have hread := (Numeral.read_eq_ok_iff (holds_zero_of_bounds? hbounds) (toList_trim_ne_nil hvalue)
    n).mpr ⟨hn, hholds⟩
  rw [Parameter.read_of_bounds? hbounds, number?_of_not_isBlank hvalue, hread]
  rfl

theorem exists_read_of_accepts (haccepts : Accepts bounds value) :
    ∃ read, parameter.read value = .ok read := by
  by_cases hblank : isBlank value = true
  · exact ⟨_, read_of_isBlank (ne_term_of_bounds? hbounds) hblank⟩
  · obtain ⟨n, hn, hholds⟩ := haccepts.resolve_left hblank
    exact ⟨_, read_of_denotes hbounds hblank hn hholds⟩

/-- What every other value is refused for. -/
theorem exists_reason_of_not_accepts (hrefused : ¬ Accepts bounds value) :
    ∃ fault, parameter.read value = .error (.numeral fault) ∧
      IsReasonFor fault.message bounds (trim value).toList := by
  have hzero := holds_zero_of_bounds? hbounds
  obtain ⟨hvalue, hnumeral⟩ := not_or.mp hrefused
  have htext := toList_trim_ne_nil hvalue
  have hread : ∀ fault, Numeral.read bounds (trim value).toList = .error fault →
      parameter.read value = .error (.numeral fault) := by
    intro fault hfault
    rw [Parameter.read_of_bounds? hbounds, number?_of_not_isBlank hvalue, hfault]
    rfl
  by_cases hleaves : Numeral.LeavesBounds bounds (trim value).toList
  · refine ⟨_, hread _ (Numeral.read_eq_overflow hzero htext hleaves), ?_⟩
    cases hsign : (Numeral.splitSign bounds (trim value).toList).1 <;>
      constructor <;> simp [Numeral.overflow, Numeral.Fault.message, hleaves, hsign]
  · refine ⟨_, hread _ (Numeral.read_eq_invalidDigit hzero htext hnumeral hleaves), ?_⟩
    constructor <;> simp [Numeral.Fault.message, hleaves]

/-- What is read of a value that is not blank is the number of a numeral. -/
theorem exists_number_of_read (hvalue : ¬ isBlank value = true) {read : Option Parameter.Value}
    (hread : parameter.read value = .ok read) :
    ∃ n, Numeral.Denotes bounds (trim value).toList n ∧ bounds.Holds n ∧
      read = some (.number n) := by
  by_cases haccepts : Accepts bounds value
  · obtain ⟨n, hn, hholds⟩ := haccepts.resolve_left hvalue
    have hnumber := read_of_denotes hbounds hvalue hn hholds
    exact ⟨n, hn, hholds, Except.ok.inj (hread.symm.trans hnumber)⟩
  · obtain ⟨fault, hfault, -⟩ := exists_reason_of_not_accepts hbounds haccepts
    cases hread.symm.trans hfault

/-! ### values among others -/

variable {query : Option String} {before after : List (String × String)}
  (hentries : entries query = before ++ (parameter.name, value) :: after)

include hentries

theorem ofQuery_insert_iff (params : Parameters) :
    ofQuery query = .ok params ↔
      parameter ∉ names (told (before ++ after)) ∧
        ∃ others, readFrom [] {} (before ++ after) = .ok others ∧
          params.Stores others parameter value := by
  rw [ofQuery, ← entries, hentries]
  exact readFrom_insert_iff (ne_term_of_bounds? hbounds) before after value params

theorem isReadable_insert_iff :
    (∃ params, ofQuery query = .ok params) ↔
      (∃ others, readFrom [] {} (before ++ after) = .ok others) ∧
        parameter ∉ names (told (before ++ after)) ∧ Accepts bounds value := by
  simp only [ofQuery_insert_iff hbounds hentries]
  constructor
  · rintro ⟨params, hnew, others, hothers, hstores⟩
    refine ⟨⟨others, hothers⟩, hnew, ?_⟩
    by_contra hrefused
    obtain ⟨fault, hfault, -⟩ := exists_reason_of_not_accepts hbounds hrefused
    cases hstores.own.symm.trans hfault
  · rintro ⟨⟨others, hothers⟩, hnew, haccepts⟩
    obtain ⟨read, hread⟩ := exists_read_of_accepts hbounds haccepts
    rcases set_cases others parameter value with ⟨params, -, hstores⟩ | ⟨fault, -, hfault⟩
    · exact ⟨params, hnew, others, hothers, hstores⟩
    · cases hread.symm.trans hfault

section Held

variable {params : Parameters} (hread : ofQuery query = .ok params)

include hread

/-- A blank value is as good as none. -/
theorem readFrom_others_of_isBlank (hblank : isBlank value = true) :
    readFrom [] {} (before ++ after) = .ok params := by
  obtain ⟨hnew, others, hothers, hstores⟩ := (ofQuery_insert_iff hbounds hentries params).mp hread
  have habsent : others.value? parameter = none := by
    have hsaid := ((readFrom_eq_ok_iff [] {} others _).mp hothers).each parameter
    rw [says_of_not_mem hnew, value?_empty] at hsaid
    exact (Except.ok.inj hsaid).symm
  have hnone : params.value? parameter = none := by
    have hblankRead := read_of_isBlank (ne_term_of_bounds? hbounds) hblank
    exact Except.ok.inj (hstores.own.symm.trans hblankRead)
  have hsame : params = others := eq_of_value?_eq fun p ↦ by
    by_cases hp : p = parameter
    · rw [hp, hnone, habsent]
    · exact hstores.others p hp
  rw [hsame]
  exact hothers

/-- What a request made of the query has of the parameter. -/
theorem value?_of_ofQuery {defaultPageSize : UInt32} {request : DatasetSearch.Request}
    (hmade : params.toRequest defaultPageSize = .ok request) :
    (isBlank value = true → request.value? parameter = absentValue? defaultPageSize parameter) ∧
      (¬ isBlank value = true → ∃ n, Numeral.Denotes bounds (trim value).toList n ∧
        bounds.Holds n ∧ request.value? parameter = some (.number n)) := by
  obtain ⟨-, others, -, hstores⟩ := (ofQuery_insert_iff hbounds hentries params).mp hread
  constructor
  · intro hblank
    have hblankRead := read_of_isBlank (ne_term_of_bounds? hbounds) hblank
    rw [value?_of_toRequest hmade, Except.ok.inj (hstores.own.symm.trans hblankRead),
      Option.none_or]
  · intro hvalue
    obtain ⟨n, hn, hholds, hnumber⟩ := exists_number_of_read hbounds hvalue hstores.own
    exact ⟨n, hn, hholds, by rw [value?_of_toRequest hmade, hnumber, Option.some_or]⟩

end Held

end Value

/-- The query with a value of a numeric parameter somewhere in it, against the query without. -/
theorem numericParameter_exact (parameter : Parameter) (bounds : Numeral.Bounds)
    (hbounds : parameter.bounds? = some bounds) (query : Option String)
    (before after : List (String × String)) (value : String)
    (hentries : entries query = before ++ (parameter.name, value) :: after) :
    ((∃ params, ofQuery query = .ok params) ↔
      (∃ others, readFrom [] {} (before ++ after) = .ok others) ∧
        parameter ∉ names (told (before ++ after)) ∧ Accepts bounds value) ∧
    (∀ params, ofQuery query = .ok params →
      ∃ others, readFrom [] {} (before ++ after) = .ok others ∧
        (isBlank value = true → params = others) ∧
        (∀ other, other ≠ parameter → params.value? other = others.value? other) ∧
        ∀ defaultPageSize request, params.toRequest defaultPageSize = .ok request →
          (isBlank value = true →
            request.value? parameter = absentValue? defaultPageSize parameter) ∧
          (¬ isBlank value = true → ∃ n, Numeral.Denotes bounds (trim value).toList n ∧
            bounds.Holds n ∧ request.value? parameter = some (.number n))) ∧
    (¬ Accepts bounds value → ∃ fault, IsTurnedDown query fault) ∧
    (¬ Accepts bounds value → ∀ params, readFrom [] {} before = .ok params →
      parameter ∉ names (told before) →
        ∃ fault, IsTurnedDown query (.numeral fault) ∧
          IsReasonFor fault.message bounds (trim value).toList) := by
  have hreadable := isReadable_insert_iff hbounds hentries
  refine ⟨hreadable, fun params hread ↦ ?_, fun hrefused ↦ ?_,
    fun hrefused params hbefore hnew ↦ ?_⟩
  · obtain ⟨-, others, hothers, hstores⟩ := (ofQuery_insert_iff hbounds hentries params).mp hread
    refine ⟨others, hothers, fun hblank ↦ ?_, hstores.others,
      fun _ _ ↦ value?_of_ofQuery hbounds hentries hread⟩
    have hsame := readFrom_others_of_isBlank hbounds hentries hread hblank
    exact Except.ok.inj (hsame.symm.trans hothers)
  · cases hread : ofQuery query with
    | ok params => exact absurd (hreadable.mp ⟨params, hread⟩).2.2 hrefused
    | error fault => exact ⟨fault, isTurnedDown_of_ofQuery hread⟩
  · obtain ⟨fault, hfault, hreason⟩ := exists_reason_of_not_accepts hbounds hrefused
    have hread := readFrom_eq_error_of_first hbefore hnew hfault after
    rw [← hentries] at hread
    exact ⟨fault, isTurnedDown_of_ofQuery hread, hreason⟩

/-- The least year with zeros and white space around it is read. A page number leaves its range at
the last digit, before the letter behind it and the year after it are looked at. -/
theorem numericParameter_exact_leastYear :
    (∃ params request, ofQuery (some "term=ice&publishedStart=+-0002147483648%E3%80%80") =
        .ok params ∧ params.toRequest 10 = .ok request ∧
        request.value? .publishedStart = some (.number (-2147483648))) ∧
      ∃ fault, IsTurnedDown (some "term=ice&pageNumber=004294967296x&publishedEnd=old")
        (.numeral fault) ∧ fault.message = "number too large to fit in target type" := by
  constructor
  · have hentries : entries (some "term=ice&publishedStart=+-0002147483648%E3%80%80") =
        [("term", "ice")] ++ (Parameter.publishedStart.name, " -0002147483648\u3000") :: [] := by
      decide +kernel
    have hread : ofQuery (some "term=ice&publishedStart=+-0002147483648%E3%80%80") =
        .ok { term := some "ice", publishedStart := some (-2147483648) } := by
      decide +kernel
    obtain ⟨-, hheld, -⟩ := numericParameter_exact .publishedStart _ rfl _ _ _ _ hentries
    obtain ⟨others, -, -, -, hrequest⟩ := hheld _ hread
    obtain ⟨n, hn, -, hvalue⟩ := (hrequest 10 _ rfl).2 (by decide)
    have hnumber : n = -2147483648 := hn.number.trans (by decide +kernel)
    exact ⟨_, _, hread, rfl, hnumber ▸ hvalue⟩
  · have hentries : entries (some "term=ice&pageNumber=004294967296x&publishedEnd=old") =
        [("term", "ice")] ++ (Parameter.pageNumber.name, "004294967296x") ::
          [("publishedEnd", "old")] := by
      decide +kernel
    have htext : (trim "004294967296x").toList = "004294967296".toList ++ ['x'] := by
      decide +kernel
    have hrefused : ¬ Accepts ⟨0, 4294967295⟩ "004294967296x" := by
      rintro (hblank | ⟨n, hn, -⟩)
      · exact absurd hblank (by decide)
      · have hletter := hn.isDigit 'x'
        rw [htext] at hletter
        exact absurd (hletter (by decide)) (by decide)
    have hleaves : Numeral.LeavesBounds ⟨0, 4294967295⟩ (trim "004294967296x").toList := by
      rw [htext]
      exact ⟨"004294967296".toList, List.prefix_append _ _, List.all_eq_true.mp rfl, by decide⟩
    obtain ⟨-, -, -, hfirst⟩ := numericParameter_exact .pageNumber _ rfl _ _ _ _ hentries
    have hnew : .pageNumber ∉ names (told [("term", "ice")]) := by decide +kernel
    obtain ⟨fault, hdown, hreason⟩ := hfirst hrefused { term := some "ice" } rfl hnew
    exact ⟨fault, hdown, hreason.tooLarge.mpr ⟨hleaves, by rw [htext]; rfl⟩⟩

end DatasetSearch.Http
