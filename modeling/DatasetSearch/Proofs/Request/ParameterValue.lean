import DatasetSearch.Proofs.Request.PageSize
import DatasetSearch.Proofs.Text.NumeralReading

/-!
# What the value of a parameter is read as

A value is read on its own, without regard to what else a query holds (`Parameter.read`). Numbers
are within the range of their parameter (`holds_of_number?`), so that storing them loses nothing.

Stored parameters are known by their values (`eq_of_value?_eq`). `set_cases` says all that storing
a value does: it adds the value to what the parameters say, or the value cannot be read.
-/

set_option autoImplicit false
set_option relaxedAutoImplicit false

namespace DatasetSearch

open Text

/-! ### one value -/

namespace Parameter

theorem ofName?_eq_some_iff {name : String} {parameter : Parameter} :
    ofName? name = some parameter ↔ name = parameter.name := by
  constructor
  · intro hfound
    rw [ofName?] at hfound
    have hname := List.find?_some hfound
    exact (beq_iff_eq.mp hname).symm
  · rintro rfl
    exact ofName?_name parameter

theorem ofName?_eq_none_iff {name : String} :
    ofName? name = none ↔ ∀ parameter : Parameter, name ≠ parameter.name := by
  simp only [Option.eq_none_iff_forall_ne_some, ne_eq, ofName?_eq_some_iff]

/-- The range of a numeric parameter. Years are signed and pages are not. -/
def bounds? : Parameter → Option Numeral.Bounds
  | dataCoverageStart | dataCoverageEnd | publishedStart | publishedEnd =>
    some ⟨-2147483648, 2147483647⟩
  | pageNumber | pageSize => some ⟨0, 4294967295⟩
  | term | sortBy | contentType | providerName | creatorName => none

/-- What a value of the parameter is read as, `none` if it counts as absent. -/
def read (parameter : Parameter) (value : String) : Except Parameters.Fault (Option Value) :=
  match parameter.bounds? with
  | some bounds => (Parameters.number? bounds value).map (·.map .number)
  | none =>
    if parameter = .term then .ok (some (.text value))
    else .ok ((Parameters.present? value).map .text)

theorem read_of_bounds? {parameter : Parameter} {bounds : Numeral.Bounds}
    (hbounds : parameter.bounds? = some bounds) (value : String) :
    parameter.read value = (Parameters.number? bounds value).map (·.map .number) := by
  rw [read, hbounds]

theorem read_of_text {parameter : Parameter} (hbounds : parameter.bounds? = none)
    (hterm : parameter ≠ .term) (value : String) :
    parameter.read value = .ok ((Parameters.present? value).map .text) := by
  rw [read, hbounds]
  exact if_neg hterm

end Parameter

namespace Parameters

theorem present?_of_not_isBlank {value : String} (hvalue : ¬ isBlank value = true) :
    present? value = some (trim value) := by
  rw [isBlank_iff_trim] at hvalue
  exact if_neg (by simpa using hvalue)

theorem present?_of_isBlank {value : String} (hblank : isBlank value = true) :
    present? value = none := by
  rw [present?, (isBlank_iff_trim value).mp hblank]
  rfl

theorem toList_trim_ne_nil {value : String} (hvalue : ¬ isBlank value = true) :
    (trim value).toList ≠ [] := by
  rw [isBlank_iff_trim] at hvalue
  simpa using hvalue

section Number

variable {bounds : Numeral.Bounds} {value : String}

theorem number?_of_isBlank (hblank : isBlank value = true) : number? bounds value = .ok none := by
  rw [number?, present?_of_isBlank hblank]

theorem number?_of_not_isBlank (hvalue : ¬ isBlank value = true) :
    number? bounds value =
      ((Numeral.read bounds (trim value).toList).mapError .numeral).map some := by
  rw [number?, present?_of_not_isBlank hvalue]
  dsimp only
  cases Numeral.read bounds (trim value).toList <;> rfl

/-- Numbers that are read are within the bounds, so that storing them loses nothing. -/
theorem holds_of_number? (hzero : bounds.Holds 0) {n : Int}
    (hread : number? bounds value = .ok (some n)) : bounds.Holds n := by
  by_cases hblank : isBlank value = true
  · rw [number?_of_isBlank hblank] at hread
    cases hread
  · rw [number?_of_not_isBlank hblank] at hread
    cases hnumeral : Numeral.read bounds (trim value).toList with
    | error fault =>
      rw [hnumeral] at hread
      cases hread
    | ok m =>
      rw [hnumeral] at hread
      cases hread
      exact ((Numeral.read_eq_ok_iff hzero (toList_trim_ne_nil hblank) n).mp hnumeral).2

end Number

/-- Blank values of all parameters but the term count as absent. -/
theorem read_of_isBlank {parameter : Parameter} (hterm : parameter ≠ .term) {value : String}
    (hblank : isBlank value = true) : parameter.read value = .ok none := by
  cases hbounds : parameter.bounds? with
  | none => rw [Parameter.read_of_text hbounds hterm, present?_of_isBlank hblank, Option.map_none]
  | some bounds =>
    rw [Parameter.read_of_bounds? hbounds, number?_of_isBlank hblank]
    rfl

/-- White space at the ends of a value is no part of it, unless it is the term. -/
theorem read_congr {parameter : Parameter} (hterm : parameter ≠ .term) {a b : String}
    (htrim : trim a = trim b) : parameter.read a = parameter.read b := by
  have hpresent : present? a = present? b := by rw [present?, present?, htrim]
  cases hbounds : parameter.bounds? with
  | none =>
    rw [Parameter.read_of_text hbounds hterm, Parameter.read_of_text hbounds hterm, hpresent]
  | some bounds =>
    rw [Parameter.read_of_bounds? hbounds, Parameter.read_of_bounds? hbounds, number?, number?,
      hpresent]

theorem map_year?_eq (value : String) :
    (year? value).map (·.map fun year ↦ Parameter.Value.number year.toInt) =
      (number? ⟨-2147483648, 2147483647⟩ value).map (·.map .number) := by
  have hbounds : Numeral.Bounds.signed 32 = ⟨-2147483648, 2147483647⟩ := rfl
  rw [year?, hbounds]
  cases hnumber : number? ⟨-2147483648, 2147483647⟩ value with
  | error fault => rfl
  | ok number =>
    cases number with
    | none => rfl
    | some n =>
      obtain ⟨hleast, hgreatest⟩ := holds_of_number? (by decide) hnumber
      have hstored : (Int32.ofInt n).toInt = n :=
        Int32.toInt_ofInt_of_le hleast (Int.lt_add_one_of_le hgreatest)
      simp only [Except.map, Option.map_some, hstored]

theorem map_count?_eq (value : String) :
    (count? value).map (·.map fun count ↦ Parameter.Value.number count.toNat) =
      (number? ⟨0, 4294967295⟩ value).map (·.map .number) := by
  have hbounds : Numeral.Bounds.unsigned 32 = ⟨0, 4294967295⟩ := rfl
  rw [count?, hbounds]
  cases hnumber : number? ⟨0, 4294967295⟩ value with
  | error fault => rfl
  | ok number =>
    cases number with
    | none => rfl
    | some n =>
      obtain ⟨hleast, hgreatest⟩ := holds_of_number? (by decide) hnumber
      have hstored : ((UInt32.ofNat n.toNat).toNat : Int) = n := by
        dsimp only at hleast hgreatest
        rw [UInt32.toNat_ofNat_of_lt' (by rw [UInt32.size]; omega)]
        exact Int.toNat_of_nonneg hleast
      simp only [Except.map, Option.map_some, hstored]

/-! ### parameters by their values -/

/-- What the parameters say, as `Request.value?` has it for a request. -/
def value? (params : Parameters) : Parameter → Option Parameter.Value
  | .term => params.term.map .text
  | .sortBy => params.sortBy.map .text
  | .contentType => params.contentType.map .text
  | .providerName => params.providerName.map .text
  | .creatorName => params.creatorName.map .text
  | .dataCoverageStart => params.dataCoverageStart.map fun year ↦ .number year.toInt
  | .dataCoverageEnd => params.dataCoverageEnd.map fun year ↦ .number year.toInt
  | .publishedStart => params.publishedStart.map fun year ↦ .number year.toInt
  | .publishedEnd => params.publishedEnd.map fun year ↦ .number year.toInt
  | .pageNumber => params.pageNumber.map fun count ↦ .number count.toNat
  | .pageSize => params.pageSize.map fun count ↦ .number count.toNat

theorem value?_empty (parameter : Parameter) : value? {} parameter = none := by
  cases parameter <;> rfl

/-- Parameters that say the same are the same. -/
theorem eq_of_value?_eq {a b : Parameters} (hsame : ∀ p, a.value? p = b.value? p) : a = b := by
  have htext : Function.Injective Parameter.Value.text := fun _ _ ↦ Parameter.Value.text.inj
  have hyear : Function.Injective fun year : Int32 ↦ Parameter.Value.number year.toInt :=
    fun _ _ h ↦ Int32.toInt_inj.mp (Parameter.Value.number.inj h)
  have hcount : Function.Injective fun count : UInt32 ↦ Parameter.Value.number count.toNat :=
    fun _ _ h ↦ UInt32.toNat_inj.mp (Int.ofNat.inj (Parameter.Value.number.inj h))
  cases a
  cases b
  rw [mk.injEq]
  exact ⟨Option.map_injective htext (hsame .term), Option.map_injective htext (hsame .sortBy),
    Option.map_injective htext (hsame .contentType),
    Option.map_injective htext (hsame .providerName),
    Option.map_injective htext (hsame .creatorName),
    Option.map_injective hyear (hsame .dataCoverageStart),
    Option.map_injective hyear (hsame .dataCoverageEnd),
    Option.map_injective hyear (hsame .publishedStart),
    Option.map_injective hyear (hsame .publishedEnd),
    Option.map_injective hcount (hsame .pageNumber),
    Option.map_injective hcount (hsame .pageSize)⟩

/-- These parameters say what the value says, and otherwise what the others say. -/
structure Stores (params others : Parameters) (parameter : Parameter) (value : String) : Prop where
  own : parameter.read value = .ok (params.value? parameter)
  others : ∀ other, other ≠ parameter → params.value? other = others.value? other

/-- The value can be stored, or it cannot be read. -/
def StoresOrFails (params : Parameters) (parameter : Parameter) (value : String) : Prop :=
  (∃ stored, params.set parameter value = .ok stored ∧ stored.Stores params parameter value) ∨
    ∃ fault, params.set parameter value = .error fault ∧ parameter.read value = .error fault

theorem storesOrFails_of_map {α : Type} {params : Parameters} {parameter : Parameter}
    {value : String} {field : Except Fault α} {store : α → Parameters}
    {wrap : α → Option Parameter.Value} (hset : params.set parameter value = field.map store)
    (hread : parameter.read value = field.map wrap)
    (hown : ∀ x, (store x).value? parameter = wrap x)
    (hothers : ∀ x other, other ≠ parameter → (store x).value? other = params.value? other) :
    params.StoresOrFails parameter value := by
  cases field with
  | error fault => exact Or.inr ⟨fault, hset, hread⟩
  | ok x =>
    refine Or.inl ⟨store x, hset, ?_, hothers x⟩
    rw [hown]
    exact hread

theorem set_cases (params : Parameters) (parameter : Parameter) (value : String) :
    params.StoresOrFails parameter value := by
  cases parameter
  case term =>
    refine Or.inl ⟨_, rfl, rfl, fun other hne ↦ ?_⟩
    cases other <;> first | exact absurd rfl hne | rfl
  case sortBy | contentType | providerName | creatorName =>
    refine Or.inl ⟨_, rfl, ?_, fun other hne ↦ ?_⟩
    · rw [Parameter.read_of_text rfl (by decide), value?]
    · cases other <;> first | exact absurd rfl hne | simp only [value?]
  case dataCoverageStart | dataCoverageEnd | publishedStart | publishedEnd =>
    refine storesOrFails_of_map rfl ?_ (fun _ ↦ rfl) fun year other hne ↦ ?_
    · rw [Parameter.read_of_bounds? rfl, ← map_year?_eq]
      rfl
    · cases other <;> first | exact absurd rfl hne | rfl
  case pageNumber | pageSize =>
    refine storesOrFails_of_map rfl ?_ (fun _ ↦ rfl) fun count other hne ↦ ?_
    · rw [Parameter.read_of_bounds? rfl, ← map_count?_eq]
      rfl
    · cases other <;> first | exact absurd rfl hne | rfl

theorem set_eq_error_iff (params : Parameters) (parameter : Parameter) (value : String)
    (fault : Fault) :
    params.set parameter value = .error fault ↔ parameter.read value = .error fault := by
  rcases set_cases params parameter value with ⟨stored, hset, hstores⟩ | ⟨found, hset, hread⟩
  · rw [hset, hstores.own]
    exact iff_of_false nofun nofun
  · rw [hset, hread, Except.error.injEq, Except.error.injEq]

/-! ### requests -/

/-- What a request has of a parameter that is not given. -/
def absentValue? (defaultPageSize : UInt32) : Parameter → Option Parameter.Value
  | .pageNumber => some (.number 1)
  | .pageSize => some (.number defaultPageSize.toNat)
  | _ => none

theorem value?_of_toRequest {params : Parameters} {defaultPageSize : UInt32} {request : Request}
    (hmade : params.toRequest defaultPageSize = .ok request) (parameter : Parameter) :
    request.value? parameter =
      (params.value? parameter).or (absentValue? defaultPageSize parameter) := by
  unfold toRequest at hmade
  cases hterm : params.term with
  | none =>
    rw [hterm] at hmade
    cases hmade
  | some term =>
    rw [hterm] at hmade
    cases hmade
    cases parameter
    case term => simp [Request.value?, value?, hterm]
    case pageNumber =>
      cases hpage : params.pageNumber <;> simp [Request.value?, value?, absentValue?, hpage]
    case pageSize =>
      cases hsize : params.pageSize <;> simp [Request.value?, value?, absentValue?, hsize]
    all_goals exact Option.or_none.symm

end Parameters

end DatasetSearch
