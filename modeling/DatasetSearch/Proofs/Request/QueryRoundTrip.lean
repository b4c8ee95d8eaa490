import DatasetSearch.Proofs.Request.QueryText
import Mathlib.Tactic.ByContra

/-!
# Reading a written request back

The pieces of a written query are read one by one. The invariant of the reading is a request cut
down to some of its parameters: `request.parameters given` holds the fields of the request that are
among `given`, and nothing else. One step adds the parameter that is read (`set_parameters`), a
parameter that the request does not have adds nothing (`parameters_cons_of_absent`), and so the
whole reading ends with all parameters of the order (`readFrom_pieces`). What the order leaves out
is absent or what the reader fills in, hence `toRequest_parameters` is the request itself.

`toRequest_parse?_target` puts this together from the target on.
-/

set_option autoImplicit false
set_option relaxedAutoImplicit false

namespace DatasetSearch

open Text

/-! ### values -/

theorem Parameter.ofName?_name (parameter : Parameter) :
    ofName? parameter.name = some parameter := by
  cases parameter <;> decide

namespace Parameters

theorem present?_of_isTrimmed {s : String} (hs : IsTrimmed s) : present? s = some s := by
  rw [present?, trim_of_isTrimmed hs, if_neg (by simpa using hs.1)]

theorem isTrimmed_ofInt (n : Int) : IsTrimmed (String.ofList (Numeral.ofInt n)) := by
  apply isTrimmed_of_all_not_space
  · intro hempty
    exact Numeral.ofInt_ne_nil n (by simpa using congrArg String.toList hempty)
  · intro c hc
    rw [String.toList_ofList] at hc
    rcases Numeral.mem_ofInt hc with hdigit | rfl
    · obtain ⟨hleast, hgreatest⟩ := Numeral.toNat_of_isDigit hdigit
      simp [isSpace]
      omega
    · decide

theorem number?_ofInt {bounds : Numeral.Bounds} (hzero : bounds.Holds 0) {n : Int}
    (hn : bounds.Holds n) :
    number? bounds (String.ofList (Numeral.ofInt n)) = .ok (some n) := by
  rw [number?, present?_of_isTrimmed (isTrimmed_ofInt n)]
  dsimp only
  rw [String.toList_ofList, Numeral.read_ofInt hzero hn]

theorem year?_toInt (year : Int32) :
    year? (String.ofList (Numeral.ofInt year.toInt)) = .ok (some year) := by
  have hholds : (Numeral.Bounds.signed 32).Holds year.toInt := by
    have hleast := year.le_toInt
    have hgreatest := year.toInt_lt
    simp only [Numeral.Bounds.signed, Numeral.Bounds.Holds]
    omega
  rw [year?, number?_ofInt (by decide) hholds]
  simp [Except.map]

theorem count?_toNat (count : UInt32) :
    count? (String.ofList (Numeral.ofInt count.toNat)) = .ok (some count) := by
  have hholds : (Numeral.Bounds.unsigned 32).Holds count.toNat := by
    have hgreatest := count.toNat_lt
    simp only [Numeral.Bounds.unsigned, Numeral.Bounds.Holds]
    omega
  rw [count?, number?_ofInt (by decide) hholds]
  simp [Except.map]

end Parameters

/-! ### reading a query -/

namespace Request

/-- The request as far as it is told by the given parameters. -/
def parameters (request : Request) (given : List Parameter) : Parameters where
  term := if .term ∈ given then some request.term else none
  sortBy := if .sortBy ∈ given then request.sortBy else none
  contentType := if .contentType ∈ given then request.contentType else none
  providerName := if .providerName ∈ given then request.providerName else none
  creatorName := if .creatorName ∈ given then request.creatorName else none
  dataCoverageStart := if .dataCoverageStart ∈ given then request.dataCoverageStart else none
  dataCoverageEnd := if .dataCoverageEnd ∈ given then request.dataCoverageEnd else none
  publishedStart := if .publishedStart ∈ given then request.publishedStart else none
  publishedEnd := if .publishedEnd ∈ given then request.publishedEnd else none
  pageNumber := if .pageNumber ∈ given then some request.pageNumber else none
  pageSize := if .pageSize ∈ given then some request.pageSize else none

variable (request : Request) (given : List Parameter)

theorem parameters_cons_of_absent {parameter : Parameter}
    (habsent : request.value? parameter = none) :
    request.parameters (parameter :: given) = request.parameters given := by
  cases parameter <;> simp_all [value?, parameters]

theorem IsTrimmed.texts {request : Request} (htrimmed : request.IsTrimmed) :
    ∀ field ∈ [request.sortBy, request.contentType, request.providerName, request.creatorName],
      ∀ s ∈ field, Text.IsTrimmed s := by
  rw [List.forall_mem_cons, List.forall_mem_cons, List.forall_mem_cons, List.forall_mem_singleton]
  exact ⟨htrimmed.sortBy, htrimmed.contentType, htrimmed.providerName, htrimmed.creatorName⟩

/-- Reading one written value adds its parameter. The cases are those of the reader: the term is
taken as it is, the other texts are trimmed first, and numbers are read as years or as counts. -/
theorem set_parameters (htrimmed : request.IsTrimmed) {parameter : Parameter}
    {value : Parameter.Value} (hvalue : request.value? parameter = some value) :
    (request.parameters given).set parameter value.plain =
      .ok (request.parameters (parameter :: given)) := by
  cases parameter
  case term =>
    cases hvalue
    simp [Parameters.set, parameters, Parameter.Value.plain]
  case sortBy | contentType | providerName | creatorName =>
    obtain ⟨s, hs, rfl⟩ := Option.map_eq_some_iff.mp hvalue
    have hpresent := Parameters.present?_of_isTrimmed (htrimmed.texts _ (by simp) s hs)
    simp [Parameters.set, parameters, Parameter.Value.plain, hpresent, hs]
  case dataCoverageStart | dataCoverageEnd | publishedStart | publishedEnd =>
    obtain ⟨year, hyear, rfl⟩ := Option.map_eq_some_iff.mp hvalue
    have hread := Parameters.year?_toInt year
    simp [Parameters.set, parameters, Parameter.Value.plain, hread, hyear, Except.map]
  case pageNumber =>
    cases hvalue
    have hread := Parameters.count?_toNat request.pageNumber
    simp [Parameters.set, parameters, Parameter.Value.plain, hread, Except.map]
  case pageSize =>
    cases hvalue
    have hread := Parameters.count?_toNat request.pageSize
    simp [Parameters.set, parameters, Parameter.Value.plain, hread, Except.map]

/-- Pieces of parameters that are not read yet are added one by one. What has been read may be less
than what is given, by parameters that the request does not have. -/
theorem readFrom_pieces (htrimmed : request.IsTrimmed) {order : List Parameter}
    (hnodup : order.Nodup) (given seen : List Parameter) (hfresh : ∀ p ∈ order, p ∉ given)
    (hseen : ∀ p ∈ seen, p ∈ given) :
    Parameters.readFrom seen (request.parameters given)
        (order.filterMap fun parameter ↦
          (request.value? parameter).map fun value ↦ (parameter.name, value.plain)) =
      .ok (request.parameters (order.reverse ++ given)) := by
  induction order generalizing given seen with
  | nil => rfl
  | cons parameter order ih =>
    obtain ⟨hnew, hrest⟩ := List.nodup_cons.mp hnodup
    have hgiven : parameter ∉ given := hfresh parameter List.mem_cons_self
    have hfresh' : ∀ p ∈ order, p ∉ parameter :: given := by
      intro p hp hmem
      rcases List.mem_cons.mp hmem with rfl | hold
      · exact hnew hp
      · exact hfresh p (List.mem_cons_of_mem parameter hp) hold
    rw [List.filterMap_cons, List.reverse_cons, List.append_assoc, List.singleton_append]
    cases hvalue : request.value? parameter with
    | none =>
      rw [Option.map_none, ← parameters_cons_of_absent request given hvalue]
      exact ih hrest _ seen hfresh' fun p hp ↦ List.mem_cons_of_mem parameter (hseen p hp)
    | some value =>
      have hunread : parameter ∉ seen := fun hmem ↦ hgiven (hseen parameter hmem)
      have hread := ih hrest (parameter :: given) (parameter :: seen) hfresh' fun p hp ↦ by
        rcases List.mem_cons.mp hp with rfl | hold
        · exact List.mem_cons_self
        · exact List.mem_cons_of_mem parameter (hseen p hold)
      rw [Option.map_some]
      dsimp only
      rw [Parameters.readFrom, Parameter.ofName?_name]
      dsimp only
      rw [if_neg hunread, set_parameters request given htrimmed hvalue]
      exact hread

/-! ### the request again -/

variable {request given} {defaultPageSize : UInt32}

section Told

variable (htold : request.IsToldBy defaultPageSize given)

include htold

theorem term_mem_of_isToldBy : .term ∈ given := by
  by_contra hmem
  rcases htold _ hmem with hnone | ⟨heq, -⟩ | ⟨heq, -⟩
  · cases hnone
  · cases heq
  · cases heq

/-- An optional field that is left out is absent. -/
theorem ite_mem_eq {α : Type} (parameter : Parameter) {field : Option α}
    (wrap : α → Parameter.Value) (hvalue : request.value? parameter = field.map wrap)
    (hnumber : parameter ≠ .pageNumber) (hsize : parameter ≠ .pageSize) :
    (if parameter ∈ given then field else none) = field := by
  split
  · rfl
  · next hmem =>
    rcases htold parameter hmem with hnone | ⟨heq, -⟩ | ⟨heq, -⟩
    · rw [hvalue] at hnone
      exact (Option.map_eq_none_iff.mp hnone).symm
    · exact absurd heq hnumber
    · exact absurd heq hsize

theorem pageNumber_getD_eq :
    (if .pageNumber ∈ given then some request.pageNumber else none).getD 1 =
      request.pageNumber := by
  split
  · rfl
  · next hmem =>
    rcases htold _ hmem with hnone | ⟨-, hone⟩ | ⟨heq, -⟩
    · cases hnone
    · exact hone.symm
    · cases heq

theorem pageSize_getD_eq :
    (if .pageSize ∈ given then some request.pageSize else none).getD defaultPageSize =
      request.pageSize := by
  split
  · rfl
  · next hmem =>
    rcases htold _ hmem with hnone | ⟨heq, -⟩ | ⟨-, hdefault⟩
    · cases hnone
    · cases heq
    · exact hdefault.symm

theorem toRequest_parameters :
    (request.parameters given).toRequest defaultPageSize = .ok request := by
  have hterm := term_mem_of_isToldBy htold
  have hsort := ite_mem_eq htold .sortBy .text rfl nofun nofun
  have htype := ite_mem_eq htold .contentType .text rfl nofun nofun
  have hprovider := ite_mem_eq htold .providerName .text rfl nofun nofun
  have hcreator := ite_mem_eq htold .creatorName .text rfl nofun nofun
  have hcoverageStart := ite_mem_eq htold .dataCoverageStart _ rfl nofun nofun
  have hcoverageEnd := ite_mem_eq htold .dataCoverageEnd _ rfl nofun nofun
  have hpublishedStart := ite_mem_eq htold .publishedStart _ rfl nofun nofun
  have hpublishedEnd := ite_mem_eq htold .publishedEnd _ rfl nofun nofun
  simp only [Parameters.toRequest, parameters, if_pos hterm, hsort, htype, hprovider, hcreator,
    hcoverageStart, hcoverageEnd, hpublishedStart, hpublishedEnd, pageNumber_getD_eq htold,
    pageSize_getD_eq htold]

end Told

/-- Decoding a written request gives the request back, whatever the order of its parameters, the
spelling of its texts, and whether the values that the reader fills in are written or not. -/
theorem toRequest_parse?_target (request : Request) (htrimmed : request.IsTrimmed)
    (defaultPageSize : UInt32) (order : List Parameter)
    (horder : request.IsWritingOrder defaultPageSize order)
    (spelling : Parameter → Nat → Form.Spelling)
    (hlength : (request.target order spelling).utf8ByteSize ≤ Uri.greatestLength) :
    ∃ uri params, Uri.parse? (request.target order spelling) = some uri ∧ uri.path = "/search" ∧
      Parameters.ofQuery uri.query = .ok params ∧
      params.toRequest defaultPageSize = .ok request := by
  refine ⟨_, request.parameters order.reverse, parse?_target request order spelling hlength, rfl,
    ?_, ?_⟩
  · have hread := readFrom_pieces request htrimmed horder.nodup [] [] (by simp) (by simp)
    rw [List.append_nil] at hread
    rw [Parameters.ofQuery, Option.getD_some, decode_query]
    exact hread
  · refine toRequest_parameters fun parameter hmem ↦ horder.told parameter fun hin ↦ hmem ?_
    exact List.mem_reverse.mpr hin

/-- A request whose texts hold the separators of queries and characters of up to four bytes. -/
def separators : Request where
  term := " a&b=c+d%é☃😀"
  creatorName := some "Müller & Söhne"
  publishedEnd := some (-5)
  pageSize := 25

/-- Spaces are written as plus signs in the term and escaped elsewhere. -/
def separatorsSpelling (parameter : Parameter) (_ : Nat) : Form.Spelling where
  plus := parameter = .term
  lowerCase := parameter = .creatorName

/-- The page number of one and the default page size are left out here. -/
theorem toRequest_parse?_target_separators :
    separators.IsTrimmed ∧ separators.IsWritingOrder 25 [.publishedEnd, .creatorName, .term] ∧
      separators.target [.publishedEnd, .creatorName, .term] separatorsSpelling =
        "/search?publishedEnd=-5&creatorName=M%c3%bcller%20%26%20S%c3%b6hne" ++
          "&term=+a%26b%3Dc%2Bd%25%C3%A9%E2%98%83%F0%9F%98%80" ∧
      ∃ uri params, Uri.parse? (separators.target [.publishedEnd, .creatorName, .term]
          separatorsSpelling) = some uri ∧ uri.path = "/search" ∧
        Parameters.ofQuery uri.query = .ok params ∧ params.toRequest 25 = .ok separators := by
  have htrimmed : separators.IsTrimmed := by
    constructor <;> intro s hs <;> cases hs
    refine ⟨by decide, ?_⟩
    rintro c (hc | hc) <;> cases hc <;> decide
  have horder : separators.IsWritingOrder 25 [.publishedEnd, .creatorName, .term] := by
    refine ⟨by decide, fun parameter ↦ ?_⟩
    cases parameter <;> decide
  have htarget : separators.target [.publishedEnd, .creatorName, .term] separatorsSpelling =
      "/search?publishedEnd=-5&creatorName=M%c3%bcller%20%26%20S%c3%b6hne" ++
        "&term=+a%26b%3Dc%2Bd%25%C3%A9%E2%98%83%F0%9F%98%80" := by
    decide +kernel
  have hlength : (separators.target [.publishedEnd, .creatorName, .term]
      separatorsSpelling).utf8ByteSize ≤ Uri.greatestLength := by
    rw [htarget]
    decide +kernel
  exact ⟨htrimmed, horder, htarget,
    toRequest_parse?_target separators htrimmed 25 _ horder separatorsSpelling hlength⟩

end Request

end DatasetSearch
