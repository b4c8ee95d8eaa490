import DatasetSearch.Proofs.Form.Encoding
import DatasetSearch.Proofs.Text.Numeral
import DatasetSearch.Proofs.Text.Space
import DatasetSearch.Request.Parameters
import DatasetSearch.Uri
import Mathlib.Data.List.TakeWhile

/-!
# Requests written as query strings

A request is written as one piece for each parameter that it has: the parameter's name, an equals
sign and the value, a text in some spelling or a number in decimal. The order of the pieces is
free, and a page number or size may be left out where the reader fills in the same one
(`IsWritingOrder`).

Names and values hold form bytes only (`isFormByte_of_mem_encode`). A query is therefore a text that
a target can carry (`parse?_target`), and it comes apart into names and plain values
(`decode_query`).
-/

set_option autoImplicit false
set_option relaxedAutoImplicit false

namespace DatasetSearch

open Text

/-! ### writing -/

/-- A parameter's value before it is written. -/
inductive Parameter.Value where
  | text (s : String)
  | number (n : Int)
  deriving DecidableEq, Repr

namespace Parameter.Value

/-- The text that a reader of the query sees. -/
def plain : Value → String
  | text s => s
  | number n => String.ofList (Numeral.ofInt n)

def encode (spelling : Nat → Form.Spelling) : Value → List UInt8
  | text s => Form.encodeText spelling s
  | number n => Utf8.encode (Numeral.ofInt n)

end Parameter.Value

namespace Request

/-- What a request says about a parameter. It always has a term, a page number and a page size. -/
def value? (request : Request) : Parameter → Option Parameter.Value
  | .term => some (.text request.term)
  | .sortBy => request.sortBy.map .text
  | .contentType => request.contentType.map .text
  | .providerName => request.providerName.map .text
  | .creatorName => request.creatorName.map .text
  | .dataCoverageStart => request.dataCoverageStart.map fun year ↦ .number year.toInt
  | .dataCoverageEnd => request.dataCoverageEnd.map fun year ↦ .number year.toInt
  | .publishedStart => request.publishedStart.map fun year ↦ .number year.toInt
  | .publishedEnd => request.publishedEnd.map fun year ↦ .number year.toInt
  | .pageNumber => some (.number request.pageNumber.toNat)
  | .pageSize => some (.number request.pageSize.toNat)

/-- Texts that reading would trim or take for absent are not among the optional ones. -/
structure IsTrimmed (request : Request) : Prop where
  sortBy : ∀ s ∈ request.sortBy, Text.IsTrimmed s
  contentType : ∀ s ∈ request.contentType, Text.IsTrimmed s
  providerName : ∀ s ∈ request.providerName, Text.IsTrimmed s
  creatorName : ∀ s ∈ request.creatorName, Text.IsTrimmed s

/-- The given parameters are all that the request has, but for a page number of one and a page size
that is the default. -/
def IsToldBy (request : Request) (defaultPageSize : UInt32) (given : List Parameter) : Prop :=
  ∀ parameter, parameter ∉ given → request.value? parameter = none ∨
    (parameter = .pageNumber ∧ request.pageNumber = 1) ∨
    (parameter = .pageSize ∧ request.pageSize = defaultPageSize)

/-- Which parameters are written, and in which order: each at most once, and enough of them. -/
structure IsWritingOrder (request : Request) (defaultPageSize : UInt32)
    (order : List Parameter) : Prop where
  nodup : order.Nodup
  told : request.IsToldBy defaultPageSize order

def piece (parameter : Parameter) (spelling : Nat → Form.Spelling) (value : Parameter.Value) :
    List UInt8 :=
  Utf8.encode parameter.name.toList ++ 0x3D :: value.encode spelling

def pieces (request : Request) (order : List Parameter)
    (spelling : Parameter → Nat → Form.Spelling) : List (List UInt8) :=
  order.filterMap fun parameter ↦
    (request.value? parameter).map (piece parameter (spelling parameter))

/-- The query string with the given parameters, all of it in ASCII. -/
def query (request : Request) (order : List Parameter)
    (spelling : Parameter → Nat → Form.Spelling) : String :=
  String.ofList (Utf8.ofBytes (Form.joinPieces (request.pieces order spelling)))

def target (request : Request) (order : List Parameter)
    (spelling : Parameter → Nat → Form.Spelling) : String :=
  "/search?" ++ request.query order spelling

end Request

/-! ### the bytes of a piece -/

theorem Parameter.isLetterOrDigit_of_mem_name (parameter : Parameter) :
    ∀ b ∈ Utf8.encode parameter.name.toList, Form.isLetterOrDigit b = true := by
  have hall : (Utf8.encode parameter.name.toList).all Form.isLetterOrDigit = true := by
    cases parameter <;> rfl
  exact List.all_eq_true.mp hall

theorem Text.Numeral.mem_encode_ofInt {n : Int} {b : UInt8}
    (hb : b ∈ Utf8.encode (Numeral.ofInt n)) : Form.isLetterOrDigit b = true ∨ b = 0x2D := by
  obtain ⟨c, hc, hbyte⟩ := List.mem_flatMap.mp hb
  rcases mem_ofInt hc with hdigit | rfl
  · left
    obtain ⟨hleast, hgreatest⟩ := toNat_of_isDigit hdigit
    rw [Utf8.utf8EncodeChar_of_lt (by omega), List.mem_singleton] at hbyte
    have hnat : b.toNat = c.toNat := by rw [hbyte, Utf8.toNat_ofNat_of_lt (by omega)]
    simp [Form.isLetterOrDigit, UInt8.le_iff_toNat_le, hnat, hleast, hgreatest]
  · right
    exact List.mem_singleton.mp hbyte

theorem Parameter.Value.isFormByte_of_mem_encode (value : Value)
    (spelling : Nat → Form.Spelling) :
    ∀ b ∈ value.encode spelling, Form.isFormByte b = true := by
  intro b hb
  cases value with
  | text s => exact Form.isFormByte_of_mem_encodeBytes hb
  | number n =>
    rcases Numeral.mem_encode_ofInt hb with hletter | rfl
    · exact Form.isFormByte_of_isLetterOrDigit hletter
    · rfl

theorem Parameter.Value.decodeText_encode (value : Value) (spelling : Nat → Form.Spelling) :
    Form.decodeText (value.encode spelling) = value.plain := by
  cases value with
  | text s => exact Form.decodeText_encodeText spelling s
  | number n =>
    have hplain : ∀ b ∈ Utf8.encode (Numeral.ofInt n), b ≠ 0x25 ∧ b ≠ 0x2B := by
      intro b hb
      rcases Numeral.mem_encode_ofInt hb with hletter | rfl
      · exact ⟨Form.ne_of_isLetterOrDigit hletter rfl, Form.ne_of_isLetterOrDigit hletter rfl⟩
      · decide
    rw [encode, Form.decodeText, Form.decodeBytes_of_plain hplain, Utf8.decodeLossy_encode, plain]

namespace Request

theorem decodePiece_piece (parameter : Parameter) (spelling : Nat → Form.Spelling)
    (value : Parameter.Value) :
    Form.decodePiece (piece parameter spelling value) = (parameter.name, value.plain) := by
  have hletters := parameter.isLetterOrDigit_of_mem_name
  have hequals : 0x3D ∉ Utf8.encode parameter.name.toList := fun hmem ↦
    Form.ne_of_isLetterOrDigit (hletters _ hmem) rfl rfl
  have hplain : ∀ b ∈ Utf8.encode parameter.name.toList, b ≠ 0x25 ∧ b ≠ 0x2B := fun b hb ↦
    ⟨Form.ne_of_isLetterOrDigit (hletters b hb) rfl, Form.ne_of_isLetterOrDigit (hletters b hb) rfl⟩
  rw [piece, Form.decodePiece_append hequals, value.decodeText_encode, Form.decodeText,
    Form.decodeBytes_of_plain hplain, Utf8.decodeLossy_encode, String.ofList_toList]

/-- A piece holds form bytes and the equals sign. -/
theorem mem_piece {parameter : Parameter} {spelling : Nat → Form.Spelling}
    {value : Parameter.Value} {b : UInt8} (hb : b ∈ piece parameter spelling value) :
    Form.isFormByte b = true ∨ b = 0x3D := by
  rcases List.mem_append.mp hb with hname | hrest
  · have hletter := parameter.isLetterOrDigit_of_mem_name b hname
    exact Or.inl (Form.isFormByte_of_isLetterOrDigit hletter)
  · rcases List.mem_cons.mp hrest with rfl | hvalue
    · exact Or.inr rfl
    · exact Or.inl (value.isFormByte_of_mem_encode spelling b hvalue)

theorem piece_ne_nil (parameter : Parameter) (spelling : Nat → Form.Spelling)
    (value : Parameter.Value) : piece parameter spelling value ≠ [] := by
  simp [piece]

theorem not_mem_piece (parameter : Parameter) (spelling : Nat → Form.Spelling)
    (value : Parameter.Value) : 0x26 ∉ piece parameter spelling value := by
  intro hmem
  rcases mem_piece hmem with hform | hequals
  · cases hform
  · cases hequals

/-! ### the query as a text -/

variable (request : Request) (order : List Parameter) (spelling : Parameter → Nat → Form.Spelling)

theorem mem_pieces {bytes : List UInt8} (hbytes : bytes ∈ request.pieces order spelling) :
    ∃ parameter value, bytes = piece parameter (spelling parameter) value := by
  obtain ⟨parameter, -, hpiece⟩ := List.mem_filterMap.mp hbytes
  obtain ⟨value, -, rfl⟩ := Option.map_eq_some_iff.mp hpiece
  exact ⟨parameter, value, rfl⟩

/-- What a query is made of. -/
def isQueryByte (b : UInt8) : Bool :=
  Form.isFormByte b || b == 0x3D || b == 0x26

theorem isQueryByte_of_mem_joinPieces :
    ∀ b ∈ Form.joinPieces (request.pieces order spelling), isQueryByte b = true := by
  intro b hb
  rcases Form.mem_joinPieces hb with rfl | ⟨bytes, hbytes, hmem⟩
  · rfl
  · obtain ⟨parameter, value, rfl⟩ := mem_pieces request order spelling hbytes
    rcases mem_piece hmem with hform | rfl
    · simp [isQueryByte, hform]
    · rfl

/-- A query byte is an ASCII character that a target can carry and that does not end the query. -/
theorem isQueryByte_spec {b : UInt8} (hb : isQueryByte b = true) :
    b < 0x80 ∧ Uri.isQueryChar (Char.ofNat b.toNat) = true ∧ Char.ofNat b.toNat ≠ '#' := by
  have hall : ∀ n < 256, isQueryByte (UInt8.ofNat n) = true →
      n < 0x80 ∧ Uri.isQueryChar (Char.ofNat n) = true ∧ Char.ofNat n ≠ '#' := by
    decide +kernel
  have hspec := hall b.toNat b.toNat_lt
  rw [UInt8.ofNat_toNat] at hspec
  exact hspec hb

theorem encode_query :
    Utf8.encode (request.query order spelling).toList =
      Form.joinPieces (request.pieces order spelling) := by
  rw [query, String.toList_ofList]
  exact Utf8.encode_ofBytes fun b hb ↦
    (isQueryByte_spec (isQueryByte_of_mem_joinPieces request order spelling b hb)).1

/-- The names and plain values that a query comes apart into. -/
theorem decode_query :
    Form.decode (Utf8.encode (request.query order spelling).toList) =
      order.filterMap fun parameter ↦
        (request.value? parameter).map fun value ↦ (parameter.name, value.plain) := by
  have hne : ∀ bytes ∈ request.pieces order spelling, bytes ≠ [] := by
    intro bytes hbytes
    obtain ⟨parameter, value, rfl⟩ := mem_pieces request order spelling hbytes
    exact piece_ne_nil parameter _ value
  have hsep : ∀ bytes ∈ request.pieces order spelling, 0x26 ∉ bytes := by
    intro bytes hbytes
    obtain ⟨parameter, value, rfl⟩ := mem_pieces request order spelling hbytes
    exact not_mem_piece parameter _ value
  rw [encode_query, Form.decode_joinPieces hne hsep, pieces, List.map_filterMap]
  simp only [Option.map_map, Function.comp_def, decodePiece_piece]

/-! ### the target -/

theorem mem_query {c : Char} (hc : c ∈ (request.query order spelling).toList) :
    Uri.isQueryChar c = true ∧ c ≠ '#' := by
  rw [query, String.toList_ofList] at hc
  obtain ⟨b, hb, rfl⟩ := List.mem_map.mp hc
  exact (isQueryByte_spec (isQueryByte_of_mem_joinPieces request order spelling b hb)).2

/-- Path and query are kept apart by the first question mark. -/
theorem ofPathAndQuery?_append {path query : List Char} (hne : path ≠ [])
    (hpath : ∀ c ∈ path, Uri.isPathChar c = true ∧ c ≠ '?' ∧ c ≠ '#')
    (hquery : ∀ c ∈ query, Uri.isQueryChar c = true ∧ c ≠ '#') :
    Uri.ofPathAndQuery? (path ++ '?' :: query) =
      some ⟨String.ofList path, some (String.ofList query)⟩ := by
  have hwhole : Uri.withoutFragment (path ++ '?' :: query) = path ++ '?' :: query := by
    refine List.takeWhile_eq_self_iff.mpr fun c hc ↦ bne_iff_ne.mpr ?_
    rcases List.mem_append.mp hc with hfront | hback
    · exact (hpath c hfront).2.2
    · rcases List.mem_cons.mp hback with rfl | hrest
      · decide
      · exact (hquery c hrest).2
  have hmark : ∀ c ∈ path, (c != '?') = true := fun c hc ↦ bne_iff_ne.mpr (hpath c hc).2.1
  have hpathChars : path.all Uri.isPathChar = true :=
    List.all_eq_true.mpr fun c hc ↦ (hpath c hc).1
  have hqueryChars : query.all Uri.isQueryChar = true :=
    List.all_eq_true.mpr fun c hc ↦ (hquery c hc).1
  have htake : (path ++ '?' :: query).takeWhile (· != '?') = path := by
    rw [List.takeWhile_append_of_pos hmark]
    simp
  have hdrop : (path ++ '?' :: query).dropWhile (· != '?') = '?' :: query := by
    rw [List.dropWhile_append_of_pos hmark]
    simp
  rw [Uri.ofPathAndQuery?, hwhole, htake, hdrop, if_pos hpathChars]
  dsimp only
  rw [if_pos hqueryChars, if_neg (by simpa using hne)]

/-- A written target is carried as it is: its path and its query come back. -/
theorem parse?_target
    (hlength : (request.target order spelling).utf8ByteSize ≤ Uri.greatestLength) :
    Uri.parse? (request.target order spelling) =
      some ⟨"/search", some (request.query order spelling)⟩ := by
  have hchars : (request.target order spelling).toList =
      "/search".toList ++ '?' :: (request.query order spelling).toList := by
    rw [target, String.toList_append]
    rfl
  have hpath : ∀ c ∈ "/search".toList, Uri.isPathChar c = true ∧ c ≠ '?' ∧ c ≠ '#' := by
    simp [Uri.isPathChar]
  have hparts := ofPathAndQuery?_append (by decide) hpath fun c ↦ mem_query request order spelling
  rw [Uri.parse?, if_neg (Nat.not_lt.mpr hlength)]
  rw [hchars]
  rw [String.ofList_toList, String.ofList_toList] at hparts
  exact hparts

end Request

end DatasetSearch
