import DatasetSearch.Proofs.Text.Pieces
import DatasetSearch.Proofs.Text.Utf8
import DatasetSearch.Text.Percent

/-!
# Form encoding

The writer beside the reader of form-encoded queries. Letters and digits stand for themselves and
every other byte is escaped, but a space may also be written as a plus sign; which of the two, and
in which case hexadecimal digits are written, is free for each byte (`Spelling`).

`decodeText_encodeText` reads a text back from any of its spellings. `IsFormByte` marks the bytes
that a written value can hold: they are no ampersand, no equals sign and no character that a target
cannot carry, so that pieces joined by ampersands come apart where they were joined
(`decode_joinPieces`).
-/

set_option autoImplicit false
set_option relaxedAutoImplicit false

namespace DatasetSearch.Form

open Text

/-! ### writing -/

structure Spelling where
  /-- Whether a space is written as a plus sign. -/
  plus : Bool := true
  /-- Whether hexadecimal digits beyond nine are written as lower-case letters. -/
  lowerCase : Bool := false

def isLetterOrDigit (b : UInt8) : Bool :=
  (0x30 ≤ b && b ≤ 0x39) || (0x41 ≤ b && b ≤ 0x5A) || (0x61 ≤ b && b ≤ 0x7A)

def hexDigit (lowerCase : Bool) (n : Nat) : UInt8 :=
  UInt8.ofNat (if n < 10 then 0x30 + n else if lowerCase then 0x57 + n else 0x37 + n)

def encodeByte (spelling : Spelling) (b : UInt8) : List UInt8 :=
  if isLetterOrDigit b then [b]
  else if b = 0x20 ∧ spelling.plus then [0x2B]
  else [0x25, hexDigit spelling.lowerCase (b.toNat / 16),
    hexDigit spelling.lowerCase (b.toNat % 16)]

/-- Writes bytes, each in the spelling chosen by how many bytes come behind it. -/
def encodeBytes (spelling : Nat → Spelling) : List UInt8 → List UInt8
  | [] => []
  | b :: rest => encodeByte (spelling rest.length) b ++ encodeBytes spelling rest

def encodeText (spelling : Nat → Spelling) (s : String) : List UInt8 :=
  encodeBytes spelling (Utf8.encode s.toList)

def joinPieces (pieces : List (List UInt8)) : List UInt8 :=
  [0x26].intercalate pieces

/-! ### escapes -/

theorem hexDigit?_hexDigit (lowerCase : Bool) {n : Nat} (hn : n < 16) :
    Numeral.hexDigit? (Char.ofUInt8 (hexDigit lowerCase n)) = some n := by
  have hall : ∀ lowerCase : Bool, ∀ n < 16,
      Numeral.hexDigit? (Char.ofUInt8 (hexDigit lowerCase n)) = some n := by decide
  exact hall lowerCase n hn

theorem isLetterOrDigit_hexDigit (lowerCase : Bool) {n : Nat} (hn : n < 16) :
    isLetterOrDigit (hexDigit lowerCase n) = true := by
  have hall : ∀ lowerCase : Bool, ∀ n < 16,
      isLetterOrDigit (hexDigit lowerCase n) = true := by decide
  exact hall lowerCase n hn

theorem hexNumber?_pair {high low : Char} {m n : Nat}
    (hhigh : Numeral.hexDigit? high = some m) (hlow : Numeral.hexDigit? low = some n) :
    Numeral.hexNumber? [high, low] = some (m * 16 + n) := by
  simp [Numeral.hexNumber?, hhigh, hlow]

/-- The two digits of a byte stand for it. -/
theorem byte?_hexDigits (lowerCase : Bool) (b : UInt8) :
    Percent.byte? (hexDigit lowerCase (b.toNat / 16)) (hexDigit lowerCase (b.toNat % 16)) =
      some b := by
  have hb : b.toNat < 256 := b.toNat_lt
  have hhigh := hexDigit?_hexDigit lowerCase (show b.toNat / 16 < 16 by omega)
  have hlow := hexDigit?_hexDigit lowerCase (show b.toNat % 16 < 16 by omega)
  have hdigits : b.toNat / 16 * 16 + b.toNat % 16 = b.toNat := by omega
  rw [Percent.byte?, hexNumber?_pair hhigh hlow, hdigits, Option.map_some, UInt8.ofNat_toNat]

theorem percentDecode_cons_of_ne {b : UInt8} (hb : b ≠ 0x25) (rest : List UInt8) :
    Percent.decode (b :: rest) = b :: Percent.decode rest := by
  rw [Percent.decode]
  rintro a c tail rfl
  exact absurd rfl hb

theorem percentDecode_escape {high low b : UInt8} (hb : Percent.byte? high low = some b)
    (rest : List UInt8) :
    Percent.decode (0x25 :: high :: low :: rest) = b :: Percent.decode rest := by
  rw [Percent.decode, hb]

/-! ### reading a value back -/

theorem ne_of_isLetterOrDigit {b other : UInt8} (hb : isLetterOrDigit b = true)
    (hother : isLetterOrDigit other = false) : b ≠ other := by
  rintro rfl
  rw [hb] at hother
  cases hother

theorem decodeBytes_cons (b : UInt8) (rest : List UInt8) :
    decodeBytes (b :: rest) =
      Percent.decode ((if b = 0x2B then 0x20 else b) ::
        rest.map fun b ↦ if b = 0x2B then 0x20 else b) :=
  rfl

theorem decodeBytes_cons_of_ne {b : UInt8} (hpercent : b ≠ 0x25) (hplus : b ≠ 0x2B)
    (rest : List UInt8) : decodeBytes (b :: rest) = b :: decodeBytes rest := by
  rw [decodeBytes_cons, if_neg hplus, percentDecode_cons_of_ne hpercent, decodeBytes]

theorem decodeBytes_plus (rest : List UInt8) :
    decodeBytes (0x2B :: rest) = 0x20 :: decodeBytes rest := by
  rw [decodeBytes_cons, if_pos rfl, percentDecode_cons_of_ne (by decide), decodeBytes]

theorem decodeBytes_escape (lowerCase : Bool) (b : UInt8) (rest : List UInt8) :
    decodeBytes (0x25 :: hexDigit lowerCase (b.toNat / 16) ::
      hexDigit lowerCase (b.toNat % 16) :: rest) = b :: decodeBytes rest := by
  have hb : b.toNat < 256 := b.toNat_lt
  have hhigh : b.toNat / 16 < 16 := by omega
  have hlow : b.toNat % 16 < 16 := by omega
  have hplus : ∀ n < 16, hexDigit lowerCase n ≠ 0x2B := fun n hn ↦
    ne_of_isLetterOrDigit (isLetterOrDigit_hexDigit lowerCase hn) rfl
  rw [decodeBytes_cons, if_neg (by decide), List.map_cons, List.map_cons, if_neg (hplus _ hhigh),
    if_neg (hplus _ hlow), percentDecode_escape (byte?_hexDigits lowerCase b), decodeBytes]

theorem decodeBytes_encodeByte (spelling : Spelling) (b : UInt8) (rest : List UInt8) :
    decodeBytes (encodeByte spelling b ++ rest) = b :: decodeBytes rest := by
  unfold encodeByte
  split
  · next hletter =>
    exact decodeBytes_cons_of_ne (ne_of_isLetterOrDigit hletter rfl)
      (ne_of_isLetterOrDigit hletter rfl) rest
  · split
    · next hspace =>
      rw [hspace.1]
      exact decodeBytes_plus rest
    · exact decodeBytes_escape spelling.lowerCase b rest

theorem decodeBytes_encodeBytes (spelling : Nat → Spelling) (bytes : List UInt8) :
    decodeBytes (encodeBytes spelling bytes) = bytes := by
  induction bytes with
  | nil => rfl
  | cons b bytes ih => rw [encodeBytes, decodeBytes_encodeByte, ih]

/-- Every spelling of a text is read as that text. -/
theorem decodeText_encodeText (spelling : Nat → Spelling) (s : String) :
    decodeText (encodeText spelling s) = s := by
  rw [decodeText, encodeText, decodeBytes_encodeBytes, Utf8.decodeLossy_encode,
    String.ofList_toList]

/-- Bytes without plus and percent signs stand for themselves. -/
theorem decodeBytes_of_plain {bytes : List UInt8}
    (hplain : ∀ b ∈ bytes, b ≠ 0x25 ∧ b ≠ 0x2B) : decodeBytes bytes = bytes := by
  induction bytes with
  | nil => rfl
  | cons b bytes ih =>
    have hb := hplain b List.mem_cons_self
    rw [decodeBytes_cons_of_ne hb.1 hb.2,
      ih fun other hother ↦ hplain other (List.mem_cons_of_mem b hother)]

/-! ### bytes of a written value -/

/-- Letters, digits, the minus sign of numerals, and the two signs that spellings use. -/
def isFormByte (b : UInt8) : Bool :=
  isLetterOrDigit b || b == 0x2D || b == 0x2B || b == 0x25

theorem isFormByte_of_isLetterOrDigit {b : UInt8} (hb : isLetterOrDigit b = true) :
    isFormByte b = true := by
  simp [isFormByte, hb]

theorem isFormByte_of_mem_encodeByte {spelling : Spelling} {b written : UInt8}
    (hwritten : written ∈ encodeByte spelling b) : isFormByte written = true := by
  have hb : b.toNat < 256 := b.toNat_lt
  unfold encodeByte at hwritten
  split at hwritten
  · next hletter =>
    rw [List.mem_singleton.mp hwritten]
    exact isFormByte_of_isLetterOrDigit hletter
  · split at hwritten
    · rw [List.mem_singleton.mp hwritten]
      rfl
    · simp only [List.mem_cons, List.not_mem_nil, or_false] at hwritten
      rcases hwritten with rfl | rfl | rfl
      · rfl
      · exact isFormByte_of_isLetterOrDigit (isLetterOrDigit_hexDigit _ (by omega))
      · exact isFormByte_of_isLetterOrDigit (isLetterOrDigit_hexDigit _ (by omega))

theorem isFormByte_of_mem_encodeBytes {spelling : Nat → Spelling} {bytes : List UInt8}
    {written : UInt8} (hwritten : written ∈ encodeBytes spelling bytes) :
    isFormByte written = true := by
  induction bytes with
  | nil => cases hwritten
  | cons b bytes ih =>
    rcases List.mem_append.mp hwritten with hfirst | hrest
    · exact isFormByte_of_mem_encodeByte hfirst
    · exact ih hrest

/-! ### pieces -/

theorem ampersand_not_mem_encode {cs : List Char} (hcs : '&' ∉ cs) :
    0x26 ∉ Text.Utf8.encode cs := by
  intro hmem
  obtain ⟨c, hc, hbyte⟩ := List.mem_flatMap.mp hmem
  have hnat : c.toNat = '&'.toNat := Text.Utf8.toNat_eq_of_mem_utf8EncodeChar (by decide) hbyte
  exact hcs (Char.toNat_inj.mp hnat ▸ hc)

/-- Joined texts are written as their joined bytes. -/
theorem encode_intercalate (texts : List (List Char)) :
    Text.Utf8.encode (['&'].intercalate texts) = joinPieces (texts.map Text.Utf8.encode) := by
  induction texts with
  | nil => rfl
  | cons first texts ih =>
    cases texts with
    | nil => simp [joinPieces]
    | cons other texts =>
      rw [List.intercalate_cons_cons, List.map_cons, List.map_cons, joinPieces,
        List.intercalate_cons_cons, ← List.map_cons, ← joinPieces, ← ih]
      simp only [Text.Utf8.encode, List.flatMap_append]
      rfl

/-- The pieces of a text are the pieces of its bytes. -/
theorem splitOn_encode (cs : List Char) :
    (Text.Utf8.encode cs).splitOn 0x26 = (cs.splitOn '&').map Text.Utf8.encode := by
  have hpieces : ∀ piece ∈ (cs.splitOn '&').map Text.Utf8.encode, 0x26 ∉ piece := by
    intro piece hpiece
    obtain ⟨text, htext, rfl⟩ := List.mem_map.mp hpiece
    exact ampersand_not_mem_encode (not_mem_of_mem_splitOn htext)
  have hne : (cs.splitOn '&').map Text.Utf8.encode ≠ [] := fun hnil ↦
    List.splitOn_ne_nil '&' cs (List.map_eq_nil_iff.mp hnil)
  calc (Text.Utf8.encode cs).splitOn 0x26
      = (Text.Utf8.encode (['&'].intercalate (cs.splitOn '&'))).splitOn 0x26 := by
        rw [List.intercalate_splitOn]
    _ = (joinPieces ((cs.splitOn '&').map Text.Utf8.encode)).splitOn 0x26 := by
        rw [encode_intercalate]
    _ = (cs.splitOn '&').map Text.Utf8.encode := List.splitOn_intercalate 0x26 hpieces hne

/-- What comes of joining is in one of the pieces or an ampersand. -/
theorem mem_joinPieces {pieces : List (List UInt8)} {b : UInt8} (hb : b ∈ joinPieces pieces) :
    b = 0x26 ∨ ∃ piece ∈ pieces, b ∈ piece := by
  induction pieces with
  | nil => cases hb
  | cons piece pieces ih =>
    cases pieces with
    | nil =>
      rw [joinPieces, List.intercalate_singleton] at hb
      exact Or.inr ⟨piece, List.mem_cons_self, hb⟩
    | cons other pieces =>
      rw [joinPieces, List.intercalate_cons_cons, ← joinPieces, List.mem_append,
        List.mem_append, List.mem_singleton] at hb
      rcases hb with (hpiece | hsep) | hrest
      · exact Or.inr ⟨piece, List.mem_cons_self, hpiece⟩
      · exact Or.inl hsep
      · refine (ih hrest).imp_right ?_
        rintro ⟨p, hp, hmem⟩
        exact ⟨p, List.mem_cons_of_mem piece hp, hmem⟩

/-- Joined pieces come apart where they were joined. -/
theorem decode_joinPieces {pieces : List (List UInt8)} (hne : ∀ piece ∈ pieces, piece ≠ [])
    (hpieces : ∀ piece ∈ pieces, 0x26 ∉ piece) :
    decode (joinPieces pieces) = pieces.map decodePiece := by
  by_cases hempty : pieces = []
  · subst hempty
    rfl
  · have hkeep : pieces.filter (!·.isEmpty) = pieces := by
      refine List.filter_eq_self.mpr fun piece hpiece ↦ ?_
      simpa using hne piece hpiece
    rw [decode, joinPieces, List.splitOn_intercalate 0x26 hpieces hempty, hkeep]

/-- The name of a piece ends at the first equals sign. -/
theorem decodePiece_append {name : List UInt8} (hname : 0x3D ∉ name) (value : List UInt8) :
    decodePiece (name ++ 0x3D :: value) = (decodeText name, decodeText value) := by
  have hkeep : ∀ b ∈ name, (b != 0x3D) = true := fun b hb ↦
    bne_iff_ne.mpr fun heq ↦ hname (heq ▸ hb)
  rw [decodePiece, List.takeWhile_append_of_pos hkeep, List.dropWhile_append_of_pos hkeep]
  simp

end DatasetSearch.Form
