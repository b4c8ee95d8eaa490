import DatasetSearch.Text.Numeral
import DatasetSearch.Text.Utf8

/-!
Bytes written as a percent sign and two hexadecimal digits. A percent sign without two digits
behind it stands for itself.

Form-encoded queries are made of such bytes: pieces joined by ampersands, each a name and a value
joined by the first equals sign. A plus sign stands for a space there, and bytes that are no text
are replaced.
-/

set_option autoImplicit false
set_option relaxedAutoImplicit false

namespace DatasetSearch

namespace Text.Percent

/-- The byte that two digits stand for. -/
def byte? (high low : UInt8) : Option UInt8 :=
  (Numeral.hexNumber? [Char.ofUInt8 high, Char.ofUInt8 low]).map UInt8.ofNat

def decode : List UInt8 → List UInt8
  | [] => []
  | 0x25 :: high :: low :: rest =>
    match byte? high low with
    | some b => b :: decode rest
    | none => 0x25 :: decode (high :: low :: rest)
  | b :: rest => b :: decode rest

/-- Whether every percent sign has two digits behind it. -/
def isClean : List UInt8 → Bool
  | [] => true
  | 0x25 :: high :: low :: rest => (byte? high low).isSome && isClean (high :: low :: rest)
  | b :: rest => b != 0x25 && isClean rest

end Text.Percent

/-! ### form-encoded queries -/

namespace Form

def decodeBytes (bytes : List UInt8) : List UInt8 :=
  Text.Percent.decode (bytes.map fun b ↦ if b = 0x2B then 0x20 else b)

def decodeText (bytes : List UInt8) : String :=
  String.ofList (Text.Utf8.decodeLossy (decodeBytes bytes))

/-- Without an equals sign the whole piece is the name. -/
def decodePiece (piece : List UInt8) : String × String :=
  (decodeText (piece.takeWhile (· != 0x3D)), decodeText ((piece.dropWhile (· != 0x3D)).drop 1))

/-- The pieces between the ampersands, as long as there is something in them. -/
def decode (bytes : List UInt8) : List (String × String) :=
  ((bytes.splitOn 0x26).filter (!·.isEmpty)).map decodePiece

end Form

end DatasetSearch
