import DatasetSearch.Binary64.Shortest
import DatasetSearch.Json.Basic

/-!
The compact text of a JSON value: no blanks, fields in their order, floating-point numbers by their
shortest digits. In strings the quote, the backslash and the characters below the space are
escaped, and every other character stands for itself.
-/

set_option autoImplicit false
set_option relaxedAutoImplicit false

namespace DatasetSearch.Json

/-- Powers of ten from -5 to 15 are written positionally, and other exponents carry their sign. -/
def numberStyle : Binary64.Style := ⟨-5, 15, true⟩

def hexDigits (width n : Nat) : List Char :=
  let digits := Nat.toDigits 16 n
  List.replicate (width - digits.length) '0' ++ digits

def escape (c : Char) : List Char :=
  if c = '"' then ['\\', '"']
  else if c = '\\' then ['\\', '\\']
  else if c = '\x08' then ['\\', 'b']
  else if c = '\x0c' then ['\\', 'f']
  else if c = '\n' then ['\\', 'n']
  else if c = '\r' then ['\\', 'r']
  else if c = '\t' then ['\\', 't']
  else if c.toNat < 0x20 then '\\' :: 'u' :: hexDigits 4 c.toNat
  else [c]

def writeString (s : String) : List Char :=
  '"' :: s.toList.flatMap escape ++ ['"']

def writeInt (n : Int) : List Char :=
  if n < 0 then '-' :: Nat.toDigits 10 n.natAbs else Nat.toDigits 10 n.natAbs

/-- JSON has no text for a number that is not finite. -/
def writeFloat (x : Binary64) : List Char :=
  if x.isFinite then x.write numberStyle else "null".toList

mutual

def write : Json → List Char
  | null => "null".toList
  | bool true => "true".toList
  | bool false => "false".toList
  | int n => writeInt n
  | float x => writeFloat x
  | string s => writeString s
  | array items => '[' :: writeItems items ++ [']']
  | object fields => '{' :: writeFields fields ++ ['}']

def writeItems : List Json → List Char
  | [] => []
  | [item] => write item
  | item :: rest => write item ++ ',' :: writeItems rest

def writeFields : List (String × Json) → List Char
  | [] => []
  | [(name, value)] => writeString name ++ ':' :: write value
  | (name, value) :: rest => writeString name ++ ':' :: write value ++ ',' :: writeFields rest

end

def compact (value : Json) : String :=
  String.ofList (write value)

end DatasetSearch.Json
