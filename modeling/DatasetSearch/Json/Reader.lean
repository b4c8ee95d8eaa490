import DatasetSearch.Binary64.Reader
import DatasetSearch.Json.Basic
import DatasetSearch.Text.Numeral

/-!
Reading JSON texts. The grammar is the strict one: no trailing commas, no leading zeros, no raw
control characters in strings, and a pair of surrogate escapes for a character beyond the basic
plane. A whole number outside 64 bits is read as a floating-point number, and of two fields of one
name the later value stands in the earlier place.
-/

set_option autoImplicit false
set_option relaxedAutoImplicit false

namespace DatasetSearch.Json

def isBlankChar (c : Char) : Bool :=
  c == ' ' || c == '\n' || c == '\r' || c == '\t'

def skipBlank (cs : List Char) : List Char :=
  cs.dropWhile isBlankChar

def simpleEscape? : Char → Option Char
  | '"' => some '"'
  | '\\' => some '\\'
  | '/' => some '/'
  | 'b' => some '\x08'
  | 'f' => some '\x0c'
  | 'n' => some '\n'
  | 'r' => some '\r'
  | 't' => some '\t'
  | _ => none

def isLeading (unit : Nat) : Bool :=
  decide (0xD800 ≤ unit ∧ unit ≤ 0xDBFF)

def isTrailing (unit : Nat) : Bool :=
  decide (0xDC00 ≤ unit ∧ unit ≤ 0xDFFF)

/-- Four hexadecimal digits. -/
def readUnit? : List Char → Option (Nat × List Char)
  | a :: b :: c :: d :: rest => (Text.Numeral.hexNumber? [a, b, c, d]).map (·, rest)
  | _ => none

/-- The character of an escape, after its backslash and its letter. A leading surrogate needs a
trailing one in an escape of its own, and a trailing one does not stand alone. -/
def readEscapedUnits? (cs : List Char) : Option (Char × List Char) := do
  let (high, rest) ← readUnit? cs
  if isLeading high then
    match rest with
    | '\\' :: 'u' :: rest =>
      let (low, rest) ← readUnit? rest
      guard (isTrailing low)
      return (Char.ofNat (0x10000 + (high - 0xD800) * 0x400 + (low - 0xDC00)), rest)
    | _ => none
  else
    guard (!isTrailing high)
    return (Char.ofNat high, rest)

/-- The next character of a string, or `none` in its place for the closing quote. -/
def readTextChar? : List Char → Option (Option Char × List Char)
  | '"' :: rest => some (none, rest)
  | '\\' :: 'u' :: rest => (readEscapedUnits? rest).map fun (c, rest) ↦ (some c, rest)
  | '\\' :: c :: rest => (simpleEscape? c).map fun c ↦ (some c, rest)
  | '\\' :: [] => none
  | c :: rest => if c.toNat < 0x20 then none else some (some c, rest)
  | [] => none

theorem readUnit?_length {cs rest : List Char} {unit : Nat} (h : readUnit? cs = some (unit, rest)) :
    rest.length < cs.length := by
  unfold readUnit? at h
  split at h
  · obtain ⟨_, _, h⟩ := Option.map_eq_some_iff.1 h
    obtain ⟨_, rfl⟩ := Prod.mk.inj h
    simp only [List.length_cons]
    omega
  · simp at h

theorem readEscapedUnits?_length {cs rest : List Char} {c : Char}
    (h : readEscapedUnits? cs = some (c, rest)) : rest.length < cs.length := by
  unfold readEscapedUnits? at h
  obtain ⟨⟨high, afterHigh⟩, hhigh, h⟩ := Option.bind_eq_some_iff.1 h
  have hlength := readUnit?_length hhigh
  dsimp only at h
  by_cases hleading : isLeading high
  · rw [if_pos hleading] at h
    split at h
    · obtain ⟨⟨low, afterLow⟩, hlow, h⟩ := Option.bind_eq_some_iff.1 h
      obtain ⟨_, _, h⟩ := Option.bind_eq_some_iff.1 h
      obtain ⟨_, rfl⟩ := Prod.mk.inj (Option.some.inj h)
      have hlow := readUnit?_length hlow
      simp only [List.length_cons] at hlength
      exact Nat.lt_trans hlow (by omega)
    · cases h
  · rw [if_neg hleading] at h
    obtain ⟨_, _, h⟩ := Option.bind_eq_some_iff.1 h
    obtain ⟨_, rfl⟩ := Prod.mk.inj (Option.some.inj h)
    exact hlength

theorem readTextChar?_length {cs rest : List Char} {c : Option Char}
    (h : readTextChar? cs = some (c, rest)) : rest.length < cs.length := by
  unfold readTextChar? at h
  split at h
  · obtain ⟨_, rfl⟩ := Prod.mk.inj (Option.some.inj h)
    simp
  · obtain ⟨⟨_, _⟩, hunits, h⟩ := Option.map_eq_some_iff.1 h
    obtain ⟨_, rfl⟩ := Prod.mk.inj h
    have := readEscapedUnits?_length hunits
    simp only [List.length_cons]
    omega
  · obtain ⟨_, _, h⟩ := Option.map_eq_some_iff.1 h
    obtain ⟨_, rfl⟩ := Prod.mk.inj h
    simp only [List.length_cons]
    omega
  · simp at h
  · split at h
    · simp at h
    · obtain ⟨_, rfl⟩ := Prod.mk.inj (Option.some.inj h)
      simp
  · simp at h

/-- Reads the inside of a string up to its closing quote. -/
def readText (cs : List Char) : Option (List Char × List Char) :=
  match _h : readTextChar? cs with
  | none => none
  | some (none, rest) => some ([], rest)
  | some (some c, rest) => (readText rest).map fun (text, rest) ↦ (c :: text, rest)
  termination_by cs.length
  decreasing_by exact readTextChar?_length _h

/-- Digits after the point, which may be missing together with it. -/
def readFraction : List Char → Option (Option (List Char) × List Char)
  | '.' :: rest =>
    let digits := rest.takeWhile Char.isDigit
    if digits.isEmpty then none else some (some digits, rest.dropWhile Char.isDigit)
  | cs => some (none, cs)

def readExponent : List Char → Option (Option Int × List Char)
  | c :: rest =>
    if c = 'e' ∨ c = 'E' then
      let (negative, rest) := match rest with
        | '-' :: rest => (true, rest)
        | '+' :: rest => (false, rest)
        | rest => (false, rest)
      let digits := rest.takeWhile Char.isDigit
      if digits.isEmpty then none
      else
        let value : Int := Binary64.digitsValue digits
        some (some (if negative then -value else value), rest.dropWhile Char.isDigit)
    else some (none, c :: rest)
  | [] => some (none, [])

def readNumber (cs : List Char) : Option (Json × List Char) := do
  let (negative, cs) := match cs with
    | '-' :: rest => (true, rest)
    | cs => (false, cs)
  let whole := cs.takeWhile Char.isDigit
  guard (!whole.isEmpty && (whole.length == 1 || whole.head? != some '0'))
  let (fraction, cs) ← readFraction (cs.dropWhile Char.isDigit)
  let (exponent, cs) ← readExponent cs
  let value : Int := if negative then -Binary64.digitsValue whole else Binary64.digitsValue whole
  if fraction.isNone && exponent.isNone && !(negative && value == 0) &&
      decide (-(1 <<< 63 : Nat) ≤ value ∧ value < (1 <<< 64 : Nat)) then
    return (int value, cs)
  let decimals := fraction.getD []
  let x := Binary64.ofDecimal negative (Binary64.digitsValue (whole ++ decimals))
    (exponent.getD 0 - decimals.length)
  guard x.isFinite
  return (float x, cs)

mutual

def readValue (fuel : Nat) (cs : List Char) : Option (Json × List Char) :=
  match fuel, skipBlank cs with
  | 0, _ => none
  | _ + 1, 'n' :: 'u' :: 'l' :: 'l' :: rest => some (null, rest)
  | _ + 1, 't' :: 'r' :: 'u' :: 'e' :: rest => some (bool true, rest)
  | _ + 1, 'f' :: 'a' :: 'l' :: 's' :: 'e' :: rest => some (bool false, rest)
  | _ + 1, '"' :: rest => (readText rest).map fun (text, rest) ↦ (string (String.ofList text), rest)
  | fuel + 1, '[' :: rest =>
    match skipBlank rest with
    | ']' :: rest => some (array [], rest)
    | rest => (readItems fuel rest).map fun (items, rest) ↦ (array items, rest)
  | fuel + 1, '{' :: rest =>
    match skipBlank rest with
    | '}' :: rest => some (object [], rest)
    | rest => (readFields fuel [] rest).map fun (fields, rest) ↦ (object fields, rest)
  | _ + 1, cs => readNumber cs

/-- One or more items and the bracket that closes them. -/
def readItems (fuel : Nat) (cs : List Char) : Option (List Json × List Char) :=
  match fuel with
  | 0 => none
  | fuel + 1 => do
    let (item, rest) ← readValue fuel cs
    match skipBlank rest with
    | ',' :: rest =>
      let (items, rest) ← readItems fuel rest
      return (item :: items, rest)
    | ']' :: rest => return ([item], rest)
    | _ => none

/-- One or more fields after those already read, and the brace that closes them. -/
def readFields (fuel : Nat) (read : List (String × Json)) (cs : List Char) :
    Option (List (String × Json) × List Char) :=
  match fuel, skipBlank cs with
  | fuel + 1, '"' :: rest => do
    let (name, rest) ← readText rest
    match skipBlank rest with
    | ':' :: rest =>
      let (value, rest) ← readValue fuel rest
      let read := Fields.put (String.ofList name) value read
      match skipBlank rest with
      | ',' :: rest => readFields fuel read rest
      | '}' :: rest => return (read, rest)
      | _ => none
    | _ => none
  | _, _ => none

end

/-- The value of a text that holds one JSON value and nothing else but blanks. Every step of the
reader takes at least one character, so the length of the text bounds their number. -/
def read? (s : String) : Option Json :=
  let cs := s.toList
  match readValue (2 * cs.length + 2) cs with
  | some (value, rest) => if (skipBlank rest).isEmpty then some value else none
  | none => none

end DatasetSearch.Json
