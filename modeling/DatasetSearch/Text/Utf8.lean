/-!
Texts as bytes. A character is written as a leading byte and up to three following ones; reading
refuses overlong forms, surrogates and values beyond the last code point by limiting the first of
the following bytes. The forgiving reader puts one replacement character in the place of each
longest broken part, which is a leading byte with the following bytes that it could have had.
-/

set_option autoImplicit false
set_option relaxedAutoImplicit false

namespace DatasetSearch.Text.Utf8

/-- What a leading byte promises: how many bytes follow, the limits of the first of these, and its
own share of the code point. -/
structure Lead where
  following : Nat
  least : Nat
  greatest : Nat
  bits : Nat
  deriving DecidableEq, Repr

def lead? (n : Nat) : Option Lead :=
  if n < 0x80 then some ⟨0, 0x80, 0xBF, n⟩
  else if n < 0xC2 then none
  else if n < 0xE0 then some ⟨1, 0x80, 0xBF, n - 0xC0⟩
  else if n < 0xF0 then
    some ⟨2, if n = 0xE0 then 0xA0 else 0x80, if n = 0xED then 0x9F else 0xBF, n - 0xE0⟩
  else if n < 0xF5 then
    some ⟨3, if n = 0xF0 then 0x90 else 0x80, if n = 0xF4 then 0x8F else 0xBF, n - 0xF0⟩
  else none

/-- Takes `count` following bytes into `value`, the first of them within the given limits. Without
a value the rest starts at the byte that does not belong. -/
def takeFollowing (count least greatest value : Nat) : List UInt8 → Option Nat × List UInt8
  | [] => (if count = 0 then some value else none, [])
  | b :: rest =>
    match count with
    | 0 => (some value, b :: rest)
    | count + 1 =>
      if least ≤ b.toNat ∧ b.toNat ≤ greatest then
        takeFollowing count 0x80 0xBF (value * 64 + (b.toNat - 0x80)) rest
      else (none, b :: rest)

theorem length_takeFollowing_le (count least greatest value : Nat) (bytes : List UInt8) :
    (takeFollowing count least greatest value bytes).2.length ≤ bytes.length := by
  induction bytes generalizing count least greatest value with
  | nil => simp [takeFollowing]
  | cons b rest ih =>
    cases count with
    | zero => simp [takeFollowing]
    | succ count =>
      simp only [takeFollowing]
      split
      · exact Nat.le_succ_of_le (ih ..)
      · simp

/-- The first character, or nothing where the bytes begin with a broken part, and the bytes after
it. -/
def takeChar (b : UInt8) (rest : List UInt8) : Option Char × List UInt8 :=
  match lead? b.toNat with
  | none => (none, rest)
  | some lead =>
    let (value, rest) := takeFollowing lead.following lead.least lead.greatest lead.bits rest
    (value.map Char.ofNat, rest)

theorem length_takeChar_le (b : UInt8) (rest : List UInt8) :
    (takeChar b rest).2.length ≤ rest.length := by
  unfold takeChar
  split
  · exact Nat.le_refl _
  · exact length_takeFollowing_le ..

def decodeLossy : List UInt8 → List Char
  | [] => []
  | b :: rest => (takeChar b rest).1.getD '\uFFFD' :: decodeLossy (takeChar b rest).2
  termination_by bytes => bytes.length
  decreasing_by exact Nat.lt_succ_of_le (length_takeChar_le b rest)

def decode? : List UInt8 → Option (List Char)
  | [] => some []
  | b :: rest => do
    let c ← (takeChar b rest).1
    let cs ← decode? (takeChar b rest).2
    return c :: cs
  termination_by bytes => bytes.length
  decreasing_by exact Nat.lt_succ_of_le (length_takeChar_le b rest)

def encode (cs : List Char) : List UInt8 :=
  cs.flatMap String.utf8EncodeChar

end DatasetSearch.Text.Utf8
