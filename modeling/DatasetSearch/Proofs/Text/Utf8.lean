import DatasetSearch.Text.Utf8

/-!
# Reading back encoded texts

A character is written with as many bytes as its code point needs, and the leading byte promises
exactly the following bytes that were written. `takeChar_utf8EncodeChar` takes one written character
off the front, whatever comes behind it, and `decodeLossy_encode` does so for a whole text: nothing
in it is taken for a broken part and replaced.
-/

set_option autoImplicit false
set_option relaxedAutoImplicit false

namespace DatasetSearch.Text.Utf8

/-! ### following bytes -/

theorem takeFollowing_zero (least greatest value : Nat) (bytes : List UInt8) :
    takeFollowing 0 least greatest value bytes = (some value, bytes) := by
  cases bytes <;> rfl

theorem toNat_ofNat_of_lt {n : Nat} (hn : n < 256) : (UInt8.ofNat n).toNat = n := by
  rw [UInt8.toNat_ofNat']
  exact Nat.mod_eq_of_lt hn

/-- A following byte adds six bits to the value. -/
theorem takeFollowing_succ {count least greatest value bits : Nat} (hbits : bits < 64)
    (hleast : least ≤ bits + 0x80) (hgreatest : bits + 0x80 ≤ greatest) (bytes : List UInt8) :
    takeFollowing (count + 1) least greatest value (UInt8.ofNat (bits + 0x80) :: bytes) =
      takeFollowing count 0x80 0xBF (value * 64 + bits) bytes := by
  have hbyte : (UInt8.ofNat (bits + 0x80)).toNat = bits + 0x80 := toNat_ofNat_of_lt (by omega)
  rw [takeFollowing, hbyte, if_pos ⟨hleast, hgreatest⟩, Nat.add_sub_cancel]

/-! ### one character -/

theorem takeChar_of_lead {lead : Nat} {info : Lead} {value : Nat} {bytes rest : List UInt8}
    (hlead : lead < 256) (hinfo : lead? lead = some info)
    (hbytes : takeFollowing info.following info.least info.greatest info.bits bytes =
      (some value, rest)) :
    takeChar (UInt8.ofNat lead) bytes = (some (Char.ofNat value), rest) := by
  rw [takeChar, toNat_ofNat_of_lt hlead, hinfo]
  simp only [hbytes, Option.map_some]

section Widths

variable {n : Nat} (rest : List UInt8)

theorem takeChar_one (hn : n ≤ 0x7F) :
    takeChar (UInt8.ofNat n) rest = (some (Char.ofNat n), rest) := by
  have hinfo : lead? n = some ⟨0, 0x80, 0xBF, n⟩ := if_pos (by omega)
  exact takeChar_of_lead (by omega) hinfo (takeFollowing_zero ..)

theorem takeChar_two (hleast : 0x7F < n) (hgreatest : n ≤ 0x7FF) :
    takeChar (UInt8.ofNat (n / 64 % 0x20 + 0xC0)) (UInt8.ofNat (n % 0x40 + 0x80) :: rest) =
      (some (Char.ofNat n), rest) := by
  have hinfo : lead? (n / 64 % 0x20 + 0xC0) = some ⟨1, 0x80, 0xBF, n / 64 % 0x20⟩ := by
    unfold lead?
    rw [if_neg (by omega), if_neg (by omega), if_pos (by omega), Nat.add_sub_cancel]
  have hvalue : n / 64 % 0x20 * 64 + n % 0x40 = n := by omega
  refine takeChar_of_lead (by omega) hinfo ?_
  dsimp only
  rw [takeFollowing_succ (by omega) (by omega) (by omega), takeFollowing_zero, hvalue]

/-- The limits of the first following byte leave out overlong forms and surrogates. -/
theorem takeChar_three (hleast : 0x7FF < n) (hgreatest : n ≤ 0xFFFF)
    (hvalid : n < 0xD800 ∨ 0xDFFF < n) :
    takeChar (UInt8.ofNat (n / 4096 % 0x10 + 0xE0))
        (UInt8.ofNat (n / 64 % 0x40 + 0x80) :: UInt8.ofNat (n % 0x40 + 0x80) :: rest) =
      (some (Char.ofNat n), rest) := by
  have hinfo : lead? (n / 4096 % 0x10 + 0xE0) =
      some ⟨2, if n / 4096 % 0x10 + 0xE0 = 0xE0 then 0xA0 else 0x80,
        if n / 4096 % 0x10 + 0xE0 = 0xED then 0x9F else 0xBF, n / 4096 % 0x10⟩ := by
    unfold lead?
    rw [if_neg (by omega), if_neg (by omega), if_neg (by omega), if_pos (by omega),
      Nat.add_sub_cancel]
  have hvalue : (n / 4096 % 0x10 * 64 + n / 64 % 0x40) * 64 + n % 0x40 = n := by omega
  refine takeChar_of_lead (by omega) hinfo ?_
  dsimp only
  rw [takeFollowing_succ (by omega) (by split <;> omega) (by split <;> omega),
    takeFollowing_succ (by omega) (by omega) (by omega), takeFollowing_zero, hvalue]

/-- The limits of the first following byte leave out overlong forms and what is beyond the last
code point. -/
theorem takeChar_four (hleast : 0xFFFF < n) (hgreatest : n < 0x110000) :
    takeChar (UInt8.ofNat (n / 262144 % 0x08 + 0xF0))
        (UInt8.ofNat (n / 4096 % 0x40 + 0x80) :: UInt8.ofNat (n / 64 % 0x40 + 0x80) ::
          UInt8.ofNat (n % 0x40 + 0x80) :: rest) =
      (some (Char.ofNat n), rest) := by
  have hinfo : lead? (n / 262144 % 0x08 + 0xF0) =
      some ⟨3, if n / 262144 % 0x08 + 0xF0 = 0xF0 then 0x90 else 0x80,
        if n / 262144 % 0x08 + 0xF0 = 0xF4 then 0x8F else 0xBF, n / 262144 % 0x08⟩ := by
    unfold lead?
    rw [if_neg (by omega), if_neg (by omega), if_neg (by omega), if_neg (by omega),
      if_pos (by omega), Nat.add_sub_cancel]
  have hvalue : ((n / 262144 % 0x08 * 64 + n / 4096 % 0x40) * 64 + n / 64 % 0x40) * 64 +
      n % 0x40 = n := by omega
  refine takeChar_of_lead (by omega) hinfo ?_
  dsimp only
  rw [takeFollowing_succ (by omega) (by split <;> omega) (by split <;> omega),
    takeFollowing_succ (by omega) (by omega) (by omega),
    takeFollowing_succ (by omega) (by omega) (by omega), takeFollowing_zero, hvalue]

end Widths

theorem takeChar_utf8EncodeChar (c : Char) (rest : List UInt8) :
    ∃ lead following, String.utf8EncodeChar c = lead :: following ∧
      takeChar lead (following ++ rest) = (some c, rest) := by
  -- a code point is no surrogate and not beyond the last one
  have hvalid : c.val.toNat < 0xD800 ∨ (0xDFFF < c.val.toNat ∧ c.val.toNat < 0x110000) := c.valid
  have hchar : Char.ofNat c.val.toNat = c := Char.ofNat_toNat c
  unfold String.utf8EncodeChar
  generalize c.val.toNat = n at hvalid hchar
  subst hchar
  simp only
  split
  · next hone => exact ⟨_, _, rfl, takeChar_one rest hone⟩
  · next hone =>
    split
    · next htwo => exact ⟨_, _, rfl, takeChar_two rest (by omega) htwo⟩
    · next htwo =>
      split
      · next hthree =>
        exact ⟨_, _, rfl, takeChar_three rest (by omega) hthree (hvalid.imp id And.left)⟩
      · next hthree => exact ⟨_, _, rfl, takeChar_four rest (by omega) (by omega)⟩

/-! ### whole texts -/

theorem decodeLossy_utf8EncodeChar_append (c : Char) (rest : List UInt8) :
    decodeLossy (String.utf8EncodeChar c ++ rest) = c :: decodeLossy rest := by
  obtain ⟨lead, following, hbytes, htake⟩ := takeChar_utf8EncodeChar c rest
  rw [hbytes, List.cons_append, decodeLossy, htake, Option.getD_some]

theorem decodeLossy_encode (cs : List Char) : decodeLossy (encode cs) = cs := by
  induction cs with
  | nil => simp [encode, decodeLossy]
  | cons c cs ih =>
    rw [encode, List.flatMap_cons, decodeLossy_utf8EncodeChar_append, ← encode, ih]

/-! ### characters of one byte -/

theorem utf8EncodeChar_of_lt {c : Char} (hc : c.toNat < 0x80) :
    String.utf8EncodeChar c = [UInt8.ofNat c.toNat] :=
  if_pos (Nat.le_of_lt_succ hc)

theorem le_of_mem_utf8EncodeChar {c : Char} (hc : 0x80 ≤ c.toNat) :
    ∀ b ∈ String.utf8EncodeChar c, 0x80 ≤ b.toNat := by
  have hvalid : c.val.toNat < 0xD800 ∨ (0xDFFF < c.val.toNat ∧ c.val.toNat < 0x110000) := c.valid
  have hwide : ¬ c.val.toNat ≤ 0x7F := Nat.not_le_of_lt hc
  have hfar {n : Nat} (hleast : 0x80 ≤ n) (hlt : n < 256) : 0x80 ≤ (UInt8.ofNat n).toNat := by
    rwa [toNat_ofNat_of_lt hlt]
  unfold String.utf8EncodeChar
  generalize c.val.toNat = n at hvalid hwide
  simp only [if_neg hwide]
  split
  · simp only [List.forall_mem_cons, List.not_mem_nil, false_implies, implies_true, and_true]
    exact ⟨hfar (by omega) (by omega), hfar (by omega) (by omega)⟩
  · split
    · simp only [List.forall_mem_cons, List.not_mem_nil, false_implies, implies_true, and_true]
      exact ⟨hfar (by omega) (by omega), hfar (by omega) (by omega), hfar (by omega) (by omega)⟩
    · simp only [List.forall_mem_cons, List.not_mem_nil, false_implies, implies_true, and_true]
      exact ⟨hfar (by omega) (by omega), hfar (by omega) (by omega), hfar (by omega) (by omega),
        hfar (by omega) (by omega)⟩

/-- A byte below 128 stands for itself only. -/
theorem toNat_eq_of_mem_utf8EncodeChar {c : Char} {b : UInt8} (hb : b < 0x80)
    (hmem : b ∈ String.utf8EncodeChar c) : c.toNat = b.toNat := by
  have hbyte : b.toNat < 0x80 := hb
  by_cases hc : c.toNat < 0x80
  · rw [utf8EncodeChar_of_lt hc, List.mem_singleton] at hmem
    rw [hmem, toNat_ofNat_of_lt (by omega)]
  · have hle := le_of_mem_utf8EncodeChar (Nat.le_of_not_lt hc) b hmem
    omega

/-- Bytes below 128 written as the characters with these code points. -/
def ofBytes (bytes : List UInt8) : List Char :=
  bytes.map fun b ↦ Char.ofNat b.toNat

theorem toNat_ofByte {b : UInt8} (hb : b < 0x80) : (Char.ofNat b.toNat).toNat = b.toNat := by
  have hlt : b.toNat < 0x80 := hb
  have hvalid : b.toNat.isValidChar := Or.inl (by omega)
  rw [Char.ofNat, dif_pos hvalid]
  rfl

theorem encode_ofBytes {bytes : List UInt8} (hbytes : ∀ b ∈ bytes, b < 0x80) :
    encode (ofBytes bytes) = bytes := by
  induction bytes with
  | nil => rfl
  | cons b bytes ih =>
    have hb : b < 0x80 := hbytes b List.mem_cons_self
    have hrest := ih fun other hother ↦ hbytes other (List.mem_cons_of_mem b hother)
    have hnat : (Char.ofNat b.toNat).toNat = b.toNat := toNat_ofByte hb
    have hfirst : String.utf8EncodeChar (Char.ofNat b.toNat) = [b] := by
      rw [utf8EncodeChar_of_lt (by rw [hnat]; exact hb), hnat, UInt8.ofNat_toNat]
    calc encode (ofBytes (b :: bytes))
        = String.utf8EncodeChar (Char.ofNat b.toNat) ++ encode (ofBytes bytes) := rfl
      _ = b :: bytes := by rw [hfirst, hrest, List.singleton_append]

end DatasetSearch.Text.Utf8
