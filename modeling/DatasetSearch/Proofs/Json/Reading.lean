import DatasetSearch.Proofs.Json.Spelling
import DatasetSearch.Proofs.Text.Numeral
import Mathlib.Algebra.Order.Ring.Nat
import Mathlib.Control.Basic

/-!
# Reading back what was written

A string is read back up to its closing quote (`readText_escape`), and a natural number below the
limit of the whole numbers up to the character after its digits (`readNumber_toDigits`), since it is
written without leading zeros. An object is read back if the values of its fields are and no name
comes twice (`read?_compact_object`).

`field?` looks up a field in the text of an object and reads no further than that field.
-/

set_option autoImplicit false
set_option relaxedAutoImplicit false

namespace DatasetSearch.Json

/-! ### whole numbers -/

theorem digitChar_ne_zero : ∀ n < 10, n ≠ 0 → n.digitChar ≠ '0' := by
  decide

/-- A positive number is written without leading zeros. -/
theorem head?_toDigits {n : Nat} (hn : n ≠ 0) : (Nat.toDigits 10 n).head? ≠ some '0' := by
  induction n using Nat.strongRecOn with
  | ind n ih =>
    by_cases hsmall : n < 10
    · rw [Nat.toDigits_of_lt_base hsmall, List.head?_cons, ne_eq, Option.some_inj]
      exact digitChar_ne_zero n hsmall hn
    · have hfirst := ih (n / 10) (by omega) (by omega)
      rw [Nat.toDigits_of_base_le (by decide) (Nat.le_of_not_lt hsmall), List.head?_append]
      cases hdigits : Nat.toDigits 10 (n / 10) with
      | nil => exact absurd hdigits Nat.toDigits_ne_nil
      | cons c rest =>
        rw [hdigits] at hfirst
        exact hfirst

theorem digitsValue_eq (digits : List Char) :
    Binary64.digitsValue digits = Nat.ofDigitChars 10 digits 0 := by
  rw [Nat.ofDigitChars_eq_foldl]
  unfold Binary64.digitsValue
  congr 1
  funext value c
  rw [Nat.mul_comm]

/-- Only the character after a whole number tells that the number has ended. -/
structure EndsNumber (c : Char) : Prop where
  digit : c.isDigit = false
  point : c ≠ '.'
  lower : c ≠ 'e'
  upper : c ≠ 'E'

theorem endsNumber_comma : EndsNumber ',' := by
  constructor <;> decide

theorem endsNumber_brace : EndsNumber '\x7d' := by
  constructor <;> decide

theorem EndsNumber.readFraction {c : Char} (hc : EndsNumber c) (rest : List Char) :
    readFraction (c :: rest) = some (none, c :: rest) := by
  unfold Json.readFraction
  split
  · next hpoint => exact absurd (List.cons.inj hpoint).1 hc.point
  · rfl

theorem EndsNumber.readExponent {c : Char} (hc : EndsNumber c) (rest : List Char) :
    readExponent (c :: rest) = some (none, c :: rest) := by
  unfold Json.readExponent
  dsimp only
  rw [if_neg (not_or.mpr ⟨hc.lower, hc.upper⟩)]

theorem toDigits_append_ne_minus (n : Nat) (rest others : List Char) :
    Nat.toDigits 10 n ++ rest ≠ '-' :: others := by
  intro h
  cases hdigits : Nat.toDigits 10 n with
  | nil => exact absurd hdigits Nat.toDigits_ne_nil
  | cons d digits =>
    have hd : d.isDigit = true :=
      Nat.isDigit_of_mem_toDigits (by decide) (by decide) (hdigits ▸ List.mem_cons_self)
    rw [hdigits, List.cons_append] at h
    rw [(List.cons.inj h).1] at hd
    exact absurd hd (by decide)

theorem readNumber_toDigits {n : Nat} (hn : n < 2 ^ 64) {c : Char} (hc : EndsNumber c)
    (rest : List Char) :
    readNumber (Nat.toDigits 10 n ++ c :: rest) = some (.int n, c :: rest) := by
  have hdigits : ∀ d ∈ Nat.toDigits 10 n, d.isDigit = true := fun d hd ↦
    Nat.isDigit_of_mem_toDigits (by decide) (by decide) hd
  have htake : (Nat.toDigits 10 n ++ c :: rest).takeWhile Char.isDigit = Nat.toDigits 10 n := by
    rw [List.takeWhile_append_of_pos hdigits, List.takeWhile_cons_of_neg (by simp [hc.digit]),
      List.append_nil]
  have hdrop : (Nat.toDigits 10 n ++ c :: rest).dropWhile Char.isDigit = c :: rest := by
    rw [List.dropWhile_append_of_pos hdigits, List.dropWhile_cons_of_neg (by simp [hc.digit])]
  have hvalue : Binary64.digitsValue (Nat.toDigits 10 n) = n := by
    rw [digitsValue_eq, Nat.ofDigitChars_ten_toDigits]
  have hfirst : (Nat.toDigits 10 n).length = 1 ∨ ¬ (Nat.toDigits 10 n).head? = some '0' := by
    by_cases hzero : n = 0
    · rw [hzero]
      exact Or.inl rfl
    · exact Or.inr (head?_toDigits hzero)
  have hrange : (n : Int) < 18446744073709551616 := by omega
  unfold readNumber
  split
  next negative cs hsign =>
  split at hsign
  · next hminus => exact absurd hminus (toDigits_append_ne_minus n _ _)
  · obtain ⟨rfl, rfl⟩ := Prod.mk.inj hsign
    simp [htake, hdrop, hfirst, hc.readFraction, hc.readExponent, hvalue, hrange]

/-! ### values -/

/-- A value is read back from its text, whatever follows the character that ends it. -/
def ReadsBack (value : Json) : Prop :=
  ∀ fuel c rest, EndsNumber c →
    readValue (fuel + 1) (write value ++ c :: rest) = some (value, c :: rest)

theorem readsBack_string (s : String) : ReadsBack (.string s) := by
  intro fuel c rest _
  have hblank : skipBlank (write (.string s) ++ c :: rest) =
      '"' :: (s.toList.flatMap escape ++ '"' :: c :: rest) := by
    simp [skipBlank, write, writeString, isBlankChar]
  unfold readValue
  rw [hblank]
  simp [readText_escape]

theorem readValue_of_isDigit (fuel : Nat) {d : Char} (hd : d.isDigit = true) (cs : List Char) :
    readValue (fuel + 1) (d :: cs) = readNumber (d :: cs) := by
  have hne : ∀ c : Char, c.isDigit = false → d ≠ c := by
    rintro c hc rfl
    rw [hd] at hc
    cases hc
  have hblank : skipBlank (d :: cs) = d :: cs := by
    simp [skipBlank, isBlankChar, hne ' ' rfl, hne '\n' rfl, hne '\r' rfl, hne '\t' rfl]
  unfold readValue
  rw [hblank]
  split
  case h_1 hfuel => cases hfuel
  case h_8 => rfl
  all_goals
    next hhead => exact absurd (List.cons.inj hhead).1 (hne _ (by decide))

theorem readsBack_nat {n : Nat} (hn : n < 2 ^ 64) : ReadsBack (.int n) := by
  intro fuel c rest hc
  have hwrite : write (.int n) = Nat.toDigits 10 n := by
    simp [write, writeInt]
  rw [hwrite, ← readNumber_toDigits hn hc rest]
  cases hdigits : Nat.toDigits 10 n with
  | nil => exact absurd hdigits Nat.toDigits_ne_nil
  | cons d digits =>
    have hd : d.isDigit = true :=
      Nat.isDigit_of_mem_toDigits (by decide) (by decide) (hdigits ▸ List.mem_cons_self)
    exact readValue_of_isDigit fuel hd _

/-! ### texts of objects -/

theorem writeFields_cons (name : String) (value : Json) {rest : List (String × Json)}
    (hrest : rest ≠ []) :
    writeFields ((name, value) :: rest) =
      writeString name ++ ':' :: (write value ++ ',' :: writeFields rest) := by
  cases rest with
  | nil => exact absurd rfl hrest
  | cons field rest => simp [writeFields]

/-- A comma or the closing brace stands after the value of a field. -/
theorem exists_writeFields_cons (name : String) (value : Json) (after : List (String × Json)) :
    ∃ c rest, EndsNumber c ∧ writeFields ((name, value) :: after) ++ ['\x7d'] =
      writeString name ++ ':' :: (write value ++ c :: rest) := by
  by_cases hafter : after = []
  · refine ⟨'\x7d', [], endsNumber_brace, ?_⟩
    simp [hafter, writeFields]
  · refine ⟨',', writeFields after ++ ['\x7d'], endsNumber_comma, ?_⟩
    simp [writeFields_cons name value hafter]

theorem length_le_length_writeFields (fields : List (String × Json)) :
    fields.length ≤ (writeFields fields).length := by
  induction fields with
  | nil => exact Nat.zero_le _
  | cons field rest ih =>
    by_cases hrest : rest = []
    · simp only [hrest, writeFields, List.length_append, List.length_cons, List.length_nil]
      omega
    · rw [writeFields_cons field.1 field.2 hrest]
      simp only [List.length_append, List.length_cons]
      omega

/-! ### all fields of an object -/

section Fields

variable {value : Json} (hvalue : ReadsBack value) (fuel : Nat) (read : List (String × Json))
  (name : String) (rest : List Char)

include hvalue

theorem readFields_comma :
    readFields (fuel + 2) read (writeString name ++ ':' :: (write value ++ ',' :: rest)) =
      readFields (fuel + 1) (Fields.put name value read) rest := by
  have hread := hvalue fuel ',' rest endsNumber_comma
  simp [readFields, skipBlank, isBlankChar, writeString, readText_escape, hread]

theorem readFields_brace :
    readFields (fuel + 2) read (writeString name ++ ':' :: (write value ++ '\x7d' :: rest)) =
      some (Fields.put name value read, rest) := by
  have hread := hvalue fuel '\x7d' rest endsNumber_brace
  simp [readFields, skipBlank, isBlankChar, writeString, readText_escape, hread]

end Fields

/-- Each field is put behind those before it, as long as its name is a new one. -/
theorem readFields_writeFields {fields : List (String × Json)} (hne : fields ≠ [])
    (hfields : ∀ field ∈ fields, ReadsBack field.2) {read : List (String × Json)}
    (hnames : (Fields.keys (read ++ fields)).Nodup) {fuel : Nat}
    (hfuel : fields.length + 1 ≤ fuel) :
    readFields fuel read (writeFields fields ++ ['\x7d']) = some (read ++ fields, []) := by
  induction fields generalizing read fuel with
  | nil => exact absurd rfl hne
  | cons field after ih =>
    obtain ⟨name, value⟩ := field
    obtain ⟨hvalue, hafter⟩ := List.forall_mem_cons.mp hfields
    obtain ⟨fuel, rfl⟩ : ∃ n, fuel = n + 2 :=
      Nat.exists_eq_add_of_le' (Nat.le_trans (Nat.le_add_left _ _) hfuel)
    have hname : name ∉ Fields.keys read := by
      rw [Fields.keys, List.map_append, List.map_cons] at hnames
      exact fun hmem ↦ (List.nodup_append.mp hnames).2.2 name hmem name List.mem_cons_self rfl
    by_cases hlast : after = []
    · subst hlast
      have hread := readFields_brace hvalue fuel read name []
      rw [Fields.put_of_not_mem value hname] at hread
      simpa [writeFields] using hread
    · have hread := readFields_comma hvalue fuel read name (writeFields after ++ ['\x7d'])
      have hsplit : read ++ (name, value) :: after = read ++ [(name, value)] ++ after := by
        rw [List.append_assoc, List.singleton_append]
      rw [List.length_cons] at hfuel
      rw [Fields.put_of_not_mem value hname, ih hlast hafter (hsplit ▸ hnames) (by omega)] at hread
      rw [writeFields_cons name value hlast, hsplit]
      simpa using hread

theorem readValue_object {fields : List (String × Json)}
    (hfields : ∀ field ∈ fields, ReadsBack field.2) (hnames : (Fields.keys fields).Nodup)
    {fuel : Nat} (hfuel : fields.length + 1 ≤ fuel) :
    readValue (fuel + 1) (write (object fields)) = some (object fields, []) := by
  obtain _ | ⟨⟨name, value⟩, after⟩ := fields
  · simp [readValue, write, writeFields, skipBlank, isBlankChar]
  · have hread : readFields fuel [] (writeFields ((name, value) :: after) ++ ['\x7d']) =
        some ((name, value) :: after, []) :=
      readFields_writeFields (List.cons_ne_nil _ _) hfields hnames hfuel
    obtain ⟨c, rest, -, hwrite⟩ := exists_writeFields_cons name value after
    rw [hwrite, writeString] at hread
    rw [write, List.cons_append, hwrite, writeString]
    simpa [readValue, skipBlank, isBlankChar] using hread

/-- An object is read back from its text. -/
theorem read?_compact_object {fields : List (String × Json)}
    (hfields : ∀ field ∈ fields, ReadsBack field.2) (hnames : (Fields.keys fields).Nodup) :
    read? (object fields).compact = some (object fields) := by
  have hlength : fields.length + 1 ≤ 2 * (write (object fields)).length + 1 := by
    have hfields := length_le_length_writeFields fields
    rw [write, List.length_append, List.length_cons]
    omega
  rw [read?, compact, String.toList_ofList]
  simp [readValue_object hfields hnames hlength, skipBlank]

/-! ### one field of an object -/

/-- The value of the first field of the given name, among the fields that a text begins with. -/
def scanFields (fuel : Nat) (name : String) (cs : List Char) : Option Json :=
  match fuel, cs with
  | fuel + 1, '"' :: rest => do
    let (found, rest) ← readText rest
    match rest with
    | ':' :: rest =>
      let (value, rest) ← readValue fuel rest
      if String.ofList found = name then some value
      else match rest with
        | ',' :: rest => scanFields fuel name rest
        | _ => none
    | _ => none
  | _, _ => none

/-- The value of a field of the object that a text holds. Nothing after that value is read. -/
def field? (name text : String) : Option Json :=
  match text.toList with
  | '{' :: rest => scanFields rest.length name rest
  | _ => none

section Scan

variable {name : String} {value : Json} (hvalue : ReadsBack value)
  {before : List (String × Json)} (hbefore : ∀ field ∈ before, field.1 ≠ name ∧ ReadsBack field.2)
  (after : List (String × Json))

include hvalue hbefore

theorem scanFields_writeFields {fuel : Nat} (hfuel : before.length + 2 ≤ fuel) :
    scanFields fuel name (writeFields (before ++ (name, value) :: after) ++ ['\x7d']) =
      some value := by
  induction before generalizing fuel with
  | nil =>
    obtain ⟨fuel, rfl⟩ : ∃ n, fuel = n + 2 := Nat.exists_eq_add_of_le' hfuel
    obtain ⟨c, rest, hc, hwrite⟩ := exists_writeFields_cons name value after
    rw [List.nil_append, hwrite]
    simp [scanFields, writeString, readText_escape, hvalue fuel c rest hc]
  | cons field before ih =>
    obtain ⟨fuel, rfl⟩ : ∃ n, fuel = n + 2 :=
      Nat.exists_eq_add_of_le' (Nat.le_trans (Nat.le_add_left _ _) hfuel)
    obtain ⟨hne, hfield⟩ := hbefore field List.mem_cons_self
    have hrest : scanFields (fuel + 1) name
        (writeFields (before ++ (name, value) :: after) ++ ['\x7d']) = some value := by
      refine ih (fun other hother ↦ hbefore other (List.mem_cons_of_mem _ hother)) ?_
      rw [List.length_cons] at hfuel
      omega
    rw [List.cons_append, writeFields_cons field.1 field.2 (by simp)]
    have hread := hfield fuel ',' (writeFields (before ++ (name, value) :: after) ++ ['\x7d'])
      endsNumber_comma
    simp [scanFields, writeString, readText_escape, hread, hne, hrest]

theorem field?_compact :
    field? name (object (before ++ (name, value) :: after)).compact = some value := by
  have hlength := length_le_length_writeFields (before ++ (name, value) :: after)
  rw [List.length_append, List.length_cons] at hlength
  have hfuel : before.length + 2 ≤
      (writeFields (before ++ (name, value) :: after) ++ ['\x7d']).length := by
    rw [List.length_append, List.length_singleton]
    omega
  simp only [field?, compact, String.toList_ofList, write]
  exact scanFields_writeFields hvalue hbefore after hfuel

end Scan

end DatasetSearch.Json
