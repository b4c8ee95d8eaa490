import DatasetSearch.Json.Reader
import DatasetSearch.Json.Writer
import Mathlib.Data.List.Forall2
import Mathlib.Data.List.Flatten
import Mathlib.Data.Option.Basic
import Mathlib.Tactic.SplitIfs

/-!
# The spelling of strings

`SpellsChar` is the standard's grammar of a character between quotes: the character itself unless
it is a quote, a backslash or a control character, a short escape, the escape of a code unit, or a
pair of such escapes. `Spells` is that grammar for texts.

The writer keeps to it (`spells_escape`) and the reader takes each spelling for the one text that it
spells, up to the closing quote (`readText_of_spells`). So a spelling has one meaning
(`Spells.unique`), and what is written is read back (`readText_escape`).
-/

set_option autoImplicit false
set_option relaxedAutoImplicit false

namespace DatasetSearch.Json

/-! ### the grammar -/

/-- The letters of the short escapes and the characters that they stand for. -/
def shortEscapes : List (Char × Char) :=
  [('"', '"'), ('\\', '\\'), ('/', '/'), ('b', '\x08'), ('f', '\x0c'), ('n', '\n'), ('r', '\r'),
    ('t', '\t')]

/-- Four hexadecimal digits of a code unit. -/
def IsUnit (digits : List Char) (unit : Nat) : Prop :=
  digits.length = 4 ∧ Text.Numeral.hexNumber? digits = some unit

/-- What stands between quotes for one character. -/
inductive SpellsChar : List Char → Char → Prop
  | plain {c : Char} (hcontrol : 0x20 ≤ c.toNat) (hquote : c ≠ '"') (hslash : c ≠ '\\') :
    SpellsChar [c] c
  | short {letter c : Char} (hletter : (letter, c) ∈ shortEscapes) : SpellsChar ['\\', letter] c
  | unit {digits : List Char} {unit : Nat} (hdigits : IsUnit digits unit)
    (halone : unit < 0xD800 ∨ 0xDFFF < unit) : SpellsChar ('\\' :: 'u' :: digits) (Char.ofNat unit)
  | pair {digits following : List Char} {high low : Nat} (hhigh : IsUnit digits high)
    (hlow : IsUnit following low) (hleading : 0xD800 ≤ high ∧ high ≤ 0xDBFF)
    (htrailing : 0xDC00 ≤ low ∧ low ≤ 0xDFFF) :
    SpellsChar ('\\' :: 'u' :: digits ++ '\\' :: 'u' :: following)
      (Char.ofNat (0x10000 + (high - 0xD800) * 0x400 + (low - 0xDC00)))

/-- What stands between the quotes of a text, one spelling after the other. -/
def Spells (literal text : List Char) : Prop :=
  ∃ spellings, literal = spellings.flatten ∧ List.Forall₂ SpellsChar spellings text

/-! ### reading -/

theorem readUnit?_of_isUnit {digits : List Char} {unit : Nat} (hdigits : IsUnit digits unit)
    (rest : List Char) : readUnit? (digits ++ rest) = some (unit, rest) := by
  obtain ⟨hlength, hvalue⟩ := hdigits
  match digits, hlength with
  | [a, b, c, d], _ => simp [readUnit?, hvalue]

theorem readTextChar?_of_spells {spelling : List Char} {c : Char} (hc : SpellsChar spelling c)
    (rest : List Char) : readTextChar? (spelling ++ rest) = some (some c, rest) := by
  cases hc with
  | plain hcontrol hquote hslash =>
    show readTextChar? (c :: rest) = some (some c, rest)
    unfold readTextChar?
    split <;> simp_all
  | short hletter =>
    simp only [shortEscapes, List.mem_cons, Prod.mk.injEq, List.not_mem_nil, or_false] at hletter
    rcases hletter with ⟨rfl, rfl⟩ | ⟨rfl, rfl⟩ | ⟨rfl, rfl⟩ | ⟨rfl, rfl⟩ | ⟨rfl, rfl⟩ |
      ⟨rfl, rfl⟩ | ⟨rfl, rfl⟩ | ⟨rfl, rfl⟩ <;> rfl
  | @unit digits unit hdigits halone =>
    have hleading : isLeading unit = false := by
      unfold isLeading
      rw [decide_eq_false_iff_not]
      omega
    have htrailing : isTrailing unit = false := by
      unfold isTrailing
      rw [decide_eq_false_iff_not]
      omega
    have hunits : readEscapedUnits? (digits ++ rest) = some (Char.ofNat unit, rest) := by
      rw [readEscapedUnits?, readUnit?_of_isUnit hdigits]
      simp [hleading, htrailing]
    simp [readTextChar?, hunits]
  | @pair digits following high low hhigh hlow hleading htrailing =>
    have hfirst : isLeading high = true := decide_eq_true hleading
    have hsecond : isTrailing low = true := decide_eq_true htrailing
    have hunits : readEscapedUnits? (digits ++ '\\' :: 'u' :: (following ++ rest)) =
        some (Char.ofNat (0x10000 + (high - 0xD800) * 0x400 + (low - 0xDC00)), rest) := by
      rw [readEscapedUnits?, readUnit?_of_isUnit hhigh]
      simp [hfirst, hsecond, readUnit?_of_isUnit hlow]
    simp [readTextChar?, hunits]

theorem readText_cons {cs rest : List Char} {c : Char}
    (hnext : readTextChar? cs = some (some c, rest)) :
    readText cs = (readText rest).map fun (text, rest) ↦ (c :: text, rest) := by
  rw [readText]
  split
  · next hnone => simp [hnext] at hnone
  · next hend => simp [hnext] at hend
  · next d remaining hfound =>
    rw [hnext] at hfound
    obtain ⟨hchar, rfl⟩ := Prod.mk.inj (Option.some.inj hfound)
    rw [Option.some.inj hchar]

/-- The closing quote is found where it stands, because no spelling begins with a quote. -/
theorem readText_of_spells {literal text : List Char} (hspells : Spells literal text)
    (rest : List Char) : readText (literal ++ '"' :: rest) = some (text, rest) := by
  obtain ⟨spellings, rfl, hspells⟩ := hspells
  induction hspells with
  | nil =>
    rw [readText]
    rfl
  | cons hchar _ ih =>
    rw [List.flatten_cons, List.append_assoc, readText_cons (readTextChar?_of_spells hchar _), ih]
    rfl

/-- A spelling has one meaning. -/
theorem Spells.unique {literal text other : List Char} (htext : Spells literal text)
    (hother : Spells literal other) : text = other := by
  have hread := (readText_of_spells htext []).symm.trans (readText_of_spells hother [])
  exact (Prod.mk.inj (Option.some.inj hread)).1

/-! ### writing -/

/-- The digits of a control character in its escape. -/
theorem isUnit_hexDigits : ∀ n < 0x20, IsUnit (hexDigits 4 n) n := by
  unfold IsUnit
  decide

theorem spellsChar_escape (c : Char) : SpellsChar (escape c) c := by
  have hshort {letter : Char} (hletter : (letter, c) ∈ shortEscapes) :
      SpellsChar ['\\', letter] c := .short hletter
  unfold escape
  split_ifs with hquote hslash hb hf hn hr ht hcontrol
  · exact hshort (by rw [hquote]; decide)
  · exact hshort (by rw [hslash]; decide)
  · exact hshort (by rw [hb]; decide)
  · exact hshort (by rw [hf]; decide)
  · exact hshort (by rw [hn]; decide)
  · exact hshort (by rw [hr]; decide)
  · exact hshort (by rw [ht]; decide)
  · have hunit : SpellsChar ('\\' :: 'u' :: hexDigits 4 c.toNat) (Char.ofNat c.toNat) :=
      .unit (isUnit_hexDigits _ hcontrol) (.inl (by omega))
    rwa [Char.ofNat_toNat] at hunit
  · exact .plain (Nat.le_of_not_lt hcontrol) hquote hslash

theorem spells_escape (text : List Char) : Spells (text.flatMap escape) text := by
  refine ⟨text.map escape, rfl, ?_⟩
  rw [List.forall₂_map_left_iff]
  exact List.forall₂_same.mpr fun c _ ↦ spellsChar_escape c

theorem readText_escape (text rest : List Char) :
    readText (text.flatMap escape ++ '"' :: rest) = some (text, rest) :=
  readText_of_spells (spells_escape text) rest

end DatasetSearch.Json
