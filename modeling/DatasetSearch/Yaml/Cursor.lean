/-!
A place in a YAML text: the characters that are left, and how far the place is from the start of
the text and of its line. Carriage return and line feed together are one line break, and so are
the next-line character and the line and paragraph separators.
-/

set_option autoImplicit false
set_option relaxedAutoImplicit false

namespace DatasetSearch.Yaml

/-! ### characters -/

def isBlank (c : Char) : Bool :=
  c == ' ' || c == '\t'

def isBreak (c : Char) : Bool :=
  c == '\n' || c == '\r' || c.toNat == 0x85 || c.toNat == 0x2028 || c.toNat == 0x2029

def isBlankOrBreak (c : Char) : Bool :=
  isBlank c || isBreak c

def isNameChar (c : Char) : Bool :=
  ('0' ≤ c && c ≤ '9') || ('A' ≤ c && c ≤ 'Z') || ('a' ≤ c && c ≤ 'z') || c == '_' || c == '-'

/-- The characters that a text may hold at all. -/
def isPrintable (c : Char) : Bool :=
  let n := c.toNat
  n == 0x09 || n == 0x0A || n == 0x0D || (0x20 ≤ n && n ≤ 0x7E) || n == 0x85 ||
    (0xA0 ≤ n && n ≤ 0xD7FF) || (0xE000 ≤ n && n ≤ 0xFFFD) || 0x10000 ≤ n

def byteOrderMark : Char := '\uFEFF'

/-! ### places -/

structure Cursor where
  rest : List Char
  index : Nat := 0
  line : Nat := 0
  column : Nat := 0
  deriving Repr, Inhabited

namespace Cursor

def ofText (text : List Char) : Cursor := { rest := text }

def head? (c : Cursor) : Option Char := c.rest.head?

/-- The character the given number of places further on. -/
def ahead? (c : Cursor) (places : Nat) : Option Char := c.rest[places]?

def starts (c : Cursor) (char : Char) : Bool := c.head? == some char

def atEnd (c : Cursor) : Bool := c.rest.isEmpty

/-- The end of the text counts as a blank. -/
def isBlankAt (c : Cursor) (places : Nat) : Bool :=
  match c.ahead? places with
  | none => true
  | some char => isBlankOrBreak char

def atBreak (c : Cursor) : Bool := c.head?.any isBreak

def atBlank (c : Cursor) : Bool := c.head?.any isBlank

/-- Steps over characters of which none is a line break. -/
def advance (c : Cursor) (count : Nat) : Cursor :=
  { c with rest := c.rest.drop count, index := c.index + count, column := c.column + count }

def skip (c : Cursor) : Cursor := c.advance 1

/-- Takes the longest run of characters of one kind, of which none is a line break. -/
def takeWhile (c : Cursor) (p : Char → Bool) : List Char × Cursor :=
  let run := c.rest.takeWhile p
  (run, c.advance run.length)

def dropWhile (c : Cursor) (p : Char → Bool) : Cursor :=
  (c.takeWhile p).2

def skipBlanks (c : Cursor) : Cursor := c.dropWhile isBlank

/-- Skips a comment up to the end of its line. -/
def skipComment (c : Cursor) : Cursor :=
  if c.starts '#' then c.dropWhile (!isBreak ·) else c

def newLine (c : Cursor) (count : Nat) : Cursor :=
  { rest := c.rest.drop count, index := c.index + count, line := c.line + 1, column := 0 }

/-- Takes a line break if there is one. Separators are kept, all other breaks become line
feeds. -/
def takeBreak (c : Cursor) : List Char × Cursor :=
  match c.rest with
  | '\r' :: '\n' :: _ => (['\n'], c.newLine 2)
  | char :: _ =>
    if char.toNat = 0x2028 ∨ char.toNat = 0x2029 then ([char], c.newLine 1)
    else if isBreak char then (['\n'], c.newLine 1)
    else ([], c)
  | [] => ([], c)

def skipBreak (c : Cursor) : Cursor := c.takeBreak.2

/-- At a line that starts with three times the given character and then ends or goes on with a
blank. -/
def atMarker (c : Cursor) (char : Char) : Bool :=
  c.column == 0 && c.rest.take 3 == [char, char, char] && c.isBlankAt 3

def atDocumentMarker (c : Cursor) : Bool :=
  c.atMarker '-' || c.atMarker '.'

end Cursor

end DatasetSearch.Yaml
