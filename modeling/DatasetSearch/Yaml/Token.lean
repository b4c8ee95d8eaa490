import DatasetSearch.Yaml.Scalar

/-!
The tokens of a YAML text and the small ones among their written forms: directives, anchors and
tags. Block structure is made explicit: a deeper column opens a block and a shallower one closes it.
-/

set_option autoImplicit false
set_option relaxedAutoImplicit false

namespace DatasetSearch.Yaml

inductive Token where
  | version (major minor : Nat)
  | tagHandle (handle start : String)
  | documentStart
  | documentEnd
  | blockSequence
  | blockMapping
  | blockEnd
  | flowSequence
  | flowSequenceEnd
  | flowMapping
  | flowMappingEnd
  | blockEntry
  | flowEntry
  | key
  | value
  | alias (name : String)
  | anchor (name : String)
  | tag (handle suffix : String)
  | scalar (text : String) (style : Style)
  deriving DecidableEq, Repr

namespace Token

/-! ### names and tags -/

/-- The characters after which an anchor or alias may end, blanks and breaks apart. -/
def endsName (c : Char) : Bool :=
  "?:,]\x7d%@\x60".toList.contains c

def takeName? (c : Cursor) : Option (String × Cursor) :=
  let (name, c) := c.skip.takeWhile isNameChar
  if !name.isEmpty && c.head?.all (fun n ↦ isBlankOrBreak n || endsName n) then
    some (String.ofList name, c)
  else none

def isUriChar (verbatim : Bool) (c : Char) : Bool :=
  isNameChar c || ";/?:@&=+$.!~*'()%".toList.contains c ||
    (verbatim && (c == ',' || c == '[' || c == ']'))

def takeOctet? (c : Cursor) : Option (Nat × Cursor) := do
  guard (c.starts '%')
  return (← Text.Numeral.hexNumber? [← c.ahead? 1, ← c.ahead? 2], c.advance 3)

def takeFollowing? : Nat → Nat → Cursor → Option (Nat × Cursor)
  | 0, code, c => some (code, c)
  | count + 1, code, c => do
    let (octet, c) ← takeOctet? c
    guard (octet / 64 == 2)
    takeFollowing? count (code * 64 + octet % 64) c

/-- A character written as the escaped bytes of its encoding. -/
def takeUriEscape? (c : Cursor) : Option (Char × Cursor) := do
  let (octet, c) ← takeOctet? c
  let (following, share) ←
    if octet < 0x80 then some (0, octet)
    else if octet / 32 = 6 then some (1, octet % 32)
    else if octet / 16 = 14 then some (2, octet % 16)
    else if octet / 8 = 30 then some (3, octet % 8)
    else none
  let (code, c) ← takeFollowing? following share c
  return (Char.ofNat code, c)

def takeUriFrom? (verbatim : Bool) : Nat → List Char → Cursor → Option (List Char × Cursor)
  | 0, uri, c => some (uri, c)
  | fuel + 1, uri, c =>
    match c.head? with
    | none => some (uri, c)
    | some char =>
      if char = '%' then do
        let (char, c) ← takeUriEscape? c
        takeUriFrom? verbatim fuel (uri ++ [char]) c
      else if isUriChar verbatim char then takeUriFrom? verbatim fuel (uri ++ [char]) c.skip
      else some (uri, c)

def takeUri? (verbatim : Bool) (c : Cursor) : Option (List Char × Cursor) :=
  takeUriFrom? verbatim (c.rest.length + 1) [] c

/-- An exclamation mark, name characters, and a second exclamation mark if there is one. -/
def takeHandle? (c : Cursor) : Option (List Char × Cursor) := do
  guard (c.starts '!')
  let (name, c) := c.skip.takeWhile isNameChar
  if c.starts '!' then return ('!' :: name ++ ['!'], c.skip)
  return ('!' :: name, c)

def isNamedHandle (handle : List Char) : Bool :=
  2 ≤ handle.length && handle.getLast? == some '!'

/-- Handle and suffix of a tag. What looked like a handle without its second mark belongs to the
suffix, and a mark alone is a tag with no handle. -/
def takeTagParts? (c : Cursor) : Option (List Char × List Char × Cursor) := do
  if c.ahead? 1 == some '<' then
    let (suffix, c) ← takeUri? true (c.advance 2)
    guard (!suffix.isEmpty && c.starts '>')
    return ([], suffix, c.skip)
  let (handle, c) ← takeHandle? c
  let (uri, c) ← takeUri? false c
  if isNamedHandle handle then
    guard (!uri.isEmpty)
    return (handle, uri, c)
  let suffix := handle.drop 1 ++ uri
  return if suffix.isEmpty then ([], ['!'], c) else (['!'], suffix, c)

def takeTag? (flow : Bool) (c : Cursor) : Option (Token × Cursor) := do
  let (handle, suffix, c) ← takeTagParts? c
  guard (c.isBlankAt 0 || (flow && c.starts ','))
  return (.tag (String.ofList handle) (String.ofList suffix), c)

/-! ### directives -/

def takeNumber? (c : Cursor) : Option (Nat × Cursor) :=
  let (digits, c) := c.takeWhile Char.isDigit
  if digits.isEmpty || 9 < digits.length then none
  else some (digits.foldl (fun n d ↦ n * 10 + (d.toNat - '0'.toNat)) 0, c)

def takeVersion? (c : Cursor) : Option (Token × Cursor) := do
  let (major, c) ← takeNumber? c.skipBlanks
  guard (c.starts '.')
  let (minor, c) ← takeNumber? c.skip
  return (.version major minor, c)

def takeTagHandle? (c : Cursor) : Option (Token × Cursor) := do
  let (handle, c) ← takeHandle? c.skipBlanks
  guard (handle.getLast? == some '!' && c.atBlank)
  let (uri, c) ← takeUri? true c.skipBlanks
  guard (!uri.isEmpty && c.isBlankAt 0)
  return (.tagHandle (String.ofList handle) (String.ofList uri), c)

/-- A directive takes its whole line; only versions and tag handles are known. -/
def takeDirective? (c : Cursor) : Option (Token × Cursor) := do
  let (name, c) := c.skip.takeWhile isNameChar
  guard (c.isBlankAt 0)
  let (token, c) ←
    if String.ofList name = "YAML" then takeVersion? c
    else if String.ofList name = "TAG" then takeTagHandle? c
    else none
  let c := c.skipBlanks.skipComment
  guard (c.atEnd || c.atBreak)
  return (token, c.skipBreak)

end Token

end DatasetSearch.Yaml
