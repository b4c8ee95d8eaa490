import DatasetSearch.Yaml.Token

/-!
From a text to its tokens. A scalar, alias or collection may turn out to be a key only when the
colon after it is met; until then its place is remembered, one for each level of flow collections,
and the key token, with the block mapping that it may open, is put in there afterwards. A key
without a key mark has to stand on one line and within 1024 characters.
-/

set_option autoImplicit false
set_option relaxedAutoImplicit false

namespace DatasetSearch.Yaml

/-- A place where a key may have started. A key is required where a block mapping goes on. -/
structure KeyPlace where
  required : Bool
  /-- How many tokens stand before the key. -/
  position : Nat
  index : Nat
  line : Nat
  column : Nat
  deriving Repr

structure Lexer where
  cursor : Cursor
  tokens : List Token := []
  /-- The column of the innermost block collection, and those of the ones around it. -/
  indent : Int := -1
  outerIndents : List Int := []
  keyAllowed : Bool := true
  keyPlace : Option KeyPlace := none
  /-- The places of the flow collections around the innermost one. -/
  outerPlaces : List (Option KeyPlace) := []
  deriving Repr

namespace Lexer

def inFlow (lexer : Lexer) : Bool := !lexer.outerPlaces.isEmpty

/-- Tokens are kept last first. -/
def push (lexer : Lexer) (token : Token) : Lexer :=
  { lexer with tokens := token :: lexer.tokens }

/-- Puts a token in behind the given number of tokens. -/
def insert (lexer : Lexer) (position : Nat) (token : Token) : Lexer :=
  let later := lexer.tokens.length - position
  { lexer with tokens := lexer.tokens.take later ++ token :: lexer.tokens.drop later }

def moveTo (lexer : Lexer) (cursor : Cursor) : Lexer :=
  { lexer with cursor }

/-- One character that is a token by itself. -/
def pushMark (lexer : Lexer) (token : Token) : Lexer :=
  (lexer.push token).moveTo lexer.cursor.skip

/-! ### blocks -/

/-- Opens a block collection at a column beyond the innermost one. -/
def openBlock (lexer : Lexer) (column : Nat) (position : Nat) (token : Token) : Lexer :=
  if !lexer.inFlow && lexer.indent < column then
    { lexer.insert position token with
      indent := column
      outerIndents := lexer.indent :: lexer.outerIndents }
  else lexer

def openBlockHere (lexer : Lexer) (token : Token) : Lexer :=
  lexer.openBlock lexer.cursor.column lexer.tokens.length token

/-- Closes the block collections beyond a column. -/
def closeBlocks (lexer : Lexer) (column : Int) : Lexer :=
  if lexer.inFlow then lexer
  else
    let all := lexer.indent :: lexer.outerIndents
    let closed := all.takeWhile (column < ·)
    match all.drop closed.length with
    | [] => lexer
    | indent :: outerIndents =>
      { lexer with
        tokens := closed.map (fun _ ↦ Token.blockEnd) ++ lexer.tokens
        indent, outerIndents }

/-! ### places of keys -/

/-- Gives the innermost place up, which fails if a key was required there. -/
def dropKey? (lexer : Lexer) : Option Lexer :=
  if lexer.keyPlace.any (·.required) then none else some { lexer with keyPlace := none }

/-- Remembers the current place if a key may start here. -/
def saveKey? (lexer : Lexer) : Option Lexer :=
  if lexer.keyAllowed then do
    let lexer ← lexer.dropKey?
    let c := lexer.cursor
    return { lexer with keyPlace := some {
      required := !lexer.inFlow && lexer.indent == c.column
      position := lexer.tokens.length
      index := c.index
      line := c.line
      column := c.column } }
  else some lexer

def isStale (c : Cursor) (place : KeyPlace) : Bool :=
  place.line < c.line || place.index + 1024 < c.index

def withoutStale? (c : Cursor) : Option KeyPlace → Option (Option KeyPlace)
  | none => some none
  | some place =>
    if !isStale c place then some (some place)
    else if place.required then none
    else some none

/-- Gives up the places that are too far back for a key. -/
def dropStaleKeys? (lexer : Lexer) : Option Lexer := do
  let keyPlace ← withoutStale? lexer.cursor lexer.keyPlace
  let outerPlaces ← lexer.outerPlaces.mapM (withoutStale? lexer.cursor)
  return { lexer with keyPlace, outerPlaces }

/-! ### blanks between tokens -/

/-- Skips blanks, comments and line breaks. Tabs are no indentation: in a block they are skipped
only where no key can start. A line break in a block lets a key start. -/
def skipBetween : Nat → Lexer → Lexer
  | 0, lexer => lexer
  | fuel + 1, lexer =>
    let c := lexer.cursor
    let c := if c.column == 0 && c.starts byteOrderMark then c.skip else c
    let tabs := lexer.inFlow || !lexer.keyAllowed
    let c := (c.dropWhile fun char ↦ char == ' ' || (tabs && char == '\t')).skipComment
    if c.atBreak then
      skipBetween fuel { lexer with
        cursor := c.skipBreak
        keyAllowed := lexer.keyAllowed || !lexer.inFlow }
    else lexer.moveTo c

/-! ### tokens -/

def directive? (lexer : Lexer) : Option Lexer := do
  let lexer ← (lexer.closeBlocks (-1)).dropKey?
  let (token, c) ← Token.takeDirective? lexer.cursor
  return ({ lexer with keyAllowed := false }.push token).moveTo c

def documentMarker? (lexer : Lexer) (token : Token) : Option Lexer := do
  let lexer ← (lexer.closeBlocks (-1)).dropKey?
  return ({ lexer with keyAllowed := false }.push token).moveTo (lexer.cursor.advance 3)

def flowStart? (lexer : Lexer) (token : Token) : Option Lexer := do
  let lexer ← lexer.saveKey?
  return { lexer with
    outerPlaces := lexer.keyPlace :: lexer.outerPlaces
    keyPlace := none
    keyAllowed := true }.pushMark token

def flowEnd? (lexer : Lexer) (token : Token) : Option Lexer := do
  let lexer ← lexer.dropKey?
  let lexer := match lexer.outerPlaces with
    | [] => lexer
    | keyPlace :: outerPlaces => { lexer with keyPlace, outerPlaces }
  return { lexer with keyAllowed := false }.pushMark token

def flowEntry? (lexer : Lexer) : Option Lexer := do
  let lexer ← lexer.dropKey?
  return { lexer with keyAllowed := true }.pushMark .flowEntry

def blockEntry? (lexer : Lexer) : Option Lexer := do
  guard (lexer.inFlow || lexer.keyAllowed)
  let lexer ← (lexer.openBlockHere .blockSequence).dropKey?
  return { lexer with keyAllowed := true }.pushMark .blockEntry

def key? (lexer : Lexer) : Option Lexer := do
  guard (lexer.inFlow || lexer.keyAllowed)
  let lexer ← (lexer.openBlockHere .blockMapping).dropKey?
  return { lexer with keyAllowed := !lexer.inFlow }.pushMark .key

def value? (lexer : Lexer) : Option Lexer :=
  match lexer.keyPlace with
  | some place =>
    let lexer := (lexer.insert place.position .key).openBlock place.column place.position
      .blockMapping
    some ({ lexer with keyPlace := none, keyAllowed := false }.pushMark .value)
  | none => do
    guard (lexer.inFlow || lexer.keyAllowed)
    let lexer := lexer.openBlockHere .blockMapping
    return { lexer with keyAllowed := !lexer.inFlow }.pushMark .value

/-- A token that may be part of a key, read from its first character on. -/
def keyPart? (lexer : Lexer) (take? : Cursor → Option (Token × Cursor)) : Option Lexer := do
  let lexer ← lexer.saveKey?
  let (token, c) ← take? lexer.cursor
  return ({ lexer with keyAllowed := false }.push token).moveTo c

def quoted? (lexer : Lexer) (single : Bool) : Option Lexer :=
  lexer.keyPart? fun c ↦ (takeQuoted? single c).map fun (text, c) ↦
    (.scalar (String.ofList text) .quoted, c)

def plain? (lexer : Lexer) : Option Lexer := do
  let lexer ← lexer.saveKey?
  let plain ← takePlain? lexer.inFlow (lexer.indent + 1) lexer.cursor
  return ({ lexer with keyAllowed := plain.broken }.push
    (.scalar (String.ofList plain.text) .plain)).moveTo plain.next

def block? (lexer : Lexer) (style : Style) : Option Lexer := do
  let lexer ← lexer.dropKey?
  let (text, c) ← takeBlock? (style == .literal) lexer.indent lexer.cursor
  return ({ lexer with keyAllowed := true }.push (.scalar (String.ofList text) style)).moveTo c

def startsPlain (c : Cursor) (flow : Bool) (char : Char) : Bool :=
  !(isBlankOrBreak char || "-?:,[]\x7b\x7d#&*!|>'\"%@\x60".toList.contains char) ||
    (char == '-' && !(c.ahead? 1).any isBlank) ||
    (!flow && (char == '?' || char == ':') && !c.isBlankAt 1)

/-- Takes the token that starts at the current place, of which `char` is the first character. -/
def take? (lexer : Lexer) (char : Char) : Option Lexer :=
  let c := lexer.cursor
  let flow := lexer.inFlow
  if c.column == 0 && char == '%' then lexer.directive?
  else if c.atMarker '-' then lexer.documentMarker? .documentStart
  else if c.atMarker '.' then lexer.documentMarker? .documentEnd
  else if char == '[' then lexer.flowStart? .flowSequence
  else if char == '\x7b' then lexer.flowStart? .flowMapping
  else if char == ']' then lexer.flowEnd? .flowSequenceEnd
  else if char == '\x7d' then lexer.flowEnd? .flowMappingEnd
  else if char == ',' then lexer.flowEntry?
  else if char == '-' && c.isBlankAt 1 then lexer.blockEntry?
  else if char == '?' && (flow || c.isBlankAt 1) then lexer.key?
  else if char == ':' && (flow || c.isBlankAt 1) then lexer.value?
  else if char == '*' then
    lexer.keyPart? fun c ↦ (Token.takeName? c).map fun (name, c) ↦ (.alias name, c)
  else if char == '&' then
    lexer.keyPart? fun c ↦ (Token.takeName? c).map fun (name, c) ↦ (.anchor name, c)
  else if char == '!' then lexer.keyPart? (Token.takeTag? flow)
  else if char == '|' && !flow then lexer.block? .literal
  else if char == '>' && !flow then lexer.block? .folded
  else if char == '\'' then lexer.quoted? true
  else if char == '"' then lexer.quoted? false
  else if startsPlain c flow char then lexer.plain?
  else none

/-- The end of the text closes all blocks, and no key may be left waiting for its colon. -/
def finish? (lexer : Lexer) : Option (List Token) := do
  let lexer ← (lexer.closeBlocks (-1)).dropKey?
  return lexer.tokens.reverse

def run? : Nat → Lexer → Option (List Token)
  | 0, _ => none
  | fuel + 1, lexer => do
    let lexer ← (skipBetween (lexer.cursor.rest.length + 1) lexer).dropStaleKeys?
    let lexer := lexer.closeBlocks lexer.cursor.column
    match lexer.cursor.head? with
    | none => lexer.finish?
    | some char => run? fuel (← lexer.take? char)

end Lexer

/-- The tokens of a text, if it can be divided into tokens. Every token takes at least one
character, so the length of the text bounds their number. -/
def tokens? (text : String) : Option (List Token) :=
  let chars := text.toList
  if chars.all isPrintable then Lexer.run? (chars.length + 1) { cursor := .ofText chars } else none

end DatasetSearch.Yaml
