import DatasetSearch.Text.Numeral
import DatasetSearch.Yaml.Cursor

/-!
The five written forms of a scalar: plain, in single quotes, in double quotes, and as a block kept
line by line or folded. Between words of one scalar, blanks next to a line break are dropped, a
single break becomes a space, and of several breaks the first is dropped.
-/

set_option autoImplicit false
set_option relaxedAutoImplicit false

namespace DatasetSearch.Yaml

/-- The written forms that readers of values tell apart. -/
inductive Style where
  | plain
  | quoted
  | literal
  | folded
  deriving DecidableEq, Repr

/-! ### gaps -/

/-- Blanks and line breaks between two words. Blanks count only while there is no break. -/
structure Gap where
  blanks : List Char := []
  firstBreak : List Char := []
  laterBreaks : List Char := []
  broken : Bool := false

def Gap.folded (gap : Gap) : List Char :=
  if !gap.broken then gap.blanks
  else if gap.firstBreak != ['\n'] then gap.firstBreak ++ gap.laterBreaks
  else if gap.laterBreaks.isEmpty then [' ']
  else gap.laterBreaks

def Gap.addBlank (gap : Gap) (char : Char) : Gap :=
  if gap.broken then gap else { gap with blanks := gap.blanks ++ [char] }

def Gap.addBreak (gap : Gap) (text : List Char) : Gap :=
  if gap.broken then { gap with laterBreaks := gap.laterBreaks ++ text }
  else { blanks := [], firstBreak := text, laterBreaks := [], broken := true }

/-- Takes blanks and breaks; a tab left of `indent` on a new line is refused. -/
def takeGap? (indent : Int) : Nat → Gap → Cursor → Option (Gap × Cursor)
  | 0, gap, c => some (gap, c)
  | fuel + 1, gap, c =>
    match c.head? with
    | none => some (gap, c)
    | some char =>
      if isBlank char then
        if gap.broken && c.column < indent && char == '\t' then none
        else takeGap? indent fuel (gap.addBlank char) c.skip
      else if isBreak char then
        let (text, c) := c.takeBreak
        takeGap? indent fuel (gap.addBreak text) c
      else some (gap, c)

/-! ### quoted scalars -/

def simpleEscape? : Char → Option Char
  | '0' => some '\x00'
  | 'a' => some '\x07'
  | 'b' => some '\x08'
  | 't' => some '\t'
  | '\t' => some '\t'
  | 'n' => some '\n'
  | 'v' => some '\x0b'
  | 'f' => some '\x0c'
  | 'r' => some '\r'
  | 'e' => some '\x1b'
  | ' ' => some ' '
  | '"' => some '"'
  | '/' => some '/'
  | '\\' => some '\\'
  | 'N' => some '\u0085'
  | '_' => some '\u00a0'
  | 'L' => some '\u2028'
  | 'P' => some '\u2029'
  | _ => none

def codeEscapeLength? : Char → Option Nat
  | 'x' => some 2
  | 'u' => some 4
  | 'U' => some 8
  | _ => none

/-- The character of a code point; surrogates and what lies beyond the last one have none. -/
def codePoint? (n : Nat) : Option Char :=
  if h : n.isValidChar then some (Char.ofNatAux n h) else none

/-- The escaped character after a backslash, and how many characters its escape takes. -/
def takeEscape? (c : Cursor) : Option (Char × Cursor) := do
  let mark ← c.ahead? 1
  match codeEscapeLength? mark with
  | none => return (← simpleEscape? mark, c.advance 2)
  | some length =>
    let digits := (c.rest.drop 2).take length
    guard (digits.length == length)
    return (← codePoint? (← Text.Numeral.hexNumber? digits), c.advance (2 + length))

/-- A run of a quoted scalar: its text, and whether an escaped line break ended it. -/
structure Run where
  text : List Char
  escapedBreak : Bool
  next : Cursor

/-- Takes characters up to a blank, a break, the closing quote or the end of the text. -/
def takeRun? (single : Bool) : Nat → List Char → Cursor → Option Run
  | 0, text, c => some ⟨text, false, c⟩
  | fuel + 1, text, c =>
    match c.rest with
    | [] => some ⟨text, false, c⟩
    | char :: rest =>
      if isBlankOrBreak char then some ⟨text, false, c⟩
      else if single then
        if char == '\'' then
          if rest.head? == some '\'' then takeRun? single fuel (text ++ ['\'']) (c.advance 2)
          else some ⟨text, false, c⟩
        else takeRun? single fuel (text ++ [char]) c.skip
      else if char == '"' then some ⟨text, false, c⟩
      else if char == '\\' then
        if rest.head?.any isBreak then some ⟨text, true, c.skip.skipBreak⟩
        else do
          let (escaped, c) ← takeEscape? c
          takeRun? single fuel (text ++ [escaped]) c
      else takeRun? single fuel (text ++ [char]) c.skip

/-- Takes the rest of a quoted scalar and its closing quote. A document marker may not stand inside
it. -/
def takeQuotedFrom? (single : Bool) : Nat → List Char → Cursor → Option (List Char × Cursor)
  | 0, _, _ => none
  | fuel + 1, text, c => do
    guard (!c.atDocumentMarker && !c.atEnd)
    let run ← takeRun? single (c.rest.length + 1) [] c
    let text := text ++ run.text
    if run.next.starts (if single then '\'' else '"') then return (text, run.next.skip)
    let (gap, c) ← takeGap? 0 (run.next.rest.length + 1) { broken := run.escapedBreak } run.next
    takeQuotedFrom? single fuel (text ++ gap.folded) c

/-- Takes a quoted scalar of which the opening quote comes next. -/
def takeQuoted? (single : Bool) (c : Cursor) : Option (List Char × Cursor) :=
  takeQuotedFrom? single (c.rest.length + 1) [] c.skip

/-! ### plain scalars -/

def isFlowIndicator (c : Char) : Bool :=
  c == ',' || c == '[' || c == ']' || c == '\x7b' || c == '\x7d'

/-- The characters of a plain scalar up to a blank or an indicator that ends it. In a flow
collection a colon may not stand before another indicator. -/
def plainRun? (flow : Bool) : List Char → Option (List Char)
  | [] => some []
  | char :: rest =>
    let next := rest.head?
    if isBlankOrBreak char then some []
    else if flow && char == ':' && next.any (fun n ↦ isFlowIndicator n || n == '?') then none
    else if char == ':' && next.all isBlankOrBreak then some []
    else if flow && isFlowIndicator char then some []
    else (plainRun? flow rest).map (char :: ·)

structure Plain where
  text : List Char
  /-- Whether the scalar was followed by a line break. -/
  broken : Bool
  next : Cursor

def takePlainFrom? (flow : Bool) (indent : Int) : Nat → List Char → Gap → Cursor → Option Plain
  | 0, text, gap, c => some ⟨text, gap.broken, c⟩
  | fuel + 1, text, gap, c =>
    if c.atDocumentMarker || c.starts '#' then some ⟨text, gap.broken, c⟩
    else do
      let run ← plainRun? flow c.rest
      let (text, gap) := if run.isEmpty then (text, gap) else (text ++ gap.folded ++ run, {})
      let c := c.advance run.length
      if !(c.atBlank || c.atBreak) then return ⟨text, gap.broken, c⟩
      let (gap, c) ← takeGap? indent (c.rest.length + 1) gap c
      if !flow && c.column < indent then return ⟨text, gap.broken, c⟩
      takePlainFrom? flow indent fuel text gap c

/-- Takes a plain scalar whose later lines stand at least at `indent`. -/
def takePlain? (flow : Bool) (indent : Int) (c : Cursor) : Option Plain :=
  takePlainFrom? flow indent (c.rest.length + 1) [] {} c

/-! ### block scalars -/

/-- What becomes of the line breaks at the end of a block. -/
inductive Chomping where
  | strip
  | clip
  | keep
  deriving DecidableEq, Repr

def takeChomping (c : Cursor) : Option Chomping × Cursor :=
  if c.starts '+' then (some .keep, c.skip)
  else if c.starts '-' then (some .strip, c.skip)
  else (none, c)

/-- Takes an indentation digit, which may not be zero. -/
def takeIncrement? (c : Cursor) : Option (Option Nat × Cursor) :=
  match c.head? with
  | some char =>
    if '1' ≤ char ∧ char ≤ '9' then some (some (char.toNat - '0'.toNat), c.skip)
    else if char = '0' then none
    else some (none, c)
  | none => some (none, c)

/-- The chomping and indentation marks of a block, in either order. -/
def takeBlockHeader? (c : Cursor) : Option (Chomping × Option Nat × Cursor) := do
  let (early, c) := takeChomping c
  let (increment, c) ← takeIncrement? c
  let (late, c) := if early.isNone && increment.isSome then takeChomping c else (none, c)
  let c := (c.skipBlanks).skipComment
  guard (c.atEnd || c.atBreak)
  return ((early.or late).getD .clip, increment, c.skipBreak)

structure Margin where
  widest : Nat
  breaks : List Char
  next : Cursor

/-- Takes empty lines and the indentation after them. Without a known indentation every space
belongs to it. A tab may not stand in its place. -/
def takeMargin? (indent : Option Nat) : Nat → Nat → List Char → Cursor → Option Margin
  | 0, widest, breaks, c => some ⟨widest, breaks, c⟩
  | fuel + 1, widest, breaks, c =>
    let spaces := (c.rest.takeWhile (· == ' ')).length
    let c := c.advance (match indent with
      | none => spaces
      | some indent => min spaces (indent - c.column))
    let widest := max widest c.column
    if indent.all (c.column < ·) && c.starts '\t' then none
    else if c.atBreak then
      let (text, c) := c.takeBreak
      takeMargin? indent fuel widest (breaks ++ text) c
    else some ⟨widest, breaks, c⟩

/-- The lines of a block after its first margin. -/
structure BlockText where
  text : List Char := []
  lastBreak : List Char := []
  trailing : List Char := []
  /-- Whether the line before started with a blank, which keeps its break from being folded. -/
  afterBlank : Bool := false

def BlockText.addLine (literal : Bool) (block : BlockText) (line lineBreak : List Char) :
    BlockText :=
  let startsBlank := line.head?.any isBlank
  let joint :=
    if !literal && block.lastBreak == ['\n'] && !block.afterBlank && !startsBlank then
      if block.trailing.isEmpty then [' '] else []
    else block.lastBreak
  { text := block.text ++ joint ++ block.trailing ++ line
    lastBreak := lineBreak
    trailing := []
    afterBlank := startsBlank }

def BlockText.chomp (chomping : Chomping) (block : BlockText) : List Char :=
  match chomping with
  | .strip => block.text
  | .clip => block.text ++ block.lastBreak
  | .keep => block.text ++ block.lastBreak ++ block.trailing

def takeLines? (literal : Bool) (indent : Nat) : Nat → BlockText → Cursor →
    Option (BlockText × Cursor)
  | 0, block, c => some (block, c)
  | fuel + 1, block, c =>
    if c.column == indent && !c.atEnd then do
      let (line, c) := c.takeWhile (!isBreak ·)
      let (lineBreak, c) := c.takeBreak
      let block := block.addLine literal line lineBreak
      let margin ← takeMargin? (some indent) (c.rest.length + 1) 0 [] c
      takeLines? literal indent fuel { block with trailing := margin.breaks } margin.next
    else some (block, c)

/-- Takes a block scalar of which the indicator comes next, inside a collection at `outer`. Without
an indentation mark the widest of its first lines decides the indentation, which is at least one
column beyond the collection. -/
def takeBlock? (literal : Bool) (outer : Int) (c : Cursor) : Option (List Char × Cursor) := do
  let (chomping, increment, c) ← takeBlockHeader? c.skip
  let fixed := increment.map fun n ↦ if 0 ≤ outer then outer.toNat + n else n
  let margin ← takeMargin? fixed (c.rest.length + 1) 0 [] c
  let indent := fixed.getD (max (max margin.widest (outer + 1).toNat) 1)
  let (block, c) ← takeLines? literal indent (margin.next.rest.length + 1)
    { trailing := margin.breaks } margin.next
  return (block.chomp chomping, c)

end DatasetSearch.Yaml
