import DatasetSearch.Fields
import DatasetSearch.Yaml.Lexer

/-!
The nodes of a YAML document, read from its tokens. Anchored nodes are filed under numbers, which
count the names in use when the anchor is met; an alias stands for the node that is filed last
under its name's number. A text holds one document or none.
-/

set_option autoImplicit false
set_option relaxedAutoImplicit false

namespace DatasetSearch.Yaml

inductive Node where
  | scalar (text : String) (style : Style) (tag : Option String)
  | sequence (items : List Node)
  | mapping (entries : List (Node × Node))
  | alias (number : Nat)
  deriving Repr, Inhabited

/-- A node that is left out. -/
def Node.absent : Node := .scalar "" .plain none

/-! ### anchors -/

structure Anchors where
  /-- The number of each name. -/
  numbers : Fields Nat := []
  /-- For each number the anchor that holds it, by its place among all anchors; latest first. -/
  holders : List (Nat × Nat) := []
  /-- The nodes of the anchors that are complete. -/
  nodes : List (Nat × Node) := []
  deriving Repr

namespace Anchors

def declare (anchors : Anchors) (name : String) : Nat × Anchors :=
  let number := anchors.numbers.length
  let place := anchors.holders.length
  (place, { anchors with
    numbers := Fields.put name number anchors.numbers
    holders := (number, place) :: anchors.holders })

def define (anchors : Anchors) (place : Nat) (node : Node) : Anchors :=
  { anchors with nodes := (place, node) :: anchors.nodes }

def find? (anchors : Anchors) (number : Nat) : Option Node := do
  anchors.nodes.lookup (← anchors.holders.lookup number)

end Anchors

/-! ### reading nodes -/

structure Reader where
  tokens : List Token
  handles : Fields String := []
  anchors : Anchors := {}

namespace Reader

def drop (reader : Reader) (count : Nat) : Reader :=
  { reader with tokens := reader.tokens.drop count }

def next? (reader : Reader) : Option Token := reader.tokens.head?

/-- Whether the next token is one of the given ones. -/
def stopsAt (reader : Reader) (stops : List Token) : Bool :=
  reader.next?.any stops.contains

/-- What stands in front of a node: an anchor, a tag, or both in either order. -/
structure Properties where
  anchor : Option String := none
  tag : Option (String × String) := none

def takeProperties (reader : Reader) : Properties × Reader :=
  match reader.tokens with
  | .anchor name :: .tag handle suffix :: _ => (⟨name, (handle, suffix)⟩, reader.drop 2)
  | .tag handle suffix :: .anchor name :: _ => (⟨name, (handle, suffix)⟩, reader.drop 2)
  | .anchor name :: _ => (⟨name, none⟩, reader.drop 1)
  | .tag handle suffix :: _ => (⟨none, (handle, suffix)⟩, reader.drop 1)
  | _ => ({}, reader)

/-- The full tag, for which the handle has to be known. -/
def resolveTag? (reader : Reader) (tag : Option (String × String)) : Option (Option String) :=
  match tag with
  | none => some none
  | some (handle, suffix) =>
    if handle.isEmpty then some (some suffix)
    else (Fields.get? handle reader.handles).map fun start ↦ some (start ++ suffix)

/-- The tag that a lone mark gives says nothing about a scalar. -/
def scalarTag (tag : Option String) : Option String :=
  if tag = some "!" then none else tag

mutual

/-- Reads one node. Block collections are read only where a block may stand, and a sequence without
indentation only as part of a block mapping. -/
def node? (fuel : Nat) (block indentless : Bool) (reader : Reader) : Option (Node × Reader) :=
  match fuel, reader.tokens with
  | 0, _ => none
  | _ + 1, .alias name :: _ => do
    let number ← Fields.get? name reader.anchors.numbers
    return (.alias number, reader.drop 1)
  | fuel + 1, _ => do
    let (properties, reader) := reader.takeProperties
    let tag ← reader.resolveTag? properties.tag
    match properties.anchor with
    | none => content? fuel block indentless properties tag reader
    | some name =>
      let (place, anchors) := reader.anchors.declare name
      let (node, reader) ← content? fuel block indentless properties tag { reader with anchors }
      return (node, { reader with anchors := reader.anchors.define place node })

def content? (fuel : Nat) (block indentless : Bool) (properties : Properties)
    (tag : Option String) (reader : Reader) : Option (Node × Reader) :=
  match fuel, reader.tokens with
  | 0, _ => none
  | fuel + 1, .blockEntry :: _ =>
    if indentless then do
      let (items, reader) ← indentlessItems? fuel reader
      return (.sequence items, reader)
    else absent? properties tag reader
  | _ + 1, .scalar text style :: _ => some (.scalar text style (scalarTag tag), reader.drop 1)
  | fuel + 1, .flowSequence :: _ => do
    let (items, reader) ← flowItems? fuel true (reader.drop 1)
    return (.sequence items, reader)
  | fuel + 1, .flowMapping :: _ => do
    let (entries, reader) ← flowEntries? fuel true (reader.drop 1)
    return (.mapping entries, reader)
  | fuel + 1, .blockSequence :: _ =>
    if block then do
      let (items, reader) ← blockItems? fuel (reader.drop 1)
      return (.sequence items, reader)
    else absent? properties tag reader
  | fuel + 1, .blockMapping :: _ =>
    if block then do
      let (entries, reader) ← blockEntries? fuel (reader.drop 1)
      return (.mapping entries, reader)
    else absent? properties tag reader
  | _ + 1, _ => absent? properties tag reader

/-- Properties alone make a node. -/
def absent? (properties : Properties) (tag : Option String) (reader : Reader) :
    Option (Node × Reader) :=
  if properties.anchor.isSome || properties.tag.isSome then
    some (.scalar "" .plain tag, reader)
  else none

/-- Reads a node, or leaves it out if one of the given tokens comes next. -/
def nodeUnless? (fuel : Nat) (block indentless : Bool) (stops : List Token) (reader : Reader) :
    Option (Node × Reader) :=
  match fuel with
  | 0 => none
  | fuel + 1 =>
    if reader.stopsAt stops then some (.absent, reader)
    else node? fuel block indentless reader

/-- The items of a block sequence and its end. -/
def blockItems? (fuel : Nat) (reader : Reader) : Option (List Node × Reader) :=
  match fuel, reader.tokens with
  | fuel + 1, .blockEntry :: _ => do
    let (item, reader) ← nodeUnless? fuel true false [.blockEntry, .blockEnd] (reader.drop 1)
    let (items, reader) ← blockItems? fuel reader
    return (item :: items, reader)
  | _ + 1, .blockEnd :: _ => some ([], reader.drop 1)
  | _, _ => none

/-- The items of a block sequence that is not indented. It ends with its last item. -/
def indentlessItems? (fuel : Nat) (reader : Reader) : Option (List Node × Reader) :=
  match fuel, reader.tokens with
  | 0, _ => none
  | fuel + 1, .blockEntry :: _ => do
    let (item, reader) ← nodeUnless? fuel true false [.blockEntry, .key, .value, .blockEnd]
      (reader.drop 1)
    let (items, reader) ← indentlessItems? fuel reader
    return (item :: items, reader)
  | _ + 1, _ => some ([], reader)

/-- The entries of a block mapping and its end. Key or value may be left out. -/
def blockEntries? (fuel : Nat) (reader : Reader) : Option (List (Node × Node) × Reader) :=
  let stops := [.key, .value, .blockEnd]
  match fuel, reader.tokens with
  | fuel + 1, .key :: _ => do
    let (key, reader) ← nodeUnless? fuel true true stops (reader.drop 1)
    let (value, reader) ←
      if reader.stopsAt [.value] then nodeUnless? fuel true true stops (reader.drop 1)
      else some (.absent, reader)
    let (entries, reader) ← blockEntries? fuel reader
    return ((key, value) :: entries, reader)
  | _ + 1, .blockEnd :: _ => some ([], reader.drop 1)
  | _, _ => none

/-- The items of a flow sequence and its end. A key mark makes an item a mapping of one entry; it
needs a key behind it, and the token that stands there instead is lost. -/
def flowItems? (fuel : Nat) (first : Bool) (reader : Reader) : Option (List Node × Reader) :=
  match fuel with
  | 0 => none
  | fuel + 1 =>
    if reader.stopsAt [.flowSequenceEnd] then some ([], reader.drop 1)
    else if !first && !reader.stopsAt [.flowEntry] then none
    else
      let reader := if first then reader else reader.drop 1
      if reader.stopsAt [.flowSequenceEnd] then some ([], reader.drop 1)
      else do
        let (item, reader) ←
          if reader.stopsAt [.key] then flowPair? fuel (reader.drop 1)
          else node? fuel false false reader
        let (items, reader) ← flowItems? fuel false reader
        return (item :: items, reader)

def flowPair? (fuel : Nat) (reader : Reader) : Option (Node × Reader) :=
  match fuel with
  | 0 => none
  | fuel + 1 => do
    let (key, reader) ←
      if reader.stopsAt [.value, .flowEntry, .flowSequenceEnd] then
        some (Node.absent, reader.drop 1)
      else node? fuel false false reader
    let (value, reader) ←
      if reader.stopsAt [.value] then
        nodeUnless? fuel false false [.flowEntry, .flowSequenceEnd] (reader.drop 1)
      else some (.absent, reader)
    return (.mapping [(key, value)], reader)

/-- The entries of a flow mapping and its end. A node without a key mark is a key whose value is
left out. -/
def flowEntries? (fuel : Nat) (first : Bool) (reader : Reader) :
    Option (List (Node × Node) × Reader) :=
  match fuel with
  | 0 => none
  | fuel + 1 =>
    if reader.stopsAt [.flowMappingEnd] then some ([], reader.drop 1)
    else if !first && !reader.stopsAt [.flowEntry] then none
    else
      let reader := if first then reader else reader.drop 1
      if reader.stopsAt [.flowMappingEnd] then some ([], reader.drop 1)
      else do
        let (entry, reader) ←
          if reader.stopsAt [.key] then flowEntryPair? fuel (reader.drop 1)
          else do
            let (key, reader) ← node? fuel false false reader
            some ((key, Node.absent), reader)
        let (entries, reader) ← flowEntries? fuel false reader
        return (entry :: entries, reader)

def flowEntryPair? (fuel : Nat) (reader : Reader) : Option ((Node × Node) × Reader) :=
  match fuel with
  | 0 => none
  | fuel + 1 => do
    let (key, reader) ← nodeUnless? fuel false false [.value, .flowEntry, .flowMappingEnd] reader
    let (value, reader) ←
      if reader.stopsAt [.value] then
        nodeUnless? fuel false false [.flowEntry, .flowMappingEnd] (reader.drop 1)
      else some (.absent, reader)
    return ((key, value), reader)

end

end Reader

/-! ### documents -/

structure Document where
  /-- A text of blanks and comments alone has no root. -/
  root : Option Node
  anchors : Anchors := {}
  deriving Repr

namespace Document

/-- Handles that every document knows. -/
def standardHandles : Fields String := [("!", "!"), ("!!", "tag:yaml.org,2002:")]

/-- Reads directives: one version at most, which has to be a known one, and each handle once. -/
def directives? (versioned : Bool) (handles : Fields String) :
    List Token → Option (Fields String × List Token)
  | .version major minor :: rest =>
    if !versioned && major == 1 && (minor == 1 || minor == 2) then directives? true handles rest
    else none
  | .tagHandle handle start :: rest =>
    if (Fields.get? handle handles).isSome then none
    else directives? versioned (Fields.put handle start handles) rest
  | tokens => some (handles, tokens)

/-- Handles of the document come before the standard ones. -/
def withStandard (handles : Fields String) : Fields String :=
  handles ++ standardHandles

def isDocumentBoundary : Token → Bool
  | .version _ _ => true
  | .tagHandle _ _ => true
  | .documentStart => true
  | .documentEnd => true
  | _ => false

def root? (handles : Fields String) (tokens : List Token) : Option (Node × Reader) :=
  Reader.node? (4 * tokens.length + 4) true false { tokens, handles := withStandard handles }

/-- The content behind an explicit document start may be left out. -/
def explicit? (tokens : List Token) : Option (Node × Reader) := do
  let (handles, tokens) ← directives? false [] tokens
  match tokens with
  | .documentStart :: tokens =>
    if tokens.head?.all isDocumentBoundary then return (.absent, { tokens })
    root? handles tokens
  | _ => none

/-- The document of a whole token list: behind its end only end marks may follow. -/
def ofTokens? (tokens : List Token) : Option Document :=
  match tokens with
  | [] => some { root := none }
  | first :: _ => do
    let (root, reader) ←
      if isDocumentBoundary first && first != .documentEnd then explicit? tokens
      else root? [] tokens
    guard (reader.tokens.all (· == .documentEnd))
    return ⟨root, reader.anchors⟩

def ofText? (text : String) : Option Document := do
  ofTokens? (← tokens? text)

end Document

end DatasetSearch.Yaml
