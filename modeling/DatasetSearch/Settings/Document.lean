import DatasetSearch.Settings.Basic
import DatasetSearch.Yaml.Number

/-!
Settings read from a YAML document. The document overlays the defaults: each section and each field
may be left out, unknown keys are passed over, and a known key may stand once. A known field whose
value does not have the field's type makes the whole document unreadable.
-/

set_option autoImplicit false
set_option relaxedAutoImplicit false

namespace DatasetSearch.Settings

/-- An alias stands for the node of its anchor. -/
def follow? (anchors : Yaml.Anchors) : Yaml.Node → Option Yaml.Node
  | .alias number => anchors.find? number
  | node => some node

/-- The entries of a mapping. A plain scalar without text stands for an empty one. -/
def entries? (node : Yaml.Node) : Option (List (Yaml.Node × Yaml.Node)) :=
  match node with
  | .mapping entries => some entries
  | .scalar "" .plain _ => some []
  | _ => none

/-- The entries of a mapping by the texts of their keys, which all have to be scalars. -/
def keyed? (anchors : Yaml.Anchors) (node : Yaml.Node) : Option (Fields Yaml.Node) := do
  (← entries? (← follow? anchors node)).mapM fun (key, value) ↦ do
    return (← (← follow? anchors key).text?, value)

/-- The value under a key that may be absent and may not be repeated. -/
def single? (key : String) (fields : Fields Yaml.Node) : Option (Option Yaml.Node) :=
  match fields.filter (·.1 == key) with
  | [] => some none
  | [(_, value)] => some (some value)
  | _ => none

/-- A field of a section: its default if the key is absent, and nothing if its value cannot be
read. -/
def field? {α : Type} (anchors : Yaml.Anchors) (fields : Fields Yaml.Node) (key : String)
    (read? : Yaml.Node → Option α) (default : α) : Option α := do
  match ← single? key fields with
  | none => return default
  | some value => read? (← follow? anchors value)

def word? (bits : Nat) (node : Yaml.Node) : Option Nat := do
  let n ← node.natural?
  guard (n < 1 <<< bits)
  return n

def Server.ofNode? (anchors : Yaml.Anchors) (node : Yaml.Node) : Option Server := do
  let fields ← keyed? anchors node
  let base : Server := {}
  return {
    port := ← field? anchors fields "port" (fun n ↦ (word? 16 n).map UInt16.ofNat) base.port
    bindAddress := ← field? anchors fields "bind_address" Yaml.Node.text? base.bindAddress }

def Database.ofNode? (anchors : Yaml.Anchors) (node : Yaml.Node) : Option Database := do
  let fields ← keyed? anchors node
  let base : Database := {}
  return {
    connectionString := ←
      field? anchors fields "connection_string" Yaml.Node.text? base.connectionString
    databaseName := ← field? anchors fields "database_name" Yaml.Node.text? base.databaseName
    collection := ← field? anchors fields "collection" Yaml.Node.text? base.collection
    searchIndex := ← field? anchors fields "search_index" Yaml.Node.text? base.searchIndex
    requestTimeout := ←
      field? anchors fields "request_timeout" Yaml.Node.binary64? base.requestTimeout
    maxPoolSize := ←
      field? anchors fields "max_pool_size" (fun n ↦ (word? 32 n).map UInt32.ofNat)
        base.maxPoolSize }

def Search.ofNode? (anchors : Yaml.Anchors) (node : Yaml.Node) : Option Search := do
  let fields ← keyed? anchors node
  let base : Search := {}
  return {
    defaultPageSize := ←
      field? anchors fields "default_page_size" (fun n ↦ (word? 32 n).map UInt32.ofNat)
        base.defaultPageSize
    maxPageSize := ←
      field? anchors fields "max_page_size" (fun n ↦ (word? 32 n).map UInt32.ofNat)
        base.maxPageSize }

/-- A section: its defaults if the key is absent. -/
def section? {α : Type} (fields : Fields Yaml.Node) (key : String)
    (read? : Yaml.Node → Option α) (default : α) : Option α := do
  match ← single? key fields with
  | none => return default
  | some node => read? node

def ofNode? (anchors : Yaml.Anchors) (node : Yaml.Node) : Option Settings := do
  let fields ← keyed? anchors node
  return {
    server := ← section? fields "server" (Server.ofNode? anchors) {}
    database := ← section? fields "database" (Database.ofNode? anchors) {}
    search := ← section? fields "search" (Search.ofNode? anchors) {} }

/-- A document without a root leaves all defaults as they are. -/
def ofDocument? (document : Yaml.Document) : Option Settings :=
  match document.root with
  | none => some {}
  | some root => ofNode? document.anchors root

def ofYaml? (text : String) : Option Settings := do
  ofDocument? (← Yaml.Document.ofText? text)

end DatasetSearch.Settings
