import DatasetSearch.Proofs.Fields.Named
import DatasetSearch.Settings.Document
import Mathlib.Logic.Relation

/-!
# The layout of a settings document

A layout is what a settings document says: names of sections, and under each of them keys with the
nodes that stand there once aliases are followed (`IsLayout`). `Field` is the table of the fields,
each with its section, its key and its type, and `found` looks one up in a layout.

Settings fit a layout if every field has the value that stands under its key, or its default where
nothing does (`Fits`). They exist as long as each known name stands once in its place and each type
accepts what is found (`exists_fits`), and edits of the layout do not change which settings fit it
(`fits_iff_of_edits`).
-/

set_option autoImplicit false
set_option relaxedAutoImplicit false

namespace DatasetSearch.Settings

open Yaml

/-! ### the fields -/

/-- The fields of all sections. -/
inductive Field where
  | port
  | bindAddress
  | connectionString
  | databaseName
  | collection
  | searchIndex
  | requestTimeout
  | maxPoolSize
  | defaultPageSize
  | maxPageSize

namespace Field

/-- The name of the section that a field belongs to. -/
def home : Field → String
  | port | bindAddress => "server"
  | connectionString | databaseName | collection | searchIndex | requestTimeout | maxPoolSize =>
    "database"
  | defaultPageSize | maxPageSize => "search"

def key : Field → String
  | port => "port"
  | bindAddress => "bind_address"
  | connectionString => "connection_string"
  | databaseName => "database_name"
  | collection => "collection"
  | searchIndex => "search_index"
  | requestTimeout => "request_timeout"
  | maxPoolSize => "max_pool_size"
  | defaultPageSize => "default_page_size"
  | maxPageSize => "max_page_size"

abbrev Value : Field → Type
  | port => UInt16
  | bindAddress | connectionString | databaseName | collection | searchIndex => String
  | requestTimeout => Binary64
  | maxPoolSize | defaultPageSize | maxPageSize => UInt32

def get (settings : Settings) : (field : Field) → field.Value
  | port => settings.server.port
  | bindAddress => settings.server.bindAddress
  | connectionString => settings.database.connectionString
  | databaseName => settings.database.databaseName
  | collection => settings.database.collection
  | searchIndex => settings.database.searchIndex
  | requestTimeout => settings.database.requestTimeout
  | maxPoolSize => settings.database.maxPoolSize
  | defaultPageSize => settings.search.defaultPageSize
  | maxPageSize => settings.search.maxPageSize

/-- The settings whose fields have the given values. -/
def settingsOf (value : (field : Field) → field.Value) : Settings where
  server := ⟨value port, value bindAddress⟩
  database := ⟨value connectionString, value databaseName, value collection, value searchIndex,
    value requestTimeout, value maxPoolSize⟩
  search := ⟨value defaultPageSize, value maxPageSize⟩

theorem get_settingsOf (value : (field : Field) → field.Value) (field : Field) :
    field.get (settingsOf value) = value field := by
  cases field <;> rfl

/-- What a field's type accepts as a value: as a text any scalar with that text, as a number a
scalar that reads as it. -/
def Holds : (field : Field) → Node → field.Value → Prop
  | port => fun node n ↦ node.natural? = some n.toNat
  | bindAddress | connectionString | databaseName | collection | searchIndex =>
    fun node text ↦ ∃ style tag, node = .scalar text style tag
  | requestTimeout => fun node seconds ↦ node.binary64? = some seconds
  | maxPoolSize | defaultPageSize | maxPageSize => fun node n ↦ node.natural? = some n.toNat

theorem forall_iff {P : Field → Prop} :
    (∀ field, P field) ↔ (P port ∧ P bindAddress) ∧
      (P connectionString ∧ P databaseName ∧ P collection ∧ P searchIndex ∧ P requestTimeout ∧
        P maxPoolSize) ∧ P defaultPageSize ∧ P maxPageSize := by
  constructor
  · intro h
    exact ⟨⟨h _, h _⟩, ⟨h _, h _, h _, h _, h _, h _⟩, h _, h _⟩
  · rintro ⟨⟨hport, haddress⟩, ⟨hstring, hname, hcollection, hindex, htimeout, hpool⟩, hdefault,
      hmost⟩ field
    cases field <;> assumption

theorem home_cases (field : Field) :
    field.home = "server" ∨ field.home = "database" ∨ field.home = "search" := by
  cases field <;> decide

end Field

def IsSectionName (name : String) : Prop :=
  ∃ field : Field, field.home = name

theorem isSectionName_server : IsSectionName "server" := ⟨.port, rfl⟩

theorem isSectionName_database : IsSectionName "database" := ⟨.searchIndex, rfl⟩

theorem isSectionName_search : IsSectionName "search" := ⟨.maxPageSize, rfl⟩

/-- The keys that are known in a section. -/
def IsKeyOf (name key : String) : Prop :=
  ∃ field : Field, field.home = name ∧ field.key = key

/-- The value of a field for the nodes that stand under its key: its default if there is none, and
else what the one node holds. -/
inductive IsOverlay {α : Type} (Holds : Node → α → Prop) (default : α) : List Node → α → Prop
  | absent : IsOverlay Holds default [] default
  | written {node : Node} {a : α} (hnode : Holds node a) : IsOverlay Holds default [node] a

section Overlay

variable {α : Type} {Holds : Node → α → Prop} {default a : α}

theorem isOverlay_nil_iff : IsOverlay Holds default [] a ↔ a = default := by
  constructor
  · rintro ⟨⟩
    rfl
  · rintro rfl
    exact .absent

theorem isOverlay_singleton_iff {node : Node} :
    IsOverlay Holds default [node] a ↔ Holds node a :=
  ⟨fun | .written hnode => hnode, .written⟩

theorem IsOverlay.length_le {nodes : List Node} (h : IsOverlay Holds default nodes a) :
    nodes.length ≤ 1 := by
  cases h <;> simp

theorem IsOverlay.holds_of_mem {nodes : List Node} (h : IsOverlay Holds default nodes a)
    {node : Node} (hnode : node ∈ nodes) : Holds node a := by
  cases h with
  | absent => cases hnode
  | written hheld =>
    cases List.mem_singleton.mp hnode
    exact hheld

theorem exists_isOverlay {nodes : List Node} (honce : nodes.length ≤ 1)
    (hheld : ∀ node ∈ nodes, ∃ a, Holds node a) : ∃ a, IsOverlay Holds default nodes a := by
  obtain _ | ⟨node, _ | ⟨second, rest⟩⟩ := nodes
  · exact ⟨default, .absent⟩
  · obtain ⟨a, ha⟩ := hheld node List.mem_cons_self
    exact ⟨a, .written ha⟩
  · simp at honce

/-- At most one node stands there, so the order does not matter. -/
theorem isOverlay_iff_of_perm {nodes others : List Node} (hperm : nodes.Perm others) :
    IsOverlay Holds default nodes a ↔ IsOverlay Holds default others a := by
  have hsame {first second : List Node} (hperm : first.Perm second)
      (h : IsOverlay Holds default first a) : IsOverlay Holds default second a := by
    cases h with
    | absent => exact List.nil_perm.mp hperm ▸ .absent
    | written hnode => exact List.singleton_perm.mp hperm ▸ .written hnode
  exact ⟨hsame hperm, hsame hperm.symm⟩

end Overlay

/-! ### layouts -/

/-- The node that a node stands for. An alias of nothing stands for itself. -/
def target (anchors : Anchors) : Node → Node
  | .alias number => (anchors.find? number).getD (.alias number)
  | node => node

/-- A mapping, all of whose keys are scalars, with the texts of its keys and its contents. -/
def IsMapping {α : Type} (anchors : Anchors) (Content : String → Node → α → Prop) (node : Node)
    (fields : Fields α) : Prop :=
  ∃ entries, target anchors node = .mapping entries ∧
    List.Forall₂ (fun entry field ↦
      (∃ style tag, target anchors entry.1 = .scalar field.1 style tag) ∧
        Content field.1 entry.2 field.2) entries fields

def IsSection (anchors : Anchors) : Node → Fields Node → Prop :=
  IsMapping anchors fun _ node value ↦ target anchors node = value

/-- What a document says: the entries of its sections. Anything may stand under other names at the
root. -/
def IsLayout (anchors : Anchors) : Node → Fields (Fields Node) → Prop :=
  IsMapping anchors fun name node values ↦ IsSectionName name → IsSection anchors node values

/-- The parts of a document that are read: its root, and what stands under the name of a
section. -/
inductive IsPart (anchors : Anchors) (root : Node) : Node → Prop
  | whole : IsPart anchors root root
  | under {entries : List (Node × Node)} {entry : Node × Node} {name : String} {style : Style}
    {tag : Option String} (hroot : target anchors root = .mapping entries)
    (hentry : entry ∈ entries) (hkey : target anchors entry.1 = .scalar name style tag)
    (hname : IsSectionName name) : IsPart anchors root entry.2

/-- All keys of the mappings that are read are scalars. -/
def HasScalarKeys (anchors : Anchors) (root : Node) : Prop :=
  ∀ part, IsPart anchors root part → ∀ entries, target anchors part = .mapping entries →
    ∀ entry ∈ entries, ∃ text style tag, target anchors entry.1 = .scalar text style tag

theorem exists_isMapping {α : Type} {anchors : Anchors} {Content : String → Node → α → Prop}
    {node : Node} {entries : List (Node × Node)} (htarget : target anchors node = .mapping entries)
    (hentries : ∀ entry ∈ entries, ∃ text style tag, target anchors entry.1 =
      .scalar text style tag ∧ ∃ content, Content text entry.2 content) :
    ∃ fields, IsMapping anchors Content node fields := by
  suffices hfields : ∃ fields : Fields α, List.Forall₂ (fun entry field ↦
      (∃ style tag, target anchors entry.1 = .scalar field.1 style tag) ∧
        Content field.1 entry.2 field.2) entries fields by
    obtain ⟨fields, hfields⟩ := hfields
    exact ⟨fields, entries, htarget, hfields⟩
  clear htarget
  induction entries with
  | nil => exact ⟨[], .nil⟩
  | cons entry rest ih =>
    obtain ⟨⟨text, style, tag, hkey, content, hcontent⟩, hrest⟩ := List.forall_mem_cons.mp hentries
    obtain ⟨fields, hfields⟩ := ih hrest
    exact ⟨(text, content) :: fields, .cons ⟨⟨style, tag, hkey⟩, hcontent⟩ hfields⟩

/-- A document whose parts are mappings has a layout if their keys are scalars. -/
theorem exists_isLayout {anchors : Anchors} {root : Node}
    (hparts : ∀ part, IsPart anchors root part → ∃ entries, target anchors part = .mapping entries)
    (hkeys : HasScalarKeys anchors root) : ∃ layout, IsLayout anchors root layout := by
  obtain ⟨entries, hroot⟩ := hparts root .whole
  refine exists_isMapping hroot fun entry hentry ↦ ?_
  obtain ⟨name, style, tag, hkey⟩ := hkeys root .whole entries hroot entry hentry
  refine ⟨name, style, tag, hkey, ?_⟩
  by_cases hname : IsSectionName name
  · have hpart := IsPart.under hroot hentry hkey hname
    obtain ⟨inner, htarget⟩ := hparts entry.2 hpart
    have hsection : ∃ values, IsSection anchors entry.2 values := by
      refine exists_isMapping htarget fun field hfield ↦ ?_
      obtain ⟨text, style, tag, htext⟩ := hkeys entry.2 hpart inner htarget field hfield
      exact ⟨text, style, tag, htext, _, rfl⟩
    obtain ⟨values, hvalues⟩ := hsection
    exact ⟨values, fun _ ↦ hvalues⟩
  · exact ⟨[], fun hsection ↦ absurd hsection hname⟩

/-- The nodes that stand under the key of a field in its section. -/
def found (layout : Fields (Fields Node)) (field : Field) : List Node :=
  (Fields.named field.home layout).flatMap (Fields.named field.key)

/-- No section stands twice in the document, and no known key twice in its section. -/
structure KnownOnce (layout : Fields (Fields Node)) : Prop where
  sections : ∀ field : Field, (Fields.named field.home layout).length ≤ 1
  keys : ∀ field : Field, ∀ values ∈ Fields.named field.home layout,
    (Fields.named field.key values).length ≤ 1

/-- Settings that fit a layout: no section stands there twice, and each field has the value that
its nodes give. -/
structure Fits (layout : Fields (Fields Node)) (settings : Settings) : Prop where
  sections : ∀ field : Field, (Fields.named field.home layout).length ≤ 1
  fields : ∀ field : Field,
    IsOverlay field.Holds (field.get {}) (found layout field) (field.get settings)

section Layout

variable {layout : Fields (Fields Node)}

theorem found_eq_named {field : Field} (honce : (Fields.named field.home layout).length ≤ 1)
    {values : Fields Node} (hvalues : values ∈ Fields.named field.home layout) :
    found layout field = Fields.named field.key values := by
  unfold found
  generalize Fields.named field.home layout = sections at honce hvalues ⊢
  obtain _ | ⟨only, _ | ⟨second, rest⟩⟩ := sections
  · cases hvalues
  · cases List.mem_singleton.mp hvalues
    exact List.flatMap_singleton _ _
  · simp at honce

theorem KnownOnce.length_found_le (honce : KnownOnce layout) (field : Field) :
    (found layout field).length ≤ 1 := by
  by_cases hsection : ∃ values, values ∈ Fields.named field.home layout
  · obtain ⟨values, hvalues⟩ := hsection
    rw [found_eq_named (honce.sections field) hvalues]
    exact honce.keys field values hvalues
  · have hnone := List.eq_nil_iff_forall_not_mem.mpr (not_exists.mp hsection)
    rw [found, hnone]
    exact Nat.zero_le 1

theorem Fits.knownOnce {settings : Settings} (hfits : Fits layout settings) : KnownOnce layout := by
  refine ⟨hfits.sections, fun field values hvalues ↦ ?_⟩
  rw [← found_eq_named (hfits.sections field) hvalues]
  exact (hfits.fields field).length_le

theorem exists_fits (honce : KnownOnce layout)
    (hheld : ∀ field : Field, ∀ node ∈ found layout field, ∃ value, field.Holds node value) :
    ∃ settings, Fits layout settings := by
  have hvalue (field : Field) :
      ∃ value, IsOverlay field.Holds (field.get {}) (found layout field) value :=
    exists_isOverlay (honce.length_found_le field) (hheld field)
  choose value hvalue using hvalue
  refine ⟨Field.settingsOf value, honce.sections, fun field ↦ ?_⟩
  rw [Field.get_settingsOf]
  exact hvalue field

end Layout

/-! ### edits -/

/-- One edit of a layout: of its sections, or of the entries of one section. -/
inductive Edit : Fields (Fields Node) → Fields (Fields Node) → Prop
  | sections {layout other : Fields (Fields Node)}
    (hedit : Fields.Edit IsSectionName layout other) : Edit layout other
  | entries (before after : Fields (Fields Node)) {name : String} {values others : Fields Node}
    (hedit : Fields.Edit (IsKeyOf name) values others) :
    Edit (before ++ (name, values) :: after) (before ++ (name, others) :: after)

theorem Edit.length_named_eq {layout other : Fields (Fields Node)} (hedit : Edit layout other)
    (field : Field) :
    (Fields.named field.home layout).length = (Fields.named field.home other).length := by
  cases hedit with
  | sections hedit => exact (hedit.named_perm ⟨field, rfl⟩).length_eq
  | entries before after _ =>
    simp only [Fields.named_append, Fields.named_cons, List.length_append]
    split <;> rfl

theorem Edit.found_perm {layout other : Fields (Fields Node)} (hedit : Edit layout other)
    (field : Field) : (found layout field).Perm (found other field) := by
  cases hedit with
  | sections hedit => exact (hedit.named_perm ⟨field, rfl⟩).flatMap_right _
  | @entries before after name values others hedit =>
    simp only [found, Fields.named_append, Fields.named_cons, List.flatMap_append]
    split
    · next hname =>
      have hsame := hedit.named_perm ⟨field, hname.symm, rfl⟩
      exact (hsame.append_right _).append_left _
    · exact .refl _

theorem Edit.fits_iff {layout other : Fields (Fields Node)} (hedit : Edit layout other)
    (settings : Settings) : Fits layout settings ↔ Fits other settings := by
  constructor
  · rintro ⟨hsections, hfields⟩
    exact ⟨fun field ↦ hedit.length_named_eq field ▸ hsections field,
      fun field ↦ (isOverlay_iff_of_perm (hedit.found_perm field)).mp (hfields field)⟩
  · rintro ⟨hsections, hfields⟩
    exact ⟨fun field ↦ (hedit.length_named_eq field).symm ▸ hsections field,
      fun field ↦ (isOverlay_iff_of_perm (hedit.found_perm field)).mpr (hfields field)⟩

/-- Edits can be made and undone in any number. -/
theorem fits_iff_of_edits {layout other : Fields (Fields Node)}
    (hedits : Relation.EqvGen Edit layout other) (settings : Settings) :
    Fits layout settings ↔ Fits other settings := by
  induction hedits with
  | rel _ _ hedit => exact hedit.fits_iff settings
  | refl _ => exact Iff.rfl
  | symm _ _ _ ih => exact ih.symm
  | trans _ _ _ _ _ ih ih' => exact ih.trans ih'

end DatasetSearch.Settings
