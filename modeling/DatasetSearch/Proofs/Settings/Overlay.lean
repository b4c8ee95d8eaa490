import DatasetSearch.Proofs.Settings.Layout
import Mathlib.Data.Option.Basic

/-!
# Settings laid over the defaults

A settings document whose parts are mappings with scalar keys is read as the settings that fit its
layout, and is not read at all if none do (`ofDocument?_eq_some_iff`). The reader is followed from
the inside out: one field (`field?_eq_some_iff`), the fields of one section, the sections of the
document.

So a field that is present has the value that is written, and any other has its default, whatever
the order of the entries and whatever stands beside them under other keys. One value that a known
field does not take, or one known name that comes twice, leaves nothing of the document.

A key that is no scalar is not passed over like an unknown one. Nothing is left of a document with
such a key in one of its parts (`hasScalarKeys_of_ofNode?`), even if no field is at fault
(`listKey_refused`).
-/

set_option autoImplicit false
set_option relaxedAutoImplicit false

namespace DatasetSearch.Settings

open Yaml

/-! ### nodes -/

section Reading

variable {anchors : Anchors}

theorem bind_follow?_eq {α : Type} {read? : Node → Option α}
    (halias : ∀ number, read? (.alias number) = none) (node : Node) :
    (follow? anchors node).bind read? = read? (target anchors node) := by
  unfold target
  split
  · next number =>
    rw [follow?]
    cases anchors.find? number with
    | none => exact (halias number).symm
    | some content => rfl
  · next hnode =>
    rw [follow?, Option.bind_some]
    exact hnode

theorem text?_eq_some_iff (node : Node) (text : String) :
    node.text? = some text ↔ ∃ style tag, node = .scalar text style tag := by
  cases node <;> simp [Node.text?]

theorem keyed?_eq_mapM {node : Node} {entries : List (Node × Node)}
    (htarget : target anchors node = .mapping entries) :
    keyed? anchors node = entries.mapM fun entry ↦
      (target anchors entry.1).text?.map fun text ↦ (text, entry.2) := by
  have hentries : (follow? anchors node).bind entries? = some entries := by
    rw [bind_follow?_eq fun _ ↦ rfl, htarget, entries?]
  have hkey (key : Node) : (follow? anchors key).bind Node.text? = (target anchors key).text? :=
    bind_follow?_eq (fun _ ↦ rfl) key
  simp only [keyed?, Option.bind_eq_bind, ← Option.bind_assoc, hentries, hkey, Option.bind_some,
    Option.pure_def, Option.map_eq_bind, Function.comp_def]

/-- What can be read one by one can be read together. -/
theorem exists_mapM_of_forall₂ {α β γ : Type} {read? : α → Option β} {Content : β → γ → Prop}
    {items : List α} {contents : List γ}
    (hitems : List.Forall₂ (fun item content ↦ ∃ value, read? item = some value ∧
      Content value content) items contents) :
    ∃ values, items.mapM read? = some values ∧ List.Forall₂ Content values contents := by
  induction hitems with
  | nil => exact ⟨[], rfl, .nil⟩
  | cons hitem _ ih =>
    obtain ⟨value, hvalue, hcontent⟩ := hitem
    obtain ⟨values, hvalues, hcontents⟩ := ih
    exact ⟨value :: values, by simp [List.mapM_cons, hvalue, hvalues], .cons hcontent hcontents⟩

theorem exists_mem_of_mapM {α β : Type} {read? : α → Option β} {items : List α} {values : List β}
    (hread : items.mapM read? = some values) {item : α} (hitem : item ∈ items) :
    ∃ value ∈ values, read? item = some value := by
  induction items generalizing values with
  | nil => cases hitem
  | cons first rest ih =>
    simp only [List.mapM_cons, Option.bind_eq_bind, Option.bind_eq_some_iff] at hread
    obtain ⟨value, hfirst, others, hrest, hvalues⟩ := hread
    obtain rfl : value :: others = values := Option.some.inj hvalues
    rcases List.mem_cons.mp hitem with rfl | hmem
    · exact ⟨value, List.mem_cons_self, hfirst⟩
    · obtain ⟨found, hfound, hsame⟩ := ih hrest hmem
      exact ⟨found, List.mem_cons_of_mem _ hfound, hsame⟩

theorem keyed?_of_isMapping {α : Type} {Content : String → Node → α → Prop} {node : Node}
    {fields : Fields α} (hmapping : IsMapping anchors Content node fields) :
    ∃ raw, keyed? anchors node = some raw ∧
      List.Forall₂ (fun entry field ↦ entry.1 = field.1 ∧ Content field.1 entry.2 field.2)
        raw fields := by
  obtain ⟨entries, htarget, hentries⟩ := hmapping
  rw [keyed?_eq_mapM htarget]
  refine exists_mapM_of_forall₂ (hentries.imp fun entry field hentry ↦ ?_)
  obtain ⟨hkey, hcontent⟩ := hentry
  have htext := (text?_eq_some_iff (target anchors entry.1) field.1).mpr hkey
  exact ⟨(field.1, entry.2), Option.map_eq_some_iff.mpr ⟨field.1, htext, rfl⟩, rfl, hcontent⟩

/-- Each entry of a mapping that is read has a key with a text, and is kept under that text. -/
theorem mem_of_keyed? {node : Node} {raw : Fields Node} (hraw : keyed? anchors node = some raw)
    {entries : List (Node × Node)} (htarget : target anchors node = .mapping entries)
    {entry : Node × Node} (hentry : entry ∈ entries) :
    ∃ text style tag, target anchors entry.1 = .scalar text style tag ∧ (text, entry.2) ∈ raw := by
  rw [keyed?_eq_mapM htarget] at hraw
  obtain ⟨field, hfield, hread⟩ := exists_mem_of_mapM hraw hentry
  obtain ⟨text, htext, rfl⟩ := Option.map_eq_some_iff.mp hread
  obtain ⟨style, tag, hkey⟩ := (text?_eq_some_iff _ _).mp htext
  exact ⟨text, style, tag, hkey, hfield⟩

theorem word?_eq_some_iff (bits : Nat) (node : Node) (n : Nat) :
    word? bits node = some n ↔ node.natural? = some n ∧ n < 1 <<< bits := by
  rw [word?, Option.bind_eq_bind, Option.bind_eq_some_iff]
  constructor
  · rintro ⟨found, hfound, hword⟩
    obtain ⟨_, hfits, hsame⟩ := Option.bind_eq_some_iff.mp hword
    obtain rfl : found = n := Option.some.inj hsame
    exact ⟨hfound, (Option.guard_eq_some' _).mp hfits⟩
  · rintro ⟨hfound, hfits⟩
    exact ⟨n, hfound, Option.bind_eq_some_iff.mpr ⟨(), (Option.guard_eq_some' _).mpr hfits, rfl⟩⟩

theorem single?_eq (key : String) (raw : Fields Node) :
    single? key raw = match Fields.named key raw with
      | [] => some none
      | [value] => some (some value)
      | _ => none := by
  rw [single?, Fields.named]
  cases raw.filter (·.1 == key) with
  | nil => rfl
  | cons first rest => cases rest <;> rfl

/-! ### one field -/

section Field

variable {raw values : Fields Node}
  (hvalues : List.Forall₂ (fun entry value ↦ entry.1 = value.1 ∧ target anchors entry.2 = value.2)
    raw values) (key : String)

include hvalues

theorem field?_eq_some_iff {α : Type} {read? : Node → Option α}
    (halias : ∀ number, read? (.alias number) = none) {Holds : Node → α → Prop}
    (hread : ∀ node a, read? node = some a ↔ Holds node a) (default a : α) :
    field? anchors raw key read? default = some a ↔
      IsOverlay Holds default (Fields.named key values) a := by
  have hnamed : List.Forall₂ (fun node value ↦ target anchors node = value)
      (Fields.named key raw) (Fields.named key values) :=
    Fields.forall₂_named (fun _ node value ↦ target anchors node = value) hvalues key
  rw [field?, single?_eq]
  generalize Fields.named key raw = nodes at hnamed ⊢
  generalize Fields.named key values = targets at hnamed ⊢
  cases hnamed with
  | nil => simp [isOverlay_nil_iff, eq_comm]
  | @cons node value nodes values hvalue hrest =>
    cases hrest with
    | nil =>
      rw [isOverlay_singleton_iff, ← hvalue, ← hread, ← bind_follow?_eq halias]
      rfl
    | cons _ _ => exact iff_of_false nofun nofun

theorem field?_text_eq_some_iff (default text : String) :
    field? anchors raw key Node.text? default = some text ↔
      IsOverlay (fun node text ↦ ∃ style tag, node = .scalar text style tag) default
        (Fields.named key values) text :=
  field?_eq_some_iff hvalues key (fun _ ↦ rfl) text?_eq_some_iff default text

theorem field?_binary64_eq_some_iff (default seconds : Binary64) :
    field? anchors raw key Node.binary64? default = some seconds ↔
      IsOverlay (fun node seconds ↦ node.binary64? = some seconds) default
        (Fields.named key values) seconds :=
  field?_eq_some_iff hvalues key (fun _ ↦ rfl) (fun _ _ ↦ Iff.rfl) default seconds

/-- A word is read from the numbers that it can hold, and from no other. -/
theorem field?_word_eq_some_iff {Word : Type} {bits : Nat} {ofNat : Nat → Word}
    {toNat : Word → Nat} (hbound : ∀ word, toNat word < 1 <<< bits)
    (hnumber : ∀ n < 1 <<< bits, toNat (ofNat n) = n) (hword : ∀ word, ofNat (toNat word) = word)
    (default word : Word) :
    field? anchors raw key (fun node ↦ (word? bits node).map ofNat) default = some word ↔
      IsOverlay (fun node word ↦ node.natural? = some (toNat word)) default
        (Fields.named key values) word := by
  refine field?_eq_some_iff hvalues key (fun _ ↦ rfl) (fun node word ↦ ?_) default word
  simp only [Option.map_eq_some_iff, word?_eq_some_iff]
  constructor
  · rintro ⟨n, ⟨hfound, hfits⟩, rfl⟩
    rw [hfound, hnumber n hfits]
  · intro hfound
    exact ⟨toNat word, ⟨hfound, hbound word⟩, hword word⟩

theorem field?_word16_eq_some_iff (default word : UInt16) :
    field? anchors raw key (fun node ↦ (word? 16 node).map UInt16.ofNat) default = some word ↔
      IsOverlay (fun node word ↦ node.natural? = some word.toNat) default
        (Fields.named key values) word :=
  field?_word_eq_some_iff hvalues key UInt16.toNat_lt (fun _ ↦ UInt16.toNat_ofNat_of_lt')
    (fun _ ↦ UInt16.ofNat_toNat) default word

theorem field?_word32_eq_some_iff (default word : UInt32) :
    field? anchors raw key (fun node ↦ (word? 32 node).map UInt32.ofNat) default = some word ↔
      IsOverlay (fun node word ↦ node.natural? = some word.toNat) default
        (Fields.named key values) word :=
  field?_word_eq_some_iff hvalues key UInt32.toNat_lt (fun _ ↦ UInt32.toNat_ofNat_of_lt')
    (fun _ ↦ UInt32.ofNat_toNat) default word

end Field

/-! ### sections -/

/-- The fields of a section have the values that the nodes give. -/
def Fills (name : String) (nodes : Field → List Node) (settings : Settings) : Prop :=
  ∀ field : Field, field.home = name →
    IsOverlay field.Holds (field.get {}) (nodes field) (field.get settings)

theorem fills_congr {name : String} {nodes others : Field → List Node} {settings : Settings}
    (hsame : ∀ field : Field, field.home = name → nodes field = others field) :
    Fills name nodes settings ↔ Fills name others settings :=
  forall₂_congr fun field hhome ↦ by rw [hsame field hhome]

theorem fills_nil_iff {name : String} {settings : Settings} :
    Fills name (fun _ ↦ []) settings ↔
      ∀ field : Field, field.home = name → field.get settings = field.get {} :=
  forall₂_congr fun _ _ ↦ isOverlay_nil_iff

theorem server_eq_default_iff (settings : Settings) :
    settings.server = {} ↔ Fills "server" (fun _ ↦ []) settings := by
  obtain ⟨⟨port, address⟩, _, _⟩ := settings
  simp [fills_nil_iff, Field.forall_iff, Field.home, Field.get]

theorem database_eq_default_iff (settings : Settings) :
    settings.database = {} ↔ Fills "database" (fun _ ↦ []) settings := by
  obtain ⟨_, ⟨string, name, collection, index, timeout, pool⟩, _⟩ := settings
  simp [fills_nil_iff, Field.forall_iff, Field.home, Field.get]

theorem search_eq_default_iff (settings : Settings) :
    settings.search = {} ↔ Fills "search" (fun _ ↦ []) settings := by
  obtain ⟨_, _, ⟨default, most⟩⟩ := settings
  simp [fills_nil_iff, Field.forall_iff, Field.home, Field.get]

section Section

variable {node : Node} {values : Fields Node} (hsection : IsSection anchors node values)
  (settings : Settings)

include hsection

theorem Server.ofNode?_eq_some_iff :
    Server.ofNode? anchors node = some settings.server ↔
      Fills "server" (fun field ↦ Fields.named field.key values) settings := by
  obtain ⟨raw, hraw, hvalues⟩ := keyed?_of_isMapping hsection
  simp only [Server.ofNode?, hraw, Option.bind_eq_bind, Option.bind_some, Option.bind_eq_some_iff,
    field?_text_eq_some_iff hvalues, field?_word16_eq_some_iff hvalues]
  simp only [Fills, Field.forall_iff, Field.home, String.reduceEq, false_imp_iff, and_true,
    forall_const]
  constructor
  · rintro ⟨_, hport, _, haddress, hserver⟩
    simp only [Field.get, ← Option.some.inj hserver]
    exact ⟨hport, haddress⟩
  · rintro ⟨hport, haddress⟩
    exact ⟨_, hport, _, haddress, rfl⟩

theorem Database.ofNode?_eq_some_iff :
    Database.ofNode? anchors node = some settings.database ↔
      Fills "database" (fun field ↦ Fields.named field.key values) settings := by
  obtain ⟨raw, hraw, hvalues⟩ := keyed?_of_isMapping hsection
  simp only [Database.ofNode?, hraw, Option.bind_eq_bind, Option.bind_some,
    Option.bind_eq_some_iff, field?_text_eq_some_iff hvalues, field?_binary64_eq_some_iff hvalues,
    field?_word32_eq_some_iff hvalues]
  simp only [Fills, Field.forall_iff, Field.home, String.reduceEq, false_imp_iff, true_and,
    and_true, forall_const]
  constructor
  · rintro ⟨_, hstring, _, hname, _, hcollection, _, hindex, _, htimeout, _, hpool, hdatabase⟩
    simp only [Field.get, ← Option.some.inj hdatabase]
    exact ⟨hstring, hname, hcollection, hindex, htimeout, hpool⟩
  · rintro ⟨hstring, hname, hcollection, hindex, htimeout, hpool⟩
    exact ⟨_, hstring, _, hname, _, hcollection, _, hindex, _, htimeout, _, hpool, rfl⟩

theorem Search.ofNode?_eq_some_iff :
    Search.ofNode? anchors node = some settings.search ↔
      Fills "search" (fun field ↦ Fields.named field.key values) settings := by
  obtain ⟨raw, hraw, hvalues⟩ := keyed?_of_isMapping hsection
  simp only [Search.ofNode?, hraw, Option.bind_eq_bind, Option.bind_some, Option.bind_eq_some_iff,
    field?_word32_eq_some_iff hvalues]
  simp only [Fills, Field.forall_iff, Field.home, String.reduceEq, false_imp_iff, true_and,
    forall_const]
  constructor
  · rintro ⟨_, hdefault, _, hmost, hsearch⟩
    simp only [Field.get, ← Option.some.inj hsearch]
    exact ⟨hdefault, hmost⟩
  · rintro ⟨hdefault, hmost⟩
    exact ⟨_, hdefault, _, hmost, rfl⟩

end Section

/-! ### the document -/

/-- A section stands under its name once, or not at all; then its fields have their defaults. -/
theorem section?_eq_some_iff {raw : Fields Node} {layout : Fields (Fields Node)}
    (hlayout : List.Forall₂ (fun entry part ↦ entry.1 = part.1 ∧
      (IsSectionName part.1 → IsSection anchors entry.2 part.2)) raw layout)
    {name : String} {Part : Type} {read? : Node → Option Part} {default part : Part}
    {settings : Settings}
    (hread : ∀ {node : Node} {values : Fields Node}, IsSection anchors node values →
      (read? node = some part ↔ Fills name (fun field ↦ Fields.named field.key values) settings))
    (hdefault : part = default ↔ Fills name (fun _ ↦ []) settings)
    (hname : IsSectionName name) : section? raw name read? default = some part ↔
      (Fields.named name layout).length ≤ 1 ∧ Fills name (found layout) settings := by
  have hnamed : List.Forall₂ (fun node values ↦ IsSection anchors node values)
      (Fields.named name raw) (Fields.named name layout) := by
    refine (Fields.forall₂_named (fun name node values ↦ IsSectionName name →
      IsSection anchors node values) hlayout name).imp fun _ _ hsection ↦ hsection hname
  have hfound : Fills name (found layout) settings ↔
      Fills name (fun field ↦ (Fields.named name layout).flatMap (Fields.named field.key))
        settings :=
    fills_congr fun field hhome ↦ by rw [found, hhome]
  rw [section?, single?_eq, hfound]
  generalize Fields.named name raw = nodes at hnamed ⊢
  generalize Fields.named name layout = sections at hnamed ⊢
  cases hnamed with
  | nil => simp [← hdefault, eq_comm]
  | @cons node values nodes sections hsection hrest =>
    cases hrest with
    | nil => simp [hread hsection]
    | cons _ _ => simp

theorem fits_iff_fills (layout : Fields (Fields Node)) (settings : Settings) :
    Fits layout settings ↔
      ((Fields.named "server" layout).length ≤ 1 ∧ Fills "server" (found layout) settings) ∧
      ((Fields.named "database" layout).length ≤ 1 ∧ Fills "database" (found layout) settings) ∧
      ((Fields.named "search" layout).length ≤ 1 ∧ Fills "search" (found layout) settings) := by
  constructor
  · rintro ⟨hsections, hfields⟩
    exact ⟨⟨hsections .port, fun field _ ↦ hfields field⟩,
      ⟨hsections .maxPoolSize, fun field _ ↦ hfields field⟩,
      ⟨hsections .maxPageSize, fun field _ ↦ hfields field⟩⟩
  · rintro ⟨⟨honceServer, hserver⟩, ⟨honceDatabase, hdatabase⟩, ⟨honceSearch, hsearch⟩⟩
    constructor
    case sections => exact fun field ↦ by cases field <;> assumption
    case fields =>
      intro field
      rcases field.home_cases with hhome | hhome | hhome
      · exact hserver field hhome
      · exact hdatabase field hhome
      · exact hsearch field hhome

theorem ofNode?_eq_some_iff {root : Node} {layout : Fields (Fields Node)}
    (hlayout : IsLayout anchors root layout) (settings : Settings) :
    ofNode? anchors root = some settings ↔ Fits layout settings := by
  obtain ⟨raw, hraw, hparts⟩ := keyed?_of_isMapping hlayout
  have hserver := section?_eq_some_iff hparts
    (fun hsection ↦ Server.ofNode?_eq_some_iff hsection settings)
    (server_eq_default_iff settings) isSectionName_server
  have hdatabase := section?_eq_some_iff hparts
    (fun hsection ↦ Database.ofNode?_eq_some_iff hsection settings)
    (database_eq_default_iff settings) isSectionName_database
  have hsearch := section?_eq_some_iff hparts
    (fun hsection ↦ Search.ofNode?_eq_some_iff hsection settings)
    (search_eq_default_iff settings) isSectionName_search
  rw [fits_iff_fills, ← hserver, ← hdatabase, ← hsearch]
  obtain ⟨server, database, search⟩ := settings
  simp [ofNode?, hraw, Option.bind_eq_some_iff]

theorem ofDocument?_eq_some_iff {root : Node} {layout : Fields (Fields Node)}
    (hlayout : IsLayout anchors root layout) (settings : Settings) :
    ofDocument? ⟨some root, anchors⟩ = some settings ↔ Fits layout settings :=
  ofNode?_eq_some_iff hlayout settings

theorem ofDocument?_eq_none_of_not_fits {root : Node} {layout : Fields (Fields Node)}
    (hlayout : IsLayout anchors root layout) (hfits : ∀ settings, ¬ Fits layout settings) :
    ofDocument? ⟨some root, anchors⟩ = none :=
  Option.eq_none_iff_forall_ne_some.mpr fun settings hread ↦
    hfits settings ((ofDocument?_eq_some_iff hlayout settings).mp hread)

/-! ### keys that are no scalars -/

theorem read?_of_section? {raw : Fields Node} {name : String} {Part : Type}
    {read? : Node → Option Part} {default part : Part}
    (hread : section? raw name read? default = some part) {node : Node}
    (hnode : (name, node) ∈ raw) : read? node = some part := by
  rw [← Fields.mem_named_iff] at hnode
  rw [section?, single?_eq] at hread
  generalize Fields.named name raw = nodes at hnode hread
  obtain _ | ⟨only, _ | ⟨second, rest⟩⟩ := nodes
  · cases hnode
  · cases List.mem_singleton.mp hnode
    exact hread
  · cases hread

theorem exists_keyed?_of_section {root node : Node} {settings : Settings}
    (hread : ofNode? anchors root = some settings) {raw : Fields Node}
    (hraw : keyed? anchors root = some raw) {name : String} (hname : IsSectionName name)
    (hnode : (name, node) ∈ raw) : ∃ fields, keyed? anchors node = some fields := by
  simp only [ofNode?, hraw, Option.bind_eq_bind, Option.bind_some, Option.bind_eq_some_iff] at hread
  obtain ⟨server, hserver, database, hdatabase, search, hsearch, -⟩ := hread
  obtain ⟨field, rfl⟩ := hname
  rcases field.home_cases with hhome | hhome | hhome <;> rw [hhome] at hnode
  · obtain ⟨fields, hfields, -⟩ := Option.bind_eq_some_iff.mp (read?_of_section? hserver hnode)
    exact ⟨fields, hfields⟩
  · obtain ⟨fields, hfields, -⟩ := Option.bind_eq_some_iff.mp (read?_of_section? hdatabase hnode)
    exact ⟨fields, hfields⟩
  · obtain ⟨fields, hfields, -⟩ := Option.bind_eq_some_iff.mp (read?_of_section? hsearch hnode)
    exact ⟨fields, hfields⟩

theorem hasScalarKeys_of_ofNode? {root : Node} {settings : Settings}
    (hread : ofNode? anchors root = some settings) : HasScalarKeys anchors root := by
  obtain ⟨raw, hraw, -⟩ := Option.bind_eq_some_iff.mp hread
  intro part hpart entries hentries entry hentry
  cases hpart with
  | whole =>
    obtain ⟨text, style, tag, hkey, -⟩ := mem_of_keyed? hraw hentries hentry
    exact ⟨text, style, tag, hkey⟩
  | under hroot hmem hname hsection =>
    obtain ⟨found, _, _, hfound, hraws⟩ := mem_of_keyed? hraw hroot hmem
    rw [hname] at hfound
    cases (Node.scalar.inj hfound).1
    obtain ⟨fields, hfields⟩ := exists_keyed?_of_section hread hraw hsection hraws
    obtain ⟨text, style, tag, hkey, -⟩ := mem_of_keyed? hfields hentries hentry
    exact ⟨text, style, tag, hkey⟩

/-- A settings document overlays the defaults, all of it or nothing. If a key of its parts is no
scalar, it is refused; if all of them are, it has a layout, and the layout alone decides. -/
theorem ofDocument?_overlays {root : Node}
    (hparts : ∀ part, IsPart anchors root part →
      ∃ entries, target anchors part = .mapping entries) :
    (¬ HasScalarKeys anchors root → ofDocument? ⟨some root, anchors⟩ = none) ∧
    (HasScalarKeys anchors root → ∃ layout, IsLayout anchors root layout) ∧
    ∀ layout, IsLayout anchors root layout →
      (KnownOnce layout →
        (∀ field : Field, ∀ node ∈ found layout field, ∃ value, field.Holds node value) →
        ∃ settings, ofDocument? ⟨some root, anchors⟩ = some settings ∧ ∀ field : Field,
          IsOverlay field.Holds (field.get {}) (found layout field) (field.get settings)) ∧
      (¬ KnownOnce layout → ofDocument? ⟨some root, anchors⟩ = none) ∧
      (∀ field : Field, ∀ node ∈ found layout field, (∀ value, ¬ field.Holds node value) →
        ofDocument? ⟨some root, anchors⟩ = none) ∧
      ∀ otherAnchors otherRoot other, IsLayout otherAnchors otherRoot other →
        Relation.EqvGen Edit layout other →
        ofDocument? ⟨some otherRoot, otherAnchors⟩ = ofDocument? ⟨some root, anchors⟩ := by
  refine ⟨?keys, exists_isLayout hparts, fun layout hlayout ↦ ⟨?accepted, ?repeated, ?refused,
    ?edited⟩⟩
  case keys =>
    exact fun hkeys ↦ Option.eq_none_iff_forall_ne_some.mpr fun _ hread ↦
      hkeys (hasScalarKeys_of_ofNode? hread)
  case accepted =>
    intro honce hheld
    obtain ⟨settings, hfits⟩ := exists_fits honce hheld
    exact ⟨settings, (ofDocument?_eq_some_iff hlayout settings).mpr hfits, hfits.fields⟩
  case repeated =>
    exact fun hrepeated ↦ ofDocument?_eq_none_of_not_fits hlayout fun _ hfits ↦
      hrepeated hfits.knownOnce
  case refused =>
    exact fun field node hnode hrefused ↦ ofDocument?_eq_none_of_not_fits hlayout fun _ hfits ↦
      hrefused _ ((hfits.fields field).holds_of_mem hnode)
  case edited =>
    intro otherAnchors otherRoot other hother hedits
    refine Option.ext fun settings ↦ ?_
    rw [ofDocument?_eq_some_iff hother, ofDocument?_eq_some_iff hlayout,
      fits_iff_of_edits hedits settings]

end Reading

def plain (text : String) : Node :=
  .scalar text .plain none

/-- A mapping with one key, which is a list. So no section is present, and no key comes twice. -/
def listKey : List (Node × Node) :=
  [(.sequence [plain "port"], plain "9000")]

theorem ofText?_listKey :
    Document.ofText? "? [port]\n: 9000\n" = some ⟨some (.mapping listKey), {}⟩ := by
  have htokens : tokens? "? [port]\n: 9000\n" = some [.blockMapping, .key, .flowSequence,
      .scalar "port" .plain, .flowSequenceEnd, .value, .scalar "9000" .plain, .blockEnd] := by
    decide +kernel
  rw [Document.ofText?, htokens]
  rfl

/-- A key that is no scalar keeps the document from being read, although no field is at fault. -/
theorem listKey_refused :
    Document.ofText? "? [port]\n: 9000\n" = some ⟨some (.mapping listKey), {}⟩ ∧
      listKey.length = 1 ∧
      (∀ entry ∈ listKey, ∀ text style tag, target {} entry.1 ≠ .scalar text style tag) ∧
      ofDocument? ⟨some (.mapping listKey), {}⟩ = none := by
  refine ⟨ofText?_listKey, rfl, ?_, rfl⟩
  intro entry hentry text style tag hkey
  cases List.mem_singleton.mp hentry
  cases hkey

/-! ### two documents of one content -/

def catalogNode : Node :=
  .mapping [
    (plain "connection_string", plain "mongodb://localhost"), (plain "database_name", plain "")]

def catalogEntries : Fields Node :=
  [("connection_string", plain "mongodb://localhost"), ("database_name", plain "")]

theorem isSection_catalog (anchors : Anchors) :
    IsSection anchors catalogNode catalogEntries :=
  ⟨_, rfl, .cons ⟨⟨_, _, rfl⟩, rfl⟩ (.cons ⟨⟨_, _, rfl⟩, rfl⟩ .nil)⟩

/-- Two sections, each with some of its fields. -/
def partialRoot : Node :=
  .mapping [
    (plain "database", catalogNode),
    (plain "search", .mapping [(plain "max_page_size", plain "50")])]

def partialLayout : Fields (Fields Node) :=
  [("database", catalogEntries), ("search", [("max_page_size", plain "50")])]

theorem isLayout_partial : IsLayout {} partialRoot partialLayout := by
  have hsearch : IsSection {} (.mapping [(plain "max_page_size", plain "50")])
      [("max_page_size", plain "50")] := ⟨_, rfl, .cons ⟨⟨_, _, rfl⟩, rfl⟩ .nil⟩
  exact ⟨_, rfl, .cons ⟨⟨_, _, rfl⟩, fun _ ↦ isSection_catalog _⟩
    (.cons ⟨⟨_, _, rfl⟩, fun _ ↦ hsearch⟩ .nil)⟩

theorem isPart_partial (part : Node) (hpart : IsPart {} partialRoot part) :
    ∃ entries, target {} part = .mapping entries := by
  cases hpart with
  | whole => exact ⟨_, rfl⟩
  | under hroot hentry _ _ =>
    cases hroot
    simp only [List.mem_cons, List.not_mem_nil, or_false] at hentry
    rcases hentry with rfl | rfl
    · exact ⟨_, rfl⟩
    · exact ⟨_, rfl⟩

/-- The sections in another order, one of them behind an alias, and unknown keys among the known
ones. -/
def sharedRoot : Node :=
  .mapping [
    (plain "search", .alias 0), (plain "owner", plain "ice"), (plain "database", catalogNode)]

def sharedAnchors : Anchors where
  holders := [(0, 0)]
  nodes := [(0, .mapping [(plain "pages", plain "small"), (plain "max_page_size", plain "50")])]

def sharedLayout : Fields (Fields Node) := [
  ("search", [("pages", plain "small"), ("max_page_size", plain "50")]),
  ("owner", []),
  ("database", catalogEntries)]

theorem not_isSectionName_owner : ¬ IsSectionName "owner" := by
  rintro ⟨field, hname⟩
  cases field <;> simp [Field.home] at hname

theorem not_isKeyOf_pages : ¬ IsKeyOf "search" "pages" := by
  rintro ⟨field, -, hkey⟩
  cases field <;> simp [Field.key] at hkey

theorem isLayout_shared : IsLayout sharedAnchors sharedRoot sharedLayout := by
  have hsearch : IsSection sharedAnchors (.alias 0)
      [("pages", plain "small"), ("max_page_size", plain "50")] :=
    ⟨_, rfl, .cons ⟨⟨_, _, rfl⟩, rfl⟩ (.cons ⟨⟨_, _, rfl⟩, rfl⟩ .nil)⟩
  exact ⟨_, rfl, .cons ⟨⟨_, _, rfl⟩, fun _ ↦ hsearch⟩
    (.cons ⟨⟨_, _, rfl⟩, fun hname ↦ absurd hname not_isSectionName_owner⟩
      (.cons ⟨⟨_, _, rfl⟩, fun _ ↦ isSection_catalog _⟩ .nil))⟩

theorem edits_shared : Relation.EqvGen Edit partialLayout sharedLayout := by
  have hswap : Edit partialLayout partialLayout.reverse :=
    .sections (.permute (List.reverse_perm _).symm)
  have howner : Edit partialLayout.reverse
      [("search", [("max_page_size", plain "50")]), ("owner", []), ("database", catalogEntries)] :=
    .sections (.insert [("search", [("max_page_size", plain "50")])] [("database", catalogEntries)]
      [] not_isSectionName_owner)
  have hpages : Edit
      [("search", [("max_page_size", plain "50")]), ("owner", []), ("database", catalogEntries)]
      sharedLayout :=
    .entries [] _ (.insert [] [("max_page_size", plain "50")] (plain "small") not_isKeyOf_pages)
  exact ((Relation.EqvGen.rel _ _ hswap).trans _ _ _ (.rel _ _ howner)).trans _ _ _
    (.rel _ _ hpages)

theorem ofDocument?_overlays_shared :
    ∃ settings, ofDocument? ⟨some partialRoot, {}⟩ = some settings ∧
      settings.search.maxPageSize = 50 ∧ settings.search.defaultPageSize = 30 ∧
      settings.database.databaseName = "" ∧
      ofDocument? ⟨some sharedRoot, sharedAnchors⟩ = some settings := by
  have hfifty : Node.natural? (plain "50") = some 50 := by decide
  have honce : KnownOnce partialLayout := by
    constructor
    case sections => exact fun field ↦ by cases field <;> decide
    case keys =>
      intro field
      cases field <;> simp [partialLayout, catalogEntries, Fields.named, Field.home, Field.key]
  have hheld (field : Field) : ∀ node ∈ found partialLayout field, ∃ value,
      field.Holds node value := by
    intro node hnode
    cases field
    case connectionString => exact ⟨_, .plain, none, List.mem_singleton.mp hnode⟩
    case databaseName => exact ⟨_, .plain, none, List.mem_singleton.mp hnode⟩
    case maxPageSize => exact ⟨50, List.mem_singleton.mp hnode ▸ hfifty⟩
    all_goals cases hnode
  obtain ⟨-, -, hlayouts⟩ := ofDocument?_overlays isPart_partial
  obtain ⟨haccepted, -, -, hedited⟩ := hlayouts partialLayout isLayout_partial
  obtain ⟨settings, hread, hfields⟩ := haccepted honce hheld
  refine ⟨settings, hread, ?_, isOverlay_nil_iff.mp (hfields .defaultPageSize), ?_, ?_⟩
  · have hmost := isOverlay_singleton_iff.mp (hfields .maxPageSize)
    exact UInt32.toNat_inj.mp (Option.some.inj (hmost.symm.trans hfifty))
  · obtain ⟨_, _, hname⟩ := isOverlay_singleton_iff.mp (hfields .databaseName)
    exact (Node.scalar.inj hname).1.symm
  · rw [← hread]
    exact hedited _ _ _ isLayout_shared edits_shared

end DatasetSearch.Settings
