import DatasetSearch.Checks
import DatasetSearch.Proofs.Fields.Removal
import DatasetSearch.Record.Basic

/-!
# Records read back

A document is read in several forms and a record is written in one. What was written is read back:
excerpts, highlights and their lists exactly (`readAll_toJson`), and a record up to the order of its
remaining fields (`ofDocument_toJson`), which taking out the annotations by exchange changes.

The annotations can be found in the written form because no remaining field has their names, and
because each name occurs once. Both hold of every record that was read (`isSplit_of_ofDocument`).
-/

set_option autoImplicit false
set_option relaxedAutoImplicit false

namespace DatasetSearch

/-- An object names each of its fields once. -/
def Json.HasDistinctKeys : Json → Prop
  | .object fields => (Fields.keys fields).Nodup
  | _ => True

namespace Highlight

/-! ### highlights -/

theorem readKind_name (kind : Kind) : readKind (.string kind.name) = .ok kind := by
  cases kind <;> rfl

theorem readExcerpt_toJson (excerpt : Excerpt) : readExcerpt excerpt.toJson = .ok excerpt := by
  show (readKind (.string excerpt.kind.name) >>= fun kind ↦
    readExcerptFields (some excerpt.value) (some kind) []) = _
  rw [readKind_name]
  rfl

theorem mapM_read_map {α : Type} {read : Json → Except Fault α} {write : α → Json}
    (hread : ∀ a, read (write a) = .ok a) (items : List α) :
    (items.map write).mapM read = .ok items := by
  induction items with
  | nil => rfl
  | cons item rest ih =>
    rw [List.map_cons, List.mapM_cons, hread, ih]
    rfl

theorem read_toJson (highlight : Highlight) : read highlight.toJson = .ok highlight := by
  show (readSequence readExcerpt (.array (highlight.texts.map Excerpt.toJson)) >>= fun texts ↦
    readFields (some highlight.path) (some highlight.score) (some texts) []) = _
  rw [readSequence, mapM_read_map readExcerpt_toJson]
  rfl

theorem readAll_toJson (highlights : List Highlight) :
    readAll (.array (highlights.map toJson)) = .ok highlights :=
  mapM_read_map read_toJson highlights

end Highlight

namespace Record

/-! ### reading a document -/

/-- Each annotation is read from what taking out the ones before it left. -/
theorem ofDocument_object_eq_ok_iff (fields : Fields Json) (record : Record) :
    ofDocument (.object fields) = .ok record ↔
      readScore (Fields.get? Catalog.score fields) = .ok record.score ∧
      readHighlights (Fields.get? Catalog.highlights (Fields.swapRemove Catalog.score fields)) =
        .ok record.highlights ∧
      Fields.swapRemove Catalog.highlights (Fields.swapRemove Catalog.score fields) =
        record.document := by
  obtain ⟨score, highlights, document⟩ := record
  simp [ofDocument, bind_eq_ok_iff, pure, Except.pure]

theorem eq_object_of_ofDocument {document : Json} {record : Record}
    (hread : ofDocument document = .ok record) : ∃ fields, document = .object fields := by
  cases document with
  | object fields => exact ⟨fields, rfl⟩
  | _ => cases hread

/-! ### what is left of a document -/

/-- The remaining fields of a record do not bear the names of its annotations, and each of them
occurs once. -/
structure IsSplit (record : Record) : Prop where
  nodup : (Fields.keys record.document).Nodup
  score : Catalog.score ∉ Fields.keys record.document
  highlights : Catalog.highlights ∉ Fields.keys record.document

theorem isSplit_of_ofDocument {document : Json} (hkeys : document.HasDistinctKeys)
    {record : Record} (hread : ofDocument document = .ok record) : record.IsSplit := by
  obtain ⟨fields, rfl⟩ := eq_object_of_ofDocument hread
  obtain ⟨-, -, hdocument⟩ := (ofDocument_object_eq_ok_iff fields record).mp hread
  have hfirst := Fields.nodup_keys_swapRemove Catalog.score hkeys
  constructor
  · rw [← hdocument]
    exact Fields.nodup_keys_swapRemove Catalog.highlights hfirst
  · rw [← hdocument, Fields.mem_keys_swapRemove_iff _ hfirst,
      Fields.mem_keys_swapRemove_iff _ hkeys]
    simp
  · rw [← hdocument, Fields.mem_keys_swapRemove_iff _ hfirst]
    simp

/-! ### reading a written record -/

/-- The fields of a written record. -/
def fields (record : Record) : Fields Json :=
  (Catalog.score, .float record.score) ::
    (Catalog.highlights, .array (record.highlights.map Highlight.toJson)) :: record.document

theorem toJson_eq (record : Record) : record.toJson = .object record.fields := rfl

section Written

variable {record : Record} (hsplit : record.IsSplit)

include hsplit

theorem nodup_keys_fields : (Fields.keys record.fields).Nodup := by
  have hscore : Catalog.score ∉ Catalog.highlights :: Fields.keys record.document :=
    List.not_mem_cons_of_ne_of_not_mem (by decide) hsplit.score
  exact List.nodup_cons.mpr ⟨hscore, List.nodup_cons.mpr ⟨hsplit.highlights, hsplit.nodup⟩⟩

/-- Once the score is taken out, the highlights are found among the other fields, wherever the
exchange has put them. -/
theorem get?_highlights_swapRemove :
    Fields.get? Catalog.highlights (Fields.swapRemove Catalog.score record.fields) =
      some (.array (record.highlights.map Highlight.toJson)) := by
  have hperm := Fields.swapRemove_cons_perm Catalog.score (.float record.score)
    ((Catalog.highlights, .array (record.highlights.map Highlight.toJson)) :: record.document)
  have hkeys := Fields.nodup_keys_swapRemove Catalog.score (nodup_keys_fields hsplit)
  have hget := Fields.get?_eq_of_perm hkeys hperm Catalog.highlights
  rw [hget, Fields.get?, if_pos rfl]

theorem swapRemove_fields_perm :
    (Fields.swapRemove Catalog.highlights (Fields.swapRemove Catalog.score record.fields)).Perm
      record.document := by
  have hscore := Fields.swapRemove_cons_perm Catalog.score (.float record.score)
    ((Catalog.highlights, .array (record.highlights.map Highlight.toJson)) :: record.document)
  have hkeys := Fields.nodup_keys_swapRemove Catalog.score (nodup_keys_fields hsplit)
  exact (Fields.swapRemove_perm_of_perm Catalog.highlights hkeys hscore).trans
    (Fields.swapRemove_cons_perm _ _ _)

theorem ofDocument_fields :
    ofDocument record.toJson = .ok ⟨record.score, record.highlights,
      Fields.swapRemove Catalog.highlights (Fields.swapRemove Catalog.score record.fields)⟩ := by
  rw [toJson_eq, ofDocument_object_eq_ok_iff, get?_highlights_swapRemove hsplit]
  refine ⟨rfl, ?_, rfl⟩
  show (Highlight.readAll _).mapError Fault.highlights = _
  rw [Highlight.readAll_toJson]
  rfl

end Written

/-- A record that was read from a document is read back from its written form, with the same score,
the same highlights and the same remaining fields in some order. Writing it once more gives the same
fields again, so that whatever form the annotations of the document had, theirs is the written one
from then on. -/
theorem ofDocument_toJson (document : Json) (hkeys : document.HasDistinctKeys) (record : Record)
    (hread : ofDocument document = .ok record) :
    ∃ written back again, record.toJson = .object written ∧ (Fields.keys written).Nodup ∧
      ofDocument record.toJson = .ok back ∧ back.score = record.score ∧
      back.highlights = record.highlights ∧ back.document.Perm record.document ∧
      (∀ key, Fields.get? key back.document = Fields.get? key record.document) ∧
      back.toJson = .object again ∧ again.Perm written := by
  have hsplit := isSplit_of_ofDocument hkeys hread
  have hperm := swapRemove_fields_perm hsplit
  refine ⟨record.fields, _, _, toJson_eq record, nodup_keys_fields hsplit, ofDocument_fields hsplit,
    rfl, rfl, hperm, ?_, toJson_eq _, (hperm.cons _).cons _⟩
  exact fun key ↦ (Fields.get?_eq_of_perm hsplit.nodup hperm.symm key).symm

/-- A document as a search may return it: the score is whole, one highlight is an object with a
field nobody asked for and an excerpt whose kind is an object, and the other is an array. -/
def untidy : Fields Json :=
  [("title", .string "Sea ice"), ("score", .int 3), ("_id", .string "a1"),
    ("highlights", .array [
      .object [("path", .string "title"), ("rank", .int 1),
        ("texts", .array [.array [.string "ice", .object [("hit", .null)]]])],
      .array [.string "summary", .int 2]]),
    ("year", .int 2001), ("units", .object [("unit", .null)])]

/-- What is read from it. -/
def tidied : Record where
  score := Binary64.ofWord false (1024 <<< 52 + 1 <<< 51)
  highlights := [
    { path := "title", texts := [⟨"ice", .hit⟩] },
    { path := "summary", score := Binary64.ofWord false (1024 <<< 52) }]
  document := [("title", .string "Sea ice"), ("units", .object [("unit", .null)]),
    ("_id", .string "a1"), ("year", .int 2001)]

theorem ofDocument_toJson_tidied :
    Json.HasDistinctKeys (.object untidy) ∧ ofDocument (.object untidy) = .ok tidied ∧
    ∃ written back again, tidied.toJson = .object written ∧ (Fields.keys written).Nodup ∧
      ofDocument tidied.toJson = .ok back ∧ back.score = tidied.score ∧
      back.highlights = tidied.highlights ∧ back.document.Perm tidied.document ∧
      (∀ key, Fields.get? key back.document = Fields.get? key tidied.document) ∧
      back.toJson = .object again ∧ again.Perm written := by
  have hkeys : Json.HasDistinctKeys (.object untidy) := by
    show (Fields.keys untidy).Nodup
    decide
  have hread : ofDocument (.object untidy) = .ok tidied := by rfl
  exact ⟨hkeys, hread, ofDocument_toJson _ hkeys _ hread⟩

end Record

end DatasetSearch
