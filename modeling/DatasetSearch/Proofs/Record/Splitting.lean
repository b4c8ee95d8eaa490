import DatasetSearch.Proofs.Fields.Exchange
import DatasetSearch.Proofs.Record.RoundTrip

/-!
# What splitting leaves of a document

Reading a record takes two fields out of a document, the score first and the highlights from what
that has left. All other fields remain, with their values (`mem_document_iff`). `TakesOut` says of
each of the two removals which field it moves, so all but two fields at most keep their places.
-/

set_option autoImplicit false
set_option relaxedAutoImplicit false

namespace DatasetSearch.Record

section Split

variable {fields : Fields Json} (hkeys : (Fields.keys fields).Nodup) {record : Record}
  (hread : ofDocument (.object fields) = .ok record)

include hkeys hread

theorem mem_document_iff (field : String × Json) :
    field ∈ record.document ↔
      field ∈ fields ∧ field.1 ≠ Catalog.score ∧ field.1 ≠ Catalog.highlights := by
  obtain ⟨-, -, hdocument⟩ := (ofDocument_object_eq_ok_iff fields record).mp hread
  have hbetween := Fields.nodup_keys_swapRemove Catalog.score hkeys
  rw [← hdocument, Fields.mem_swapRemove_iff _ hbetween, Fields.mem_swapRemove_iff _ hkeys,
    and_assoc]

/-- The two removals, and the fields that keep their places. -/
theorem exists_removals :
    ∃ between first second, Fields.TakesOut Catalog.score fields between first ∧
      Fields.TakesOut Catalog.highlights between record.document second ∧
      ∀ (index : Nat) (field : String × Json), fields[index]? = some field →
        field.1 ≠ Catalog.score → field.1 ≠ Catalog.highlights →
        (record.document[index]? = some field ↔ some field.1 ≠ first ∧ some field.1 ≠ second) := by
  obtain ⟨-, -, hdocument⟩ := (ofDocument_object_eq_ok_iff fields record).mp hread
  obtain ⟨first, hfirst⟩ := Fields.exists_takesOut Catalog.score fields
  obtain ⟨second, hsecond⟩ :=
    Fields.exists_takesOut Catalog.highlights (Fields.swapRemove Catalog.score fields)
  rw [hdocument] at hsecond
  have hbetween := Fields.nodup_keys_swapRemove Catalog.score hkeys
  refine ⟨_, first, second, hfirst, hsecond, fun index field hfield hscore hhighlights ↦ ?_⟩
  exact Fields.getElem?_eq_iff_of_two hfirst hsecond hkeys hbetween hfield hscore hhighlights

omit hkeys in
theorem document_eq_of_not_mem (hscore : Catalog.score ∉ Fields.keys fields)
    (hhighlights : Catalog.highlights ∉ Fields.keys fields) : record.document = fields := by
  obtain ⟨-, -, hdocument⟩ := (ofDocument_object_eq_ok_iff fields record).mp hread
  rw [← hdocument, Fields.swapRemove_of_not_mem hscore, Fields.swapRemove_of_not_mem hhighlights]

end Split

/-- A record keeps all fields of its document but the annotations, in their places if they are not
the ones that the removals move, and is written with the annotations in front of them. -/
theorem ofDocument_splits (fields : Fields Json) (hkeys : (Fields.keys fields).Nodup)
    (record : Record) (hread : ofDocument (.object fields) = .ok record) :
    (Fields.keys record.document).Nodup ∧
    (∀ field, field ∈ record.document ↔
      field ∈ fields ∧ field.1 ≠ "score" ∧ field.1 ≠ "highlights") ∧
    (∃ between first second, Fields.TakesOut "score" fields between first ∧
      Fields.TakesOut "highlights" between record.document second ∧
      ∀ (index : Nat) (field : String × Json), fields[index]? = some field →
        field.1 ≠ "score" → field.1 ≠ "highlights" →
        (record.document[index]? = some field ↔ some field.1 ≠ first ∧ some field.1 ≠ second)) ∧
    ("score" ∉ Fields.keys fields → "highlights" ∉ Fields.keys fields →
      record.document = fields) ∧
    ∃ score highlights, record.toJson =
      .object (("score", score) :: ("highlights", highlights) :: record.document) := by
  have hdistinct : (Json.object fields).HasDistinctKeys := hkeys
  exact ⟨(isSplit_of_ofDocument hdistinct hread).nodup, mem_document_iff hkeys hread,
    exists_removals hkeys hread, document_eq_of_not_mem hread, _, _, toJson_eq record⟩

/-- The title stands last, and both removals move it. -/
def movedTwice : Fields Json :=
  [("year", .int 2001), ("highlights", .array []), ("score", .int 3), ("title", .string "Sea ice")]

theorem ofDocument_splits_movedTwice :
    ∃ record, ofDocument (.object movedTwice) = .ok record ∧
      record.document = [("year", .int 2001), ("title", .string "Sea ice")] ∧
      (Fields.keys record.document).Nodup ∧ ("title", .string "Sea ice") ∈ record.document ∧
      record.document[0]? = some ("year", .int 2001) := by
  have hkeys : (Fields.keys movedTwice).Nodup := by decide
  have hread : ofDocument (.object movedTwice) = .ok ⟨.ofNat 3, [],
      [("year", .int 2001), ("title", .string "Sea ice")]⟩ := by rfl
  obtain ⟨hnodup, hmem, -⟩ := ofDocument_splits movedTwice hkeys _ hread
  refine ⟨_, hread, rfl, hnodup, (hmem _).mpr ?_, rfl⟩
  simp [movedTwice]

end DatasetSearch.Record
