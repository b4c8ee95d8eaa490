import DatasetSearch.Proofs.Pipeline.Executable
import DatasetSearch.Proofs.Request.FieldPath
import Mathlib.Data.List.Infix

/-!
# The path that results are sorted by

The database takes a path if none of its names is empty and none holds a dollar sign
(`IsDatabasePath`). The sort field of an accepted request goes into the pipeline as it is, and it is
such a path but for one thing: the checks let pass fields that end in a dot, and fields with two
dots in a row (`sort_isDatabasePath_iff`). `doubledDot_accepted` is one of each.
-/

set_option autoImplicit false
set_option relaxedAutoImplicit false

namespace DatasetSearch.Pipeline

open Bson Request

/-- A path that the database can follow. -/
def IsDatabasePath (field : String) : Prop :=
  ∀ component ∈ components field, component ≠ [] ∧ '$' ∉ component

instance (field : String) : Decidable (IsDatabasePath field) :=
  inferInstanceAs (Decidable (∀ component ∈ components field, _ ∧ _))

/-- A name of the path is empty at its end, or between two dots. -/
def HasEmptyName (field : String) : Prop :=
  field.toList.getLast? = some '.' ∨ ['.', '.'] <:+: field.toList

theorem isDatabasePath_iff_of_hasComponents {field : String} (hpath : HasComponents field) :
    IsDatabasePath field ↔ ¬ HasEmptyName field := by
  have hdollar : ∀ component ∈ components field, '$' ∉ component :=
    fun component hcomponent hmem ↦ (hpath.chars component hcomponent _ hmem).ne_dollar rfl
  have hempty : [] ∈ components field ↔ HasEmptyName field := by
    rw [components, nil_mem_splitOn_iff, nil_mem_tail_splitOn_iff, ← components,
      or_iff_right hpath.head_ne_nil, HasEmptyName]
  rw [← hempty]
  constructor
  · intro h hmem
    exact (h [] hmem).1 rfl
  · intro hmem component hcomponent
    refine ⟨?_, hdollar component hcomponent⟩
    rintro rfl
    exact hmem hcomponent

/-- Which field is given does not matter for the other checks. -/
theorem validate_withSort_iff {limits : Limits} {request : Request}
    (hvalid : request.validate limits = .ok ()) (field : String) :
    (request.withSort field).validate limits = .ok () ↔ HasComponents field := by
  have haccepted := (validate_eq_ok_iff limits request).mp hvalid
  rw [validate_eq_ok_iff, ← isFieldPath_iff_components]
  constructor
  · intro h
    exact h.sortBy field rfl
  · intro hpath
    refine { haccepted with sortBy := ?_ }
    rintro other ⟨⟩
    exact hpath

/-- What is known of the path that the results of an accepted request are sorted by. -/
theorem sort_isDatabasePath_iff (limits : Limits) (request : Request)
    (hvalid : request.validate limits = .ok ()) (field : String)
    (hsort : request.sortBy = some field) (index : String) :
    valuesAt (render (.ofRequest request) index) ["$sort"] =
        {.document [(field, .int32 1)]} ∧
      (∀ component ∈ components field, '$' ∉ component) ∧
      (components field).head? ≠ some [] ∧
      (IsDatabasePath field ↔ ¬ HasEmptyName field) ∧
      ∀ other, (request.withSort other).validate limits = .ok () ↔
        (components other).head? ≠ some [] ∧
          ∀ component ∈ components other, ∀ c ∈ component, IsNameChar c := by
  have haccepted := (validate_eq_ok_iff limits request).mp hvalid
  have hpath := (isFieldPath_iff_components field).mp (haccepted.sortBy field hsort)
  refine ⟨?_, fun component hcomponent hmem ↦ ?_, hpath.head_ne_nil,
    isDatabasePath_iff_of_hasComponents hpath, fun other ↦ ?_⟩
  · rw [valuesAt_sort, hsort]
    simp
  · exact (hpath.chars component hcomponent _ hmem).ne_dollar rfl
  · rw [validate_withSort_iff hvalid]
    exact ⟨fun h ↦ ⟨h.head_ne_nil, h.chars⟩, fun h ↦ ⟨h.1, h.2⟩⟩

def doubledDot : Request where
  term := "ice"
  sortBy := some "provider..name"

/-- The checks let the doubled dot pass, and the dot at the end, although neither is a path that the
database can follow. -/
theorem doubledDot_accepted :
    doubledDot.validate {} = .ok () ∧ ¬ IsDatabasePath "provider..name" ∧
      (doubledDot.withSort "name.").validate {} = .ok () ∧ ¬ IsDatabasePath "name." ∧
      ∀ index, valuesAt (render (.ofRequest doubledDot) index) ["$sort"] =
        {.document [("provider..name", .int32 1)]} := by
  refine ⟨rfl, by decide, rfl, by decide, fun index ↦ ?_⟩
  rw [valuesAt_sort, doubledDot]
  simp

/-- A name may begin with an at sign, and dots may stand alone between names. -/
theorem sort_isDatabasePath_iff_atSign :
    (doubledDot.withSort "creator.@list.name").validate {} = .ok () ∧
      IsDatabasePath "creator.@list.name" ∧
      (doubledDot.withSort "creator.@list..name").validate {} = .ok () ∧
      ¬ (doubledDot.withSort ".name").validate {} = .ok () := by
  have hvalid : (doubledDot.withSort "creator.@list.name").validate {} = .ok () := rfl
  obtain ⟨-, -, -, hpath, hother⟩ :=
    sort_isDatabasePath_iff {} _ hvalid "creator.@list.name" rfl "catalog"
  have hnames := (isFieldPath_iff_components "creator.@list..name").mp rfl
  refine ⟨hvalid, hpath.mpr ?_, (hother _).mpr ⟨hnames.head_ne_nil, hnames.chars⟩, fun h ↦ ?_⟩
  · rw [HasEmptyName]
    decide
  · exact ((hother ".name").mp h).1 (by decide)

end DatasetSearch.Pipeline
