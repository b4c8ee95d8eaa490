import DatasetSearch.Fields
import Mathlib.Data.List.Nodup
import Mathlib.Data.List.Perm.Basic

/-!
# Removing a field by exchange

Fields with distinct keys are a map: a key and its value are found exactly if they stand among the
fields (`get?_eq_some_iff`), so fields in another order are the same map (`get?_eq_of_perm`).

To remove a field by exchange is to leave it out, up to the order of the others
(`swapRemove_perm`). Nothing else is lost, and a key that is removed is gone.
-/

set_option autoImplicit false
set_option relaxedAutoImplicit false

namespace DatasetSearch.Fields

variable {α : Type}

theorem mem_keys_of_mem {key : String} {value : α} {fields : Fields α}
    (hfield : (key, value) ∈ fields) : key ∈ keys fields :=
  List.mem_map_of_mem hfield

/-! ### fields as a map -/

theorem get?_eq_some_iff {fields : Fields α} (hkeys : (keys fields).Nodup) (key : String)
    (value : α) : get? key fields = some value ↔ (key, value) ∈ fields := by
  induction fields with
  | nil => simp
  | cons field rest ih =>
    obtain ⟨name, found⟩ := field
    obtain ⟨hname, hrest⟩ := List.nodup_cons.mp hkeys
    by_cases hkey : name = key
    · subst hkey
      have hother : (name, value) ∉ rest := fun h ↦ hname (mem_keys_of_mem h)
      simp [get?, hother, eq_comm]
    · have hne : key ≠ name := fun h ↦ hkey h.symm
      simp [get?, hkey, hne, ih hrest]

theorem get?_of_not_mem {key : String} {fields : Fields α} (hkey : key ∉ keys fields) :
    get? key fields = none := by
  induction fields with
  | nil => rfl
  | cons field rest ih =>
    obtain ⟨hname, hrest⟩ := not_or.mp (mt List.mem_cons.mpr hkey)
    rw [get?, if_neg (Ne.symm hname), ih hrest]

theorem get?_eq_of_perm {fields others : Fields α} (hkeys : (keys fields).Nodup)
    (hperm : fields.Perm others) (key : String) : get? key fields = get? key others := by
  have hothers : (keys others).Nodup := (hperm.map Prod.fst).nodup_iff.mp hkeys
  ext value
  rw [get?_eq_some_iff hkeys, get?_eq_some_iff hothers, hperm.mem_iff]

/-! ### removal -/

/-- The fields that do not have the given key. -/
def without (key : String) (fields : Fields α) : Fields α :=
  fields.filter fun field ↦ field.1 ≠ key

theorem without_of_not_mem {key : String} {fields : Fields α} (hkey : key ∉ keys fields) :
    without key fields = fields := by
  refine List.filter_eq_self.mpr fun field hfield ↦ ?_
  have hne : field.1 ≠ key := fun h ↦ hkey (h ▸ List.mem_map_of_mem hfield)
  simpa using hne

/-- Of the fields behind the removed one, the last comes to stand in front of all others. -/
theorem swapRemove_cons_perm (key : String) (value : α) (rest : Fields α) :
    (swapRemove key ((key, value) :: rest)).Perm rest := by
  rw [swapRemove, if_pos rfl]
  cases hlast : rest.getLast? with
  | none => rw [List.getLast?_eq_none_iff.mp hlast]
  | some last =>
    obtain ⟨others, rfl⟩ := List.getLast?_eq_some_iff.mp hlast
    rw [List.dropLast_concat]
    exact (List.perm_append_singleton last others).symm

theorem swapRemove_perm (key : String) {fields : Fields α} (hkeys : (keys fields).Nodup) :
    (swapRemove key fields).Perm (without key fields) := by
  induction fields with
  | nil => exact .nil
  | cons field rest ih =>
    obtain ⟨name, value⟩ := field
    obtain ⟨hname, hrest⟩ := List.nodup_cons.mp hkeys
    by_cases hkey : name = key
    · subst hkey
      have hwithout : without name ((name, value) :: rest) = rest := by
        rw [without, List.filter_cons_of_neg (by simp)]
        exact without_of_not_mem hname
      rw [hwithout]
      exact swapRemove_cons_perm name value rest
    · have hwithout : without key ((name, value) :: rest) = (name, value) :: without key rest :=
        List.filter_cons_of_pos (by simpa using hkey)
      rw [hwithout, swapRemove, if_neg hkey]
      exact (ih hrest).cons (name, value)

theorem swapRemove_perm_of_perm (key : String) {fields others : Fields α}
    (hkeys : (keys fields).Nodup) (hperm : fields.Perm others) :
    (swapRemove key fields).Perm (swapRemove key others) := by
  have hothers : (keys others).Nodup := (hperm.map Prod.fst).nodup_iff.mp hkeys
  have hwithout : (without key fields).Perm (without key others) := hperm.filter _
  exact (swapRemove_perm key hkeys).trans (hwithout.trans (swapRemove_perm key hothers).symm)

theorem nodup_keys_swapRemove (key : String) {fields : Fields α} (hkeys : (keys fields).Nodup) :
    (keys (swapRemove key fields)).Nodup := by
  have hwithout : (keys (without key fields)).Nodup :=
    hkeys.sublist (List.filter_sublist.map Prod.fst)
  exact ((swapRemove_perm key hkeys).map Prod.fst).nodup_iff.mpr hwithout

theorem swapRemove_of_not_mem {key : String} {fields : Fields α} (hkey : key ∉ keys fields) :
    swapRemove key fields = fields := by
  induction fields with
  | nil => rfl
  | cons field rest ih =>
    obtain ⟨hname, hrest⟩ := not_or.mp (mt List.mem_cons.mpr hkey)
    rw [swapRemove, if_neg (Ne.symm hname), ih hrest]

theorem mem_swapRemove_iff (key : String) {fields : Fields α} (hkeys : (keys fields).Nodup)
    (field : String × α) : field ∈ swapRemove key fields ↔ field ∈ fields ∧ field.1 ≠ key := by
  rw [(swapRemove_perm key hkeys).mem_iff, without, List.mem_filter, decide_eq_true_eq]

/-- What stands under another key is not touched. -/
theorem get?_swapRemove_of_ne {key other : String} (hne : other ≠ key) {fields : Fields α}
    (hkeys : (keys fields).Nodup) : get? other (swapRemove key fields) = get? other fields := by
  ext value
  rw [get?_eq_some_iff (nodup_keys_swapRemove key hkeys), get?_eq_some_iff hkeys,
    mem_swapRemove_iff key hkeys]
  exact and_iff_left hne

theorem mem_keys_swapRemove_iff (key : String) {fields : Fields α} (hkeys : (keys fields).Nodup)
    (name : String) : name ∈ keys (swapRemove key fields) ↔ name ∈ keys fields ∧ name ≠ key := by
  have hperm := (swapRemove_perm key hkeys).map Prod.fst
  show name ∈ (swapRemove key fields).map Prod.fst ↔ _
  rw [hperm.mem_iff]
  simp only [without, keys, List.mem_map, List.mem_filter, decide_eq_true_eq]
  constructor
  · rintro ⟨field, ⟨hfield, hne⟩, rfl⟩
    exact ⟨⟨field, hfield, rfl⟩, hne⟩
  · rintro ⟨⟨field, hfield, rfl⟩, hne⟩
    exact ⟨field, ⟨hfield, hne⟩, rfl⟩

end DatasetSearch.Fields
