import DatasetSearch.Proofs.Fields.Removal

/-!
# Where fields stand after a removal by exchange

`TakesOut` lists the ways in which a field is taken out: there is none of that name, or it stands
last, or the last field takes its place. It also says which field has been moved, if one has.
Removal by exchange is one of these ways for every list of fields (`exists_takesOut`).

A field that is neither taken out nor moved keeps its place, and the moved one does not
(`getElem?_eq_iff`): it comes to stand further to the front, as no field ever moves back
(`exists_le_of_getElem?`). The same is true of two removals (`getElem?_eq_iff_of_two`).
-/

set_option autoImplicit false
set_option relaxedAutoImplicit false

namespace DatasetSearch.Fields

variable {α : Type}

/-- The fields before and after a removal, and the name of the field that it has moved. -/
inductive TakesOut (key : String) : Fields α → Fields α → Option String → Prop
  | absent (fields : Fields α) (hkey : key ∉ keys fields) : TakesOut key fields fields none
  | last (others : Fields α) (value : α) : TakesOut key (others ++ [(key, value)]) others none
  | exchanged (before between : Fields α) (value : α) (last : String × α) :
    TakesOut key (before ++ (key, value) :: (between ++ [last])) (before ++ last :: between)
      (some last.1)

theorem exists_takesOut (key : String) (fields : Fields α) :
    ∃ moved, TakesOut key fields (swapRemove key fields) moved := by
  induction fields with
  | nil => exact ⟨none, .absent [] List.not_mem_nil⟩
  | cons field rest ih =>
    obtain ⟨name, value⟩ := field
    rw [swapRemove]
    by_cases hkey : name = key
    · subst hkey
      rw [if_pos rfl]
      cases hlast : rest.getLast? with
      | none =>
        rw [List.getLast?_eq_none_iff.mp hlast]
        exact ⟨none, .last [] value⟩
      | some last =>
        obtain ⟨between, rfl⟩ := List.getLast?_eq_some_iff.mp hlast
        rw [List.dropLast_concat]
        exact ⟨some last.1, .exchanged [] between value last⟩
    · rw [if_neg hkey]
      obtain ⟨moved, hrest⟩ := ih
      generalize swapRemove key rest = left at hrest ⊢
      cases hrest with
      | absent _ habsent =>
        exact ⟨none, .absent _ (List.not_mem_cons_of_ne_of_not_mem (Ne.symm hkey) habsent)⟩
      | last others removed => exact ⟨none, .last ((name, value) :: left) removed⟩
      | exchanged before between removed last =>
        exact ⟨some last.1, .exchanged ((name, value) :: before) between removed last⟩

/-! ### places -/

theorem index_eq_of_nodup {fields : Fields α} (hkeys : (keys fields).Nodup) {index other : Nat}
    {field found : String × α} (hfield : fields[index]? = some field)
    (hfound : fields[other]? = some found) (hname : field.1 = found.1) : index = other := by
  obtain ⟨hlt, -⟩ := List.getElem?_eq_some_iff.mp hfield
  have hsame : (keys fields)[index]? = (keys fields)[other]? := by
    rw [keys, List.getElem?_map, List.getElem?_map, hfield, hfound, Option.map_some,
      Option.map_some, hname]
  exact (List.getElem?_inj (by rwa [keys, List.length_map]) hkeys).mp hsame

/-- Two places see the exchange, that of the removed field and the last one. -/
theorem getElem?_exchange (before between : List α) (removed last : α) {index : Nat}
    (hplace : index ≠ before.length) (hlast : index ≤ before.length + between.length) :
    (before ++ last :: between)[index]? =
      (before ++ removed :: (between ++ [last]))[index]? := by
  rcases Nat.lt_or_gt_of_ne hplace with hfront | hback
  · rw [List.getElem?_append_left hfront, List.getElem?_append_left hfront]
  · obtain ⟨offset, rfl⟩ := Nat.exists_eq_add_of_lt hback
    have hoffset : before.length + offset + 1 - before.length = offset + 1 := by omega
    have hbetween : offset < between.length := by omega
    rw [List.getElem?_append_right (by omega), List.getElem?_append_right (by omega), hoffset,
      List.getElem?_cons_succ, List.getElem?_cons_succ, List.getElem?_append_left hbetween]

theorem getElem?_last (before between : List α) (removed last : α) :
    (before ++ removed :: (between ++ [last]))[before.length + between.length + 1]? =
      some last := by
  have hoffset : before.length + between.length + 1 - before.length = between.length + 1 := by
    omega
  rw [List.getElem?_append_right (by omega), hoffset, List.getElem?_cons_succ,
    List.getElem?_concat_length]

section Places

variable {key : String} {fields left : Fields α} {moved : Option String}
  (htakes : TakesOut key fields left moved)

include htakes

theorem exists_le_of_getElem? {index : Nat} {field : String × α}
    (hfield : left[index]? = some field) :
    ∃ origin, index ≤ origin ∧ fields[origin]? = some field := by
  obtain ⟨hlt, -⟩ := List.getElem?_eq_some_iff.mp hfield
  cases htakes with
  | absent _ _ => exact ⟨index, Nat.le_refl index, hfield⟩
  | last _ value =>
    refine ⟨index, Nat.le_refl index, ?_⟩
    rwa [List.getElem?_append_left hlt]
  | exchanged before between value last =>
    by_cases hplace : index = before.length
    · subst hplace
      rw [List.getElem?_append_right (Nat.le_refl _), Nat.sub_self] at hfield
      refine ⟨before.length + between.length + 1, by omega, ?_⟩
      rw [getElem?_last]
      exact hfield
    · rw [List.length_append, List.length_cons] at hlt
      refine ⟨index, Nat.le_refl index, ?_⟩
      rwa [← getElem?_exchange before between (key, value) last hplace (by omega)]

theorem getElem?_eq_iff (hkeys : (keys fields).Nodup) {index : Nat} {field : String × α}
    (hfield : fields[index]? = some field) (hname : field.1 ≠ key) :
    left[index]? = some field ↔ some field.1 ≠ moved := by
  obtain ⟨hlt, -⟩ := List.getElem?_eq_some_iff.mp hfield
  cases htakes with
  | absent _ _ => simp [hfield]
  | last _ value =>
    have hfront : index < left.length := by
      by_contra hback
      rw [List.length_append, List.length_singleton] at hlt
      have hend : index = left.length := by omega
      rw [hend, List.getElem?_concat_length] at hfield
      exact hname (congrArg Prod.fst (Option.some.inj hfield)).symm
    rw [List.getElem?_append_left hfront] at hfield
    simp [hfield]
  | exchanged before between value last =>
    have hlast := getElem?_last before between (key, value) last
    rw [List.length_append, List.length_cons, List.length_append, List.length_singleton] at hlt
    by_cases hend : index = before.length + between.length + 1
    · subst hend
      obtain rfl : last = field := Option.some.inj (hlast.symm.trans hfield)
      have hnone : (before ++ last :: between)[before.length + between.length + 1]? = none := by
        rw [List.getElem?_eq_none_iff, List.length_append, List.length_cons]
        omega
      rw [hnone]
      exact iff_of_false nofun fun hmoved ↦ hmoved rfl
    · have hplace : index ≠ before.length := by
        rintro rfl
        rw [List.getElem?_append_right (Nat.le_refl _), Nat.sub_self] at hfield
        exact hname (congrArg Prod.fst (Option.some.inj hfield)).symm
      rw [getElem?_exchange before between (key, value) last hplace (by omega)]
      refine iff_of_true hfield fun hmoved ↦ hend ?_
      exact index_eq_of_nodup hkeys hfield hlast (Option.some.inj hmoved)

end Places

/-- Two removals, one after the other. A field that both have moved is even further to the front, so
what the second does cannot bring back a field that the first has moved. -/
theorem getElem?_eq_iff_of_two {key other : String} {fields between left : Fields α}
    {first second : Option String} (hfirst : TakesOut key fields between first)
    (hsecond : TakesOut other between left second) (hkeys : (keys fields).Nodup)
    (hbetween : (keys between).Nodup) {index : Nat} {field : String × α}
    (hfield : fields[index]? = some field) (hkey : field.1 ≠ key) (hother : field.1 ≠ other) :
    left[index]? = some field ↔ some field.1 ≠ first ∧ some field.1 ≠ second := by
  constructor
  · intro hleft
    obtain ⟨middle, hmiddle, hfound⟩ := exists_le_of_getElem? hsecond hleft
    obtain ⟨origin, horigin, hstart⟩ := exists_le_of_getElem? hfirst hfound
    have hsame : origin = index := index_eq_of_nodup hkeys hstart hfield rfl
    obtain rfl : middle = index := by omega
    exact ⟨(getElem?_eq_iff hfirst hkeys hfield hkey).mp hfound,
      (getElem?_eq_iff hsecond hbetween hfound hother).mp hleft⟩
  · rintro ⟨hmovedFirst, hmovedSecond⟩
    have hfound := (getElem?_eq_iff hfirst hkeys hfield hkey).mpr hmovedFirst
    exact (getElem?_eq_iff hsecond hbetween hfound hother).mpr hmovedSecond

end DatasetSearch.Fields
