import DatasetSearch.Fields
import Mathlib.Data.List.Forall2

/-!
# What stands under a name

`named` lists all values under a name, those of repeated names as well. Fields that are taken over
one by one under the same names have their values taken over under each name (`forall₂_named`).

`Edit` is a change to fields that means nothing to someone who knows some of the names only: another
order, or one more field under a name that is not known. What stands under a known name is kept, up
to its order (`Edit.named_perm`).
-/

set_option autoImplicit false
set_option relaxedAutoImplicit false

namespace DatasetSearch.Fields

variable {α β : Type}

/-- All values under a name, in their order. -/
def named (name : String) (fields : Fields α) : List α :=
  (fields.filter (·.1 == name)).map Prod.snd

theorem named_cons (name : String) (field : String × α) (fields : Fields α) :
    named name (field :: fields) =
      if field.1 = name then field.2 :: named name fields else named name fields := by
  by_cases hname : field.1 = name <;> simp [named, hname]

theorem named_append (name : String) (fields others : Fields α) :
    named name (fields ++ others) = named name fields ++ named name others := by
  rw [named, List.filter_append, List.map_append, named, named]

theorem mem_named_iff (name : String) (value : α) (fields : Fields α) :
    value ∈ named name fields ↔ (name, value) ∈ fields := by
  simp [named]

theorem forall₂_named (Content : String → α → β → Prop) {fields : Fields α} {others : Fields β}
    (hfields : List.Forall₂ (fun field other ↦ field.1 = other.1 ∧ Content other.1 field.2 other.2)
      fields others) (name : String) :
    List.Forall₂ (Content name) (named name fields) (named name others) := by
  induction hfields with
  | nil => exact .nil
  | @cons field other fields others hfield _ ih =>
    obtain ⟨hsame, hcontent⟩ := hfield
    rw [named_cons, named_cons, hsame]
    split
    · next hname => exact .cons (hname ▸ hcontent) ih
    · exact ih

/-! ### edits -/

/-- One edit of fields of which only some names are known. -/
inductive Edit (IsKnown : String → Prop) : Fields α → Fields α → Prop
  | permute {fields others : Fields α} (hperm : fields.Perm others) : Edit IsKnown fields others
  | insert (before after : Fields α) {name : String} (value : α) (hunknown : ¬ IsKnown name) :
    Edit IsKnown (before ++ after) (before ++ (name, value) :: after)

theorem Edit.named_perm {IsKnown : String → Prop} {fields others : Fields α}
    (hedit : Edit IsKnown fields others) {name : String} (hknown : IsKnown name) :
    (named name fields).Perm (named name others) := by
  cases hedit with
  | permute hperm => exact (hperm.filter _).map _
  | @insert before after other value hunknown =>
    have hne : other ≠ name := by
      rintro rfl
      exact hunknown hknown
    rw [named_append, named_append, named_cons, if_neg hne]

end DatasetSearch.Fields
