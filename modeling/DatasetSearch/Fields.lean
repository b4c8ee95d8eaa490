/-!
Named values in a fixed order, as objects and documents hold them. A key is meant to occur once:
putting a value under a key that is there replaces the value where it stands. Removing a field by
exchange lets the last field take its place, which keeps the order of all others.
-/

set_option autoImplicit false
set_option relaxedAutoImplicit false

namespace DatasetSearch

abbrev Fields (α : Type) := List (String × α)

namespace Fields

variable {α : Type}

def get? (key : String) : Fields α → Option α
  | [] => none
  | (name, value) :: rest => if name = key then some value else get? key rest

def put (key : String) (value : α) : Fields α → Fields α
  | [] => [(key, value)]
  | (name, old) :: rest =>
    if name = key then (key, value) :: rest else (name, old) :: put key value rest

def keys (fields : Fields α) : List String :=
  fields.map Prod.fst

/-- Removes the field of the given name and moves the last field into its place. -/
def swapRemove (key : String) : Fields α → Fields α
  | [] => []
  | field :: rest =>
    if field.1 = key then
      match rest.getLast? with
      | none => []
      | some last => last :: rest.dropLast
    else field :: swapRemove key rest

@[simp] theorem get?_nil (key : String) : get? key ([] : Fields α) = none := rfl

/-- A new key comes last. -/
theorem put_of_not_mem {key : String} (value : α) {fields : Fields α} (hkey : key ∉ keys fields) :
    put key value fields = fields ++ [(key, value)] := by
  induction fields with
  | nil => rfl
  | cons field rest ih =>
    obtain ⟨hname, hrest⟩ := not_or.mp (mt List.mem_cons.mpr hkey)
    rw [put, if_neg (Ne.symm hname), ih hrest, List.cons_append]

end Fields

end DatasetSearch
