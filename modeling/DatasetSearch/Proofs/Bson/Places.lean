import DatasetSearch.Bson.Basic

/-!
# Places in a value

A value of the document store is a tree whose branches have keys. `places` lists every field in it,
at any depth, with the keys that lead there and the value found; positions in arrays are no keys.
`hideQueries` puts the empty text in the place of every text that stands under the key `query`, so
two values that agree afterwards differ in such texts only.

Both walk over the tree with one function for each kind of node. The equations below say what they
do to lists of items and fields, which is all that is needed of the recursion later on.
-/

set_option autoImplicit false
set_option relaxedAutoImplicit false

namespace DatasetSearch.Bson

structure Place where
  keys : List String
  value : Bson

/-! ### all fields of a value -/

mutual

/-- The fields inside a value to which the keys `above` lead, in the order of writing. -/
@[simp] def places (above : List String) : Bson → List Place
  | document fields => placesOfFields above fields
  | codeWithScope _ scope => placesOfFields above scope
  | array items => placesOfItems above items
  | _ => []

def placesOfItems (above : List String) : List Bson → List Place
  | [] => []
  | item :: rest => places above item ++ placesOfItems above rest

@[simp] def placesOfFields (above : List String) : List (String × Bson) → List Place
  | [] => []
  | (key, value) :: rest =>
    ⟨above ++ [key], value⟩ :: places (above ++ [key]) value ++ placesOfFields above rest

end

theorem placesOfItems_eq_flatMap (above : List String) (items : List Bson) :
    placesOfItems above items = items.flatMap (places above) := by
  induction items with
  | nil => rfl
  | cons item rest ih => rw [placesOfItems, ih, List.flatMap_cons]

@[simp] theorem placesOfFields_append (above : List String) (fields rest : List (String × Bson)) :
    placesOfFields above (fields ++ rest) =
      placesOfFields above fields ++ placesOfFields above rest := by
  induction fields with
  | nil => rfl
  | cons field fields ih =>
    rw [List.cons_append, placesOfFields, placesOfFields, ih, List.append_assoc]

/-- Texts alone hold no fields. -/
@[simp] theorem placesOfItems_strings (above texts : List String) :
    placesOfItems above (texts.map string) = [] := by
  simp [placesOfItems_eq_flatMap]

mutual

/-- What lies inside a value is reached by more keys than the value. -/
theorem length_lt_of_mem_places {above : List String} {place : Place} :
    ∀ {value : Bson}, place ∈ places above value → above.length < place.keys.length
  | document _, hplace => length_lt_of_mem_placesOfFields hplace
  | codeWithScope _ _, hplace => length_lt_of_mem_placesOfFields hplace
  | array _, hplace => length_lt_of_mem_placesOfItems hplace

theorem length_lt_of_mem_placesOfItems {above : List String} {place : Place} :
    ∀ {items : List Bson}, place ∈ placesOfItems above items → above.length < place.keys.length
  | _ :: _, hplace =>
    (List.mem_append.mp hplace).elim length_lt_of_mem_places length_lt_of_mem_placesOfItems

theorem length_lt_of_mem_placesOfFields {above : List String} {place : Place} :
    ∀ {fields : List (String × Bson)},
      place ∈ placesOfFields above fields → above.length < place.keys.length
  | (key, value) :: rest, hplace => by
    simp only [placesOfFields, List.cons_append, List.mem_cons, List.mem_append] at hplace
    rcases hplace with rfl | hinside | hrest
    · simp
    · have hlonger := length_lt_of_mem_places hinside
      rw [List.length_append] at hlonger
      omega
    · exact length_lt_of_mem_placesOfFields hrest

end

/-- The places one key further on are the fields themselves. -/
theorem mem_placesOfFields_iff (above : List String) (key : String) (value : Bson)
    (fields : List (String × Bson)) :
    ⟨above ++ [key], value⟩ ∈ placesOfFields above fields ↔ (key, value) ∈ fields := by
  induction fields with
  | nil => simp
  | cons field rest ih =>
    obtain ⟨name, found⟩ := field
    have hinside : ⟨above ++ [key], value⟩ ∉ places (above ++ [name]) found := by
      intro hplace
      have hlonger := length_lt_of_mem_places hplace
      simp at hlonger
    simp [ih, hinside]

/-! ### values without their queries -/

@[simp] def hideText : Bson → Bson
  | string _ => string ""
  | value => value

mutual

@[simp] def hideQueries : Bson → Bson
  | document fields => document (hideQueriesOfFields fields)
  | codeWithScope source scope => codeWithScope source (hideQueriesOfFields scope)
  | array items => array (hideQueriesOfItems items)
  | value => value

def hideQueriesOfItems : List Bson → List Bson
  | [] => []
  | item :: rest => hideQueries item :: hideQueriesOfItems rest

@[simp] def hideQueriesOfFields : List (String × Bson) → List (String × Bson)
  | [] => []
  | (key, value) :: rest =>
    (key, if key = "query" then hideText (hideQueries value) else hideQueries value) ::
      hideQueriesOfFields rest

end

theorem hideQueriesOfItems_eq_map (items : List Bson) :
    hideQueriesOfItems items = items.map hideQueries := by
  induction items with
  | nil => rfl
  | cons item rest ih => rw [hideQueriesOfItems, ih, List.map_cons]

@[simp] theorem hideQueriesOfItems_strings (texts : List String) :
    hideQueriesOfItems (texts.map string) = texts.map string := by
  simp [hideQueriesOfItems_eq_map]

@[simp] theorem hideQueriesOfFields_append (fields rest : List (String × Bson)) :
    hideQueriesOfFields (fields ++ rest) =
      hideQueriesOfFields fields ++ hideQueriesOfFields rest := by
  induction fields with
  | nil => rfl
  | cons field fields ih =>
    rw [List.cons_append, hideQueriesOfFields, hideQueriesOfFields, ih, List.cons_append]

end DatasetSearch.Bson
