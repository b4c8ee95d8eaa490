import DatasetSearch.Proofs.Record.RoundTrip

/-!
# Which documents are records

The grammar of annotated documents, said without the reader: what a JSON value has to look like to
be a highlight, and which highlight it is. `IsHighlight` and the relations below it have one
constructor for each way of writing, and `IsAnnotation` adds that an annotation may be missing or
null.

Each reader gives a result exactly if the value has one of these forms, and gives what the form says
(`readKind_eq_ok_iff` up to `readAll_eq_ok_iff`). Fields of an object are read one by one and may
stand in any order. What has been read of one of them so far, and what is left to read, together
settle its value (`Settles`), which is the invariant of that walk.

A document is read if its two annotations are. One that is not has a fault of its score, or of its
highlights if its score is none (`ofDocument_object_eq_error_iff`).
-/

set_option autoImplicit false
set_option relaxedAutoImplicit false

namespace DatasetSearch

/-! ### values whose objects name each field once -/

/-- Every object in a value, at any depth, names each of its fields once. -/
inductive Json.NamesFieldsOnce : Json → Prop
  | null : NamesFieldsOnce .null
  | bool (value : Bool) : NamesFieldsOnce (.bool value)
  | int (value : Int) : NamesFieldsOnce (.int value)
  | float (value : Binary64) : NamesFieldsOnce (.float value)
  | string (value : String) : NamesFieldsOnce (.string value)
  | array (items : List Json) (hitems : ∀ item ∈ items, item.NamesFieldsOnce) :
    NamesFieldsOnce (.array items)
  | object (fields : Fields Json) (hkeys : (Fields.keys fields).Nodup)
    (hvalues : ∀ field ∈ fields, field.2.NamesFieldsOnce) : NamesFieldsOnce (.object fields)

attribute [simp] Json.NamesFieldsOnce.null Json.NamesFieldsOnce.bool Json.NamesFieldsOnce.int
  Json.NamesFieldsOnce.float Json.NamesFieldsOnce.string

@[simp] theorem Json.namesFieldsOnce_array_iff (items : List Json) :
    (Json.array items).NamesFieldsOnce ↔ ∀ item ∈ items, item.NamesFieldsOnce :=
  ⟨fun | .array _ hitems => hitems, .array items⟩

@[simp] theorem Json.namesFieldsOnce_object_iff (fields : Fields Json) :
    (Json.object fields).NamesFieldsOnce ↔
      (Fields.keys fields).Nodup ∧ ∀ field ∈ fields, field.2.NamesFieldsOnce :=
  ⟨fun | .object _ hkeys hvalues => ⟨hkeys, hvalues⟩,
    fun ⟨hkeys, hvalues⟩ ↦ .object fields hkeys hvalues⟩

/-! ### the grammar -/

/-- A number, with or without a fraction. -/
inductive IsNumber : Json → Binary64 → Prop
  | int (n : Int) : IsNumber (.int n) (.ofInt n)
  | float (x : Binary64) : IsNumber (.float x) x

/-- An array of things of one kind, in order. -/
inductive IsSequence {α : Type} (IsItem : Json → α → Prop) : Json → List α → Prop
  | array (items : List Json) (values : List α) (hitems : List.Forall₂ IsItem items values) :
    IsSequence IsItem (.array items) values

/-- A value that may be left out. -/
inductive IsOptional {α : Type} (IsValue : Json → α → Prop) (default : α) : Option Json → α → Prop
  | omitted : IsOptional IsValue default none default
  | present (value : Json) (a : α) (hvalue : IsValue value a) :
    IsOptional IsValue default (some value) a

/-- A value that may be left out or null. -/
inductive IsAnnotation {α : Type} (IsValue : Json → α → Prop) (default : α) :
    Option Json → α → Prop
  | omitted : IsAnnotation IsValue default none default
  | null : IsAnnotation IsValue default (some .null) default
  | present (value : Json) (a : α) (hvalue : IsValue value a) :
    IsAnnotation IsValue default (some value) a

namespace Highlight

/-- A kind is its name, or an object with the name as its only key and null under it. -/
inductive IsKind : Json → Kind → Prop
  | name (kind : Kind) : IsKind (.string kind.name) kind
  | object (kind : Kind) : IsKind (.object [(kind.name, .null)]) kind

inductive IsExcerpt : Json → Excerpt → Prop
  | object (fields : Fields Json) (type : Json) (excerpt : Excerpt)
    (hvalue : Fields.get? "value" fields = some (.string excerpt.value))
    (htype : Fields.get? "type" fields = some type) (hkind : IsKind type excerpt.kind) :
    IsExcerpt (.object fields) excerpt
  | array (type : Json) (excerpt : Excerpt) (hkind : IsKind type excerpt.kind) :
    IsExcerpt (.array [.string excerpt.value, type]) excerpt

end Highlight

inductive IsHighlight : Json → Highlight → Prop
  | object (fields : Fields Json) (highlight : Highlight)
    (hpath : Fields.get? "path" fields = some (.string highlight.path))
    (hscore : IsOptional IsNumber (.zero false) (Fields.get? "score" fields) highlight.score)
    (htexts : IsOptional (IsSequence Highlight.IsExcerpt) [] (Fields.get? "texts" fields)
      highlight.texts) : IsHighlight (.object fields) highlight
  /-- A path, after it a score or none, and excerpts only after a score. -/
  | array (rest : List Json) (highlight : Highlight) (hlength : rest.length ≤ 2)
    (hscore : IsOptional IsNumber (.zero false) rest[0]? highlight.score)
    (htexts : IsOptional (IsSequence Highlight.IsExcerpt) [] rest[1]? highlight.texts) :
    IsHighlight (.array (.string highlight.path :: rest)) highlight

/-- An object whose annotations, where there are any, are a score and highlights. -/
inductive IsAnnotated : Json → Binary64 → List Highlight → Prop
  | object (fields : Fields Json) (score : Binary64) (highlights : List Highlight)
    (hscore : IsAnnotation IsNumber (.zero false) (Fields.get? "score" fields) score)
    (hhighlights : IsAnnotation (IsSequence IsHighlight) [] (Fields.get? "highlights" fields)
      highlights) : IsAnnotated (.object fields) score highlights

/-! ### values and sequences -/

theorem Json.number?_eq_some_iff (value : Json) (x : Binary64) :
    value.number? = some x ↔ IsNumber value x := by
  constructor
  · intro hnumber
    cases value with
    | int n =>
      cases hnumber
      exact .int n
    | float _ =>
      cases hnumber
      exact .float x
    | _ => cases hnumber
  · intro hnumber
    cases hnumber <;> rfl

namespace Highlight

theorem readString_eq_ok_iff (value : Json) (text : String) :
    readString value = .ok text ↔ value = .string text := by
  cases value <;> simp [readString]

theorem readNumber_eq_ok_iff (value : Json) (x : Binary64) :
    readNumber value = .ok x ↔ IsNumber value x := by
  rw [← Json.number?_eq_some_iff, readNumber]
  cases value.number? <;> simp

theorem readKindName_eq_ok_iff (name : String) (kind : Kind) :
    readKindName name = .ok kind ↔ name = kind.name := by
  rw [readKindName]
  by_cases hhit : name = "hit"
  · subst hhit
    cases kind <;> simp [Kind.name]
  · by_cases htext : name = "text"
    · subst htext
      cases kind <;> simp [Kind.name]
    · cases kind <;> simp [Kind.name, hhit, htext]

theorem readKind_single_eq_ok_iff (name : String) (found : Json) (kind : Kind) :
    readKind (.object [(name, found)]) = .ok kind ↔ name = kind.name ∧ found = .null := by
  rw [← readKindName_eq_ok_iff]
  unfold readKind
  cases hname : readKindName name <;> cases found <;> simp [hname]

theorem readKind_eq_ok_iff (value : Json) (kind : Kind) :
    readKind value = .ok kind ↔ IsKind value kind := by
  constructor
  · intro hread
    cases value with
    | string name =>
      rw [(readKindName_eq_ok_iff name kind).mp hread]
      exact .name kind
    | object fields =>
      obtain _ | ⟨⟨name, found⟩, _ | ⟨second, rest⟩⟩ := fields
      · cases hread
      · obtain ⟨rfl, rfl⟩ := (readKind_single_eq_ok_iff name found kind).mp hread
        exact .object kind
      · cases hread
    | _ => cases hread
  · intro hkind
    cases hkind with
    | name => exact (readKindName_eq_ok_iff kind.name kind).mpr rfl
    | object => exact (readKind_single_eq_ok_iff kind.name .null kind).mpr ⟨rfl, rfl⟩

/-- An array is read item by item. -/
theorem mapM_eq_ok_iff {α : Type} {read : Json → Except Fault α} {IsItem : Json → α → Prop}
    {items : List Json} (hread : ∀ item ∈ items, ∀ a, read item = .ok a ↔ IsItem item a)
    (values : List α) : items.mapM read = .ok values ↔ List.Forall₂ IsItem items values := by
  induction items generalizing values with
  | nil =>
    rw [List.mapM_nil, List.forall₂_nil_left_iff]
    simp [pure, Except.pure, eq_comm]
  | cons item rest ih =>
    obtain ⟨hitem, hrest⟩ := List.forall_mem_cons.mp hread
    simp only [List.mapM_cons, bind_eq_ok_iff, hitem, ih hrest, List.forall₂_cons_left_iff]
    simp [pure, Except.pure, eq_comm]

theorem readSequence_eq_ok_iff {α : Type} {read : Json → Except Fault α}
    {IsItem : Json → α → Prop} {value : Json} (honce : value.NamesFieldsOnce)
    (hread : ∀ item, item.NamesFieldsOnce → ∀ a, read item = .ok a ↔ IsItem item a)
    (values : List α) : readSequence read value = .ok values ↔ IsSequence IsItem value values := by
  cases honce with
  | array items hitems =>
    rw [readSequence, mapM_eq_ok_iff fun item hitem ↦ hread item (hitems item hitem)]
    constructor
    · exact .array items values
    · rintro ⟨_, _, hread⟩
      exact hread
  | _ =>
    refine iff_of_false (fun hread ↦ ?_) (fun hsequence ↦ ?_)
    · cases hread
    · cases hsequence

/-! ### fields one by one -/

/-- What a walk over fields makes of one key, the value under it or else what has been read before,
is what is wanted. -/
def Settles {α : Type} (read : Json → Except Fault α) (key : String) (fields : Fields Json)
    (before : Option α) (wanted : Option α → Prop) : Prop :=
  match Fields.get? key fields with
  | none => wanted before
  | some found => ∃ a, read found = .ok a ∧ wanted (some a)

section Settles

variable {α : Type} {read : Json → Except Fault α} {key : String} {rest : Fields Json}
  {before : Option α} {wanted : Option α → Prop}

theorem settles_cons_self (hkey : key ∉ Fields.keys rest) (found : Json) :
    Settles read key ((key, found) :: rest) before wanted ↔
      ∃ a, read found = .ok a ∧ Settles read key rest (some a) wanted := by
  have hnone : Fields.get? key rest = none := Fields.get?_of_not_mem hkey
  simp [Settles, Fields.get?, hnone]

theorem settles_cons_of_ne {name : String} (hne : name ≠ key) (found : Json) :
    Settles read key ((name, found) :: rest) before wanted ↔
      Settles read key rest before wanted := by
  simp [Settles, Fields.get?, hne]

end Settles

theorem readExcerptFields_eq_ok_iff {fields : Fields Json} (hkeys : (Fields.keys fields).Nodup)
    (value : Option String) (kind : Option Kind) (excerpt : Excerpt) :
    readExcerptFields value kind fields = .ok excerpt ↔
      Settles readString "value" fields value (· = some excerpt.value) ∧
        Settles readKind "type" fields kind (· = some excerpt.kind) := by
  induction fields generalizing value kind with
  | nil =>
    obtain ⟨text, named⟩ := excerpt
    cases value <;> cases kind <;> simp [readExcerptFields, Settles]
  | cons field rest ih =>
    obtain ⟨name, found⟩ := field
    obtain ⟨hname, hrest⟩ := List.nodup_cons.mp hkeys
    rw [readExcerptFields]
    by_cases hvalue : name = "value"
    · subst hvalue
      rw [if_pos rfl, bind_eq_ok_iff, settles_cons_self hname, settles_cons_of_ne (by decide)]
      simp only [ih hrest, ← and_assoc, exists_and_right]
    · rw [if_neg hvalue, settles_cons_of_ne hvalue]
      by_cases htype : name = "type"
      · subst htype
        rw [if_pos rfl, bind_eq_ok_iff, settles_cons_self hname]
        simp only [ih hrest]
        exact ⟨fun ⟨kind, hread, hvalue, hkind⟩ ↦ ⟨hvalue, kind, hread, hkind⟩,
          fun ⟨hvalue, kind, hread, hkind⟩ ↦ ⟨kind, hread, hvalue, hkind⟩⟩
      · rw [if_neg htype, settles_cons_of_ne htype, ih hrest]

theorem readFields_eq_ok_iff {fields : Fields Json} (hkeys : (Fields.keys fields).Nodup)
    (path : Option String) (score : Option Binary64) (texts : Option (List Excerpt))
    (highlight : Highlight) :
    readFields path score texts fields = .ok highlight ↔
      Settles readString "path" fields path (· = some highlight.path) ∧
        Settles readNumber "score" fields score (·.getD (.zero false) = highlight.score) ∧
        Settles (readSequence readExcerpt) "texts" fields texts (·.getD [] = highlight.texts) := by
  induction fields generalizing path score texts with
  | nil =>
    obtain ⟨text, number, excerpts⟩ := highlight
    cases path <;> simp [readFields, Settles]
  | cons field rest ih =>
    obtain ⟨name, found⟩ := field
    obtain ⟨hname, hrest⟩ := List.nodup_cons.mp hkeys
    rw [readFields]
    by_cases hpath : name = "path"
    · subst hpath
      rw [if_pos rfl, bind_eq_ok_iff, settles_cons_self hname, settles_cons_of_ne (by decide),
        settles_cons_of_ne (by decide)]
      simp only [ih hrest, ← and_assoc, exists_and_right]
    · rw [if_neg hpath, settles_cons_of_ne hpath]
      by_cases hscore : name = "score"
      · subst hscore
        rw [if_pos rfl, bind_eq_ok_iff, settles_cons_self hname, settles_cons_of_ne (by decide)]
        simp only [ih hrest]
        exact ⟨fun ⟨x, hread, hpath, hscore, htexts⟩ ↦ ⟨hpath, ⟨x, hread, hscore⟩, htexts⟩,
          fun ⟨hpath, ⟨x, hread, hscore⟩, htexts⟩ ↦ ⟨x, hread, hpath, hscore, htexts⟩⟩
      · rw [if_neg hscore, settles_cons_of_ne hscore]
        by_cases htexts : name = "texts"
        · subst htexts
          rw [if_pos rfl, bind_eq_ok_iff, settles_cons_self hname]
          simp only [ih hrest]
          exact ⟨fun ⟨found, hread, hpath, hscore, htexts⟩ ↦ ⟨hpath, hscore, found, hread, htexts⟩,
            fun ⟨hpath, hscore, found, hread, htexts⟩ ↦ ⟨found, hread, hpath, hscore, htexts⟩⟩
        · rw [if_neg htexts, settles_cons_of_ne htexts, ih hrest]

/-! ### objects and arrays -/

section Optional

variable {α : Type} {read : Json → Except Fault α} {IsValue : Json → α → Prop} {default a : α}

theorem isOptional_none_iff : IsOptional IsValue default none a ↔ default = a := by
  constructor
  · rintro ⟨⟩
    rfl
  · rintro rfl
    exact .omitted

theorem isOptional_some_iff (value : Json) :
    IsOptional IsValue default (some value) a ↔ IsValue value a :=
  ⟨fun | .present _ _ hvalue => hvalue, .present value a⟩

theorem settles_eq_some_iff (key : String) (fields : Fields Json) :
    Settles read key fields none (· = some a) ↔
      ∃ found, Fields.get? key fields = some found ∧ read found = .ok a := by
  rw [Settles]
  cases Fields.get? key fields <;> simp

theorem settles_getD_iff {key : String} {fields : Fields Json}
    (hread : ∀ found, Fields.get? key fields = some found →
      ∀ a, read found = .ok a ↔ IsValue found a) :
    Settles read key fields none (·.getD default = a) ↔
      IsOptional IsValue default (Fields.get? key fields) a := by
  rw [Settles]
  cases hfound : Fields.get? key fields with
  | none => exact isOptional_none_iff.symm
  | some found => simp [isOptional_some_iff, hread found hfound]

end Optional

theorem noMoreThan_eq_ok_iff {α : Type} (most : Nat) (items : List Json) (value result : α) :
    noMoreThan most items value = .ok result ↔ items.length ≤ most ∧ value = result := by
  rw [noMoreThan]
  split <;> simp <;> omega

theorem readExcerpt_array_eq_ok_iff (items : List Json) (excerpt : Excerpt) :
    readExcerpt (.array items) = .ok excerpt ↔
      ∃ type, items = [.string excerpt.value, type] ∧ IsKind type excerpt.kind := by
  obtain ⟨text, kind⟩ := excerpt
  obtain _ | ⟨first, _ | ⟨type, rest⟩⟩ := items
  · simp [readExcerpt]
  · simp [readExcerpt, bind_eq_ok_iff]
  · simp [readExcerpt, bind_eq_ok_iff, noMoreThan_eq_ok_iff, readString_eq_ok_iff,
      readKind_eq_ok_iff, and_assoc, and_comm, and_left_comm]

theorem readExcerpt_eq_ok_iff {value : Json} (honce : value.NamesFieldsOnce) (excerpt : Excerpt) :
    readExcerpt value = .ok excerpt ↔ IsExcerpt value excerpt := by
  cases honce with
  | object fields hkeys _ =>
    rw [readExcerpt, readExcerptFields_eq_ok_iff hkeys, settles_eq_some_iff, settles_eq_some_iff]
    simp only [readString_eq_ok_iff, readKind_eq_ok_iff]
    constructor
    · rintro ⟨⟨_, hvalue, rfl⟩, type, htype, hkind⟩
      exact .object fields type excerpt hvalue htype hkind
    · rintro (⟨_, type, _, hvalue, htype, hkind⟩ | _)
      exact ⟨⟨_, hvalue, rfl⟩, type, htype, hkind⟩
  | array items _ =>
    rw [readExcerpt_array_eq_ok_iff]
    constructor
    · rintro ⟨type, rfl, hkind⟩
      exact .array type excerpt hkind
    · rintro (_ | ⟨type, _, hkind⟩)
      exact ⟨type, rfl, hkind⟩
  | _ => exact iff_of_false nofun nofun

theorem isHighlight_object_iff (fields : Fields Json) (highlight : Highlight) :
    IsHighlight (.object fields) highlight ↔
      Fields.get? "path" fields = some (.string highlight.path) ∧
        IsOptional IsNumber (.zero false) (Fields.get? "score" fields) highlight.score ∧
        IsOptional (IsSequence IsExcerpt) [] (Fields.get? "texts" fields) highlight.texts :=
  ⟨fun | .object _ _ hpath hscore htexts => ⟨hpath, hscore, htexts⟩,
    fun ⟨hpath, hscore, htexts⟩ ↦ .object fields highlight hpath hscore htexts⟩

theorem isHighlight_array_iff (path : Json) (rest : List Json) (highlight : Highlight) :
    IsHighlight (.array (path :: rest)) highlight ↔
      path = .string highlight.path ∧
        IsOptional IsNumber (.zero false) rest[0]? highlight.score ∧
        IsOptional (IsSequence IsExcerpt) [] rest[1]? highlight.texts ∧ rest.length ≤ 2 := by
  constructor
  · rintro (_ | ⟨_, _, hlength, hscore, htexts⟩)
    exact ⟨rfl, hscore, htexts, hlength⟩
  · rintro ⟨rfl, hscore, htexts, hlength⟩
    exact .array rest highlight hlength hscore htexts

theorem readExcerpts_eq_ok_iff {value : Json} (honce : value.NamesFieldsOnce)
    (excerpts : List Excerpt) :
    readSequence readExcerpt value = .ok excerpts ↔ IsSequence IsExcerpt value excerpts :=
  readSequence_eq_ok_iff honce (fun _ ↦ readExcerpt_eq_ok_iff) excerpts

theorem read_array_eq_ok_iff {items : List Json} (honce : ∀ item ∈ items, item.NamesFieldsOnce)
    (highlight : Highlight) :
    read (.array items) = .ok highlight ↔ IsHighlight (.array items) highlight := by
  obtain ⟨path, score, texts⟩ := highlight
  obtain _ | ⟨first, _ | ⟨second, _ | ⟨third, rest⟩⟩⟩ := items
  · exact iff_of_false nofun nofun
  · rw [isHighlight_array_iff]
    simp [read, bind_eq_ok_iff, pure, Except.pure, readString_eq_ok_iff, isOptional_none_iff]
  · rw [isHighlight_array_iff]
    simp [read, bind_eq_ok_iff, pure, Except.pure, readString_eq_ok_iff, readNumber_eq_ok_iff,
      isOptional_none_iff, isOptional_some_iff]
  · have hthird := readExcerpts_eq_ok_iff (honce third (by simp))
    have hlength : (first :: second :: third :: rest).length ≤ 3 ↔
        (second :: third :: rest).length ≤ 2 := by
      rw [List.length_cons, Nat.add_le_add_iff_right]
    rw [isHighlight_array_iff, read]
    simp only [bind_eq_ok_iff, readString_eq_ok_iff, readNumber_eq_ok_iff, hthird,
      noMoreThan_eq_ok_iff, hlength, List.getElem?_cons_zero, List.getElem?_cons_succ,
      isOptional_some_iff, Highlight.mk.injEq]
    constructor
    · rintro ⟨_, hpath, _, hscore, _, htexts, hmost, rfl, rfl, rfl⟩
      exact ⟨hpath, hscore, htexts, hmost⟩
    · rintro ⟨hpath, hscore, htexts, hmost⟩
      exact ⟨path, hpath, score, hscore, texts, htexts, hmost, rfl, rfl, rfl⟩

theorem read_eq_ok_iff {value : Json} (honce : value.NamesFieldsOnce) (highlight : Highlight) :
    read value = .ok highlight ↔ IsHighlight value highlight := by
  cases honce with
  | object fields hkeys hvalues =>
    rw [read, readFields_eq_ok_iff hkeys, isHighlight_object_iff, settles_eq_some_iff,
      settles_getD_iff fun found _ ↦ readNumber_eq_ok_iff found, settles_getD_iff fun found hfound ↦
        readExcerpts_eq_ok_iff (hvalues _ ((Fields.get?_eq_some_iff hkeys _ _).mp hfound))]
    simp only [readString_eq_ok_iff, exists_eq_right]
  | array items hitems => exact read_array_eq_ok_iff hitems highlight
  | _ => exact iff_of_false nofun nofun

theorem readAll_eq_ok_iff {value : Json} (honce : value.NamesFieldsOnce)
    (highlights : List Highlight) :
    readAll value = .ok highlights ↔ IsSequence IsHighlight value highlights :=
  readSequence_eq_ok_iff honce (fun _ ↦ read_eq_ok_iff) highlights

end Highlight

/-! ### documents -/

section Annotation

variable {α : Type} {IsValue : Json → α → Prop} {default a : α}

theorem isAnnotation_none_iff : IsAnnotation IsValue default none a ↔ default = a := by
  constructor
  · rintro ⟨⟩
    rfl
  · rintro rfl
    exact .omitted

theorem isAnnotation_null_iff (hnull : ¬ IsValue .null a) :
    IsAnnotation IsValue default (some .null) a ↔ default = a := by
  constructor
  · rintro (_ | _ | ⟨_, _, hvalue⟩)
    · rfl
    · exact absurd hvalue hnull
  · rintro rfl
    exact .null

theorem isAnnotation_some_iff {value : Json} (hvalue : value ≠ .null) :
    IsAnnotation IsValue default (some value) a ↔ IsValue value a := by
  constructor
  · rintro (_ | _ | ⟨_, _, hfound⟩)
    · exact absurd rfl hvalue
    · exact hfound
  · exact .present value a

end Annotation

namespace Record

theorem readScore_eq_ok_iff (found : Option Json) (score : Binary64) :
    readScore found = .ok score ↔ IsAnnotation IsNumber (.zero false) found score := by
  obtain _ | value := found
  · rw [isAnnotation_none_iff, readScore, Except.ok.injEq]
  · by_cases hvalue : value = .null
    · have hnull : ¬ IsNumber .null score := nofun
      rw [hvalue, isAnnotation_null_iff hnull, readScore, Except.ok.injEq]
    · rw [isAnnotation_some_iff hvalue, ← Json.number?_eq_some_iff, readScore]
      · cases value.number? <;> simp
      · exact hvalue

theorem readHighlights_eq_ok_iff {found : Option Json}
    (honce : ∀ value, found = some value → value.NamesFieldsOnce) (highlights : List Highlight) :
    readHighlights found = .ok highlights ↔
      IsAnnotation (IsSequence IsHighlight) [] found highlights := by
  obtain _ | value := found
  · rw [isAnnotation_none_iff, readHighlights, Except.ok.injEq]
  · by_cases hvalue : value = .null
    · have hnull : ¬ IsSequence IsHighlight .null highlights := nofun
      rw [hvalue, isAnnotation_null_iff hnull, readHighlights, Except.ok.injEq]
    · rw [isAnnotation_some_iff hvalue, ← Highlight.readAll_eq_ok_iff (honce value rfl),
        readHighlights]
      · cases Highlight.readAll value <;> simp [Except.mapError]
      · exact hvalue

theorem eq_invalidScore_of_readScore {found : Option Json} {fault : Fault}
    (hread : readScore found = .error fault) : fault = .invalidScore := by
  unfold readScore at hread
  split at hread
  · cases hread
  · cases hread
  · split at hread
    · cases hread
    · exact (Except.error.inj hread).symm

theorem eq_highlights_of_readHighlights {found : Option Json} {fault : Fault}
    (hread : readHighlights found = .error fault) : ∃ inner, fault = .highlights inner := by
  unfold readHighlights at hread
  split at hread
  · cases hread
  · cases hread
  · next value _ =>
    cases hall : Highlight.readAll value with
    | ok highlights =>
      rw [hall] at hread
      cases hread
    | error inner =>
      rw [hall] at hread
      exact ⟨inner, (Except.error.inj hread).symm⟩

theorem ofDocument_eq_error_of_not_object {document : Json}
    (hobject : ∀ fields, document ≠ .object fields) :
    ofDocument document = .error (.notAnObject document) := by
  cases document with
  | object fields => exact absurd rfl (hobject fields)
  | _ => rfl

section Object

variable {fields : Fields Json} (honce : (Json.object fields).NamesFieldsOnce)

include honce

theorem get?_highlights_namesFieldsOnce (value : Json)
    (hfound : Fields.get? Catalog.highlights fields = some value) : value.NamesFieldsOnce := by
  obtain ⟨hkeys, hvalues⟩ := (Json.namesFieldsOnce_object_iff fields).mp honce
  exact hvalues _ ((Fields.get?_eq_some_iff hkeys _ _).mp hfound)

/-- Taking out the score does not change what is found under the name of the highlights. -/
theorem get?_highlights_of_score_out :
    Fields.get? Catalog.highlights (Fields.swapRemove Catalog.score fields) =
      Fields.get? Catalog.highlights fields :=
  Fields.get?_swapRemove_of_ne (by decide) ((Json.namesFieldsOnce_object_iff fields).mp honce).1

theorem exists_ofDocument_object_iff (score : Binary64) (highlights : List Highlight) :
    (∃ rest, ofDocument (.object fields) = .ok ⟨score, highlights, rest⟩) ↔
      IsAnnotated (.object fields) score highlights := by
  simp only [ofDocument_object_eq_ok_iff, get?_highlights_of_score_out honce, readScore_eq_ok_iff,
    readHighlights_eq_ok_iff (get?_highlights_namesFieldsOnce honce)]
  constructor
  · rintro ⟨_, hscore, hhighlights, -⟩
    exact .object fields score highlights hscore hhighlights
  · rintro ⟨_, _, _, hscore, hhighlights⟩
    exact ⟨_, hscore, hhighlights, rfl⟩

theorem ofDocument_object_eq_error_iff (fault : Fault) :
    ofDocument (.object fields) = .error fault ↔
      readScore (Fields.get? Catalog.score fields) = .error fault ∨
        ∃ score, readScore (Fields.get? Catalog.score fields) = .ok score ∧
          readHighlights (Fields.get? Catalog.highlights fields) = .error fault := by
  simp [ofDocument, bind_eq_error_iff, get?_highlights_of_score_out honce, pure, Except.pure]

theorem ofDocument_object_eq_invalidScore_iff :
    ofDocument (.object fields) = .error .invalidScore ↔
      ∀ score, ¬ IsAnnotation IsNumber (.zero false) (Fields.get? Catalog.score fields) score := by
  simp only [← readScore_eq_ok_iff, ofDocument_object_eq_error_iff honce, ← ne_eq,
    ← exists_eq_error_iff]
  constructor
  · rintro (hread | ⟨_, _, hread⟩)
    · exact ⟨_, hread⟩
    · obtain ⟨_, hfault⟩ := eq_highlights_of_readHighlights hread
      cases hfault
  · rintro ⟨fault, hread⟩
    rw [eq_invalidScore_of_readScore hread] at hread
    exact .inl hread

theorem exists_ofDocument_object_eq_highlights_iff :
    (∃ fault, ofDocument (.object fields) = .error (.highlights fault)) ↔
      (∃ score, IsAnnotation IsNumber (.zero false) (Fields.get? Catalog.score fields) score) ∧
        ∀ highlights, ¬ IsAnnotation (IsSequence IsHighlight) []
          (Fields.get? Catalog.highlights fields) highlights := by
  simp only [← readScore_eq_ok_iff,
    ← readHighlights_eq_ok_iff (get?_highlights_namesFieldsOnce honce),
    ofDocument_object_eq_error_iff honce, ← ne_eq, ← exists_eq_error_iff]
  constructor
  · rintro ⟨fault, hread | ⟨score, hscore, hread⟩⟩
    · cases eq_invalidScore_of_readScore hread
    · exact ⟨⟨score, hscore⟩, _, hread⟩
  · rintro ⟨⟨score, hscore⟩, fault, hread⟩
    obtain ⟨inner, rfl⟩ := eq_highlights_of_readHighlights hread
    exact ⟨inner, .inr ⟨score, hscore, hread⟩⟩

theorem ofDocument_object_ne_notAnObject (found : Json) :
    ofDocument (.object fields) ≠ .error (.notAnObject found) := by
  rw [ne_eq, ofDocument_object_eq_error_iff honce]
  rintro (hread | ⟨_, _, hread⟩)
  · cases eq_invalidScore_of_readScore hread
  · obtain ⟨_, hfault⟩ := eq_highlights_of_readHighlights hread
    cases hfault

end Object

/-- A document is read exactly if it is annotated, and its record holds the annotations. What fails
is first of all a document that is no object, then its score, whatever its highlights are, and then
the highlights. -/
theorem ofDocument_decided (document : Json) (honce : document.NamesFieldsOnce) :
    ((∃ record, ofDocument document = .ok record) ↔
      ∃ score highlights, IsAnnotated document score highlights) ∧
    (∀ score highlights, (∃ rest, ofDocument document = .ok ⟨score, highlights, rest⟩) ↔
      IsAnnotated document score highlights) ∧
    (∀ found, ofDocument document = .error (.notAnObject found) ↔
      found = document ∧ ∀ fields, document ≠ .object fields) ∧
    (ofDocument document = .error .invalidScore ↔ ∃ fields, document = .object fields ∧
      ∀ score, ¬ IsAnnotation IsNumber (.zero false) (Fields.get? "score" fields) score) ∧
    ((∃ fault, ofDocument document = .error (.highlights fault)) ↔
      ∃ fields, document = .object fields ∧
        (∃ score, IsAnnotation IsNumber (.zero false) (Fields.get? "score" fields) score) ∧
        ∀ highlights, ¬ IsAnnotation (IsSequence IsHighlight) []
          (Fields.get? "highlights" fields) highlights) := by
  by_cases hobject : ∃ fields, document = .object fields
  · obtain ⟨fields, rfl⟩ := hobject
    have hannotated := exists_ofDocument_object_iff honce
    refine ⟨?_, hannotated, fun found ↦ ?_, ?_, ?_⟩
    · simp only [← hannotated]
      exact ⟨fun ⟨record, hread⟩ ↦ ⟨record.score, record.highlights, record.document, hread⟩,
        fun ⟨score, highlights, rest, hread⟩ ↦ ⟨_, hread⟩⟩
    · exact iff_of_false (ofDocument_object_ne_notAnObject honce found) fun h ↦ h.2 fields rfl
    · simp only [ofDocument_object_eq_invalidScore_iff honce, Json.object.injEq, exists_eq_left']
      rfl
    · simp only [exists_ofDocument_object_eq_highlights_iff honce, Json.object.injEq,
        exists_eq_left']
      rfl
  · have hne : ∀ fields, document ≠ .object fields := not_exists.mp hobject
    have hannotated (score : Binary64) (highlights : List Highlight) :
        ¬ IsAnnotated document score highlights := by
      rintro ⟨fields, _, _, _, _⟩
      exact hne fields rfl
    simp [ofDocument_eq_error_of_not_object hne, hannotated, hne, eq_comm]

theorem ofDocument_decided_untidy :
    (Json.object untidy).NamesFieldsOnce ∧
      IsAnnotated (.object untidy) tidied.score tidied.highlights := by
  have honce : (Json.object untidy).NamesFieldsOnce := by
    simp [untidy, Fields.keys]
  obtain ⟨-, hannotated, -⟩ := ofDocument_decided (.object untidy) honce
  exact ⟨honce, (hannotated _ _).mp ⟨tidied.document, rfl⟩⟩

end Record

end DatasetSearch
