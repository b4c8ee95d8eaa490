import DatasetSearch.Proofs.Text.NumeralReading
import DatasetSearch.Settings.Overrides
import Mathlib.Data.List.Nodup
import Mathlib.Data.List.Perm.Basic

/-!
# Overrides keep to their own fields

Each variable has a field of its own. A field that one override alone writes to has, after
overrides in any order, what that override makes of it (`field_foldl_of_mem`), and a field that none
writes to is left as it was (`field_foldl`). `IsOverridden` says so of all ten fields, with a port
said as a numeral in the text of its variable (`readPort_eq_some_iff`).

These fields are all there is, so overridden settings are unique (`IsOverridden.unique`), and what
is true of every order and of merging again follows from that. Of the checks the only one that
depends on a field with a variable is that of the connection string.
-/

set_option autoImplicit false
set_option relaxedAutoImplicit false

namespace DatasetSearch.Settings

open Text

/-! ### the text of a port -/

namespace Override

/-- The text of a port: digits of a number of 16 bits, after a plus sign or none. -/
def IsPort (text : String) (port : UInt16) : Prop :=
  ∃ digits, digits ≠ [] ∧ (text.toList = digits ∨ text.toList = '+' :: digits) ∧
    (∀ c ∈ digits, c.isDigit = true) ∧ Nat.ofDigitChars 10 digits 0 = port.toNat

theorem readPort_eq_some_iff (text : String) (port : UInt16) :
    readPort text = some port ↔ IsPort text port := by
  have hzero : (Numeral.Bounds.unsigned 16).Holds 0 := by decide
  have hread : readPort text = some port ↔ ∃ n : Int,
      Numeral.read (.unsigned 16) text.toList = .ok n ∧ UInt16.ofNat n.toNat = port := by
    unfold readPort
    cases Numeral.read (.unsigned 16) text.toList <;> simp
  by_cases htext : text.toList = []
  · rw [hread, htext]
    refine iff_of_false (fun ⟨n, hn, _⟩ ↦ nomatch hn) ?_
    rintro ⟨digits, hdigits, hempty, -⟩
    rw [htext] at hempty
    rcases hempty with rfl | hplus
    · exact hdigits rfl
    · cases hplus
  · have hleast : ¬ (Numeral.Bounds.unsigned 16).least < 0 := by decide
    simp only [hread, Numeral.read_eq_ok_iff hzero htext,
      Numeral.denotes_iff_of_not_negative hleast]
    constructor
    · rintro ⟨n, ⟨⟨digits, hdigits, hsign, hall, rfl⟩, -, hsmall⟩, rfl⟩
      have hlt : Nat.ofDigitChars 10 digits 0 < 2 ^ 16 := by
        have hword : (Numeral.Bounds.unsigned 16).greatest = 65535 := rfl
        omega
      refine ⟨digits, hdigits, hsign, hall, ?_⟩
      rw [Int.toNat_natCast, UInt16.toNat_ofNat_of_lt' hlt]
    · rintro ⟨digits, hdigits, hsign, hall, hport⟩
      have hholds : (Numeral.Bounds.unsigned 16).Holds port.toNat := by
        have hword : (Numeral.Bounds.unsigned 16).greatest = 65535 := rfl
        have hlt := port.toNat_lt
        exact ⟨Int.natCast_nonneg _, by omega⟩
      refine ⟨port.toNat, ⟨⟨digits, hdigits, hsign, hall, by rw [hport]⟩, hholds⟩, ?_⟩
      rw [Int.toNat_natCast, UInt16.ofNat_toNat]

theorem nodup_all : all.Nodup := by
  decide

theorem mem_all (override : Override) : override ∈ all := by
  cases override <;> decide

theorem name_injective : Function.Injective name := by
  have hnames : (all.map name).Nodup := by decide
  exact fun first second ↦ List.inj_on_of_nodup_map hnames (mem_all first) (mem_all second)

end Override

/-! ### one field -/

section Field

variable {α : Type} (field : Settings → α) (lookup : String → Option String)

/-- A field that no override writes to is left as it was. -/
theorem field_foldl {order : List Override}
    (hframe : ∀ override ∈ order, ∀ settings value,
      field (Override.apply settings value override) = field settings) (settings : Settings) :
    field (order.foldl (mergeOne lookup) settings) = field settings := by
  induction order generalizing settings with
  | nil => rfl
  | cons override order ih =>
    obtain ⟨hfirst, hrest⟩ := List.forall_mem_cons.mp hframe
    rw [List.foldl_cons, ih hrest, mergeOne]
    cases lookup override.name with
    | none => rfl
    | some value => exact hfirst settings value

/-- What a value makes of a field that one override writes to. -/
structure Writes (override : Override) (field : Settings → α) (write : String → α → α) : Prop where
  own : ∀ settings value,
    field (Override.apply settings value override) = write value (field settings)
  others : ∀ other ≠ override, ∀ settings value,
    field (Override.apply settings value other) = field settings

theorem field_foldl_of_mem {override : Override} {write : String → α → α}
    (hwrites : Writes override field write) {order : List Override} (hnodup : order.Nodup)
    (hmem : override ∈ order) (settings : Settings) :
    field (order.foldl (mergeOne lookup) settings) =
      (lookup override.name).elim (field settings) fun value ↦ write value (field settings) := by
  obtain ⟨before, after, rfl⟩ := List.append_of_mem hmem
  have hother : override ∉ before ++ after :=
    (List.nodup_cons.mp (List.nodup_middle.mp hnodup)).1
  have hbefore : field (before.foldl (mergeOne lookup) settings) = field settings :=
    field_foldl field lookup (fun other hmem ↦ hwrites.others other fun h ↦
      hother (h ▸ List.mem_append_left after hmem)) settings
  have hafter (base : Settings) : field (after.foldl (mergeOne lookup) base) = field base :=
    field_foldl field lookup (fun other hmem ↦ hwrites.others other fun h ↦
      hother (h ▸ List.mem_append_right before hmem)) base
  rw [List.foldl_append, List.foldl_cons, hafter, mergeOne]
  cases lookup override.name with
  | none => exact hbefore
  | some value =>
    show field (Override.apply _ value override) = write value (field settings)
    rw [hwrites.own, hbefore]

end Field

/-! ### all fields -/

/-- The settings that the variables make of given ones. A variable that is set to the empty text is
set. -/
structure IsOverridden (lookup : String → Option String) (settings merged : Settings) : Prop where
  bindAddress : merged.server.bindAddress =
    (lookup "BIND_ADDRESS").getD settings.server.bindAddress
  connectionString : merged.database.connectionString =
    (lookup "CONNECTION_STRING").getD settings.database.connectionString
  databaseName : merged.database.databaseName =
    (lookup "DATABASE").getD settings.database.databaseName
  collection : merged.database.collection =
    (lookup "COLLECTION").getD settings.database.collection
  searchIndex : merged.database.searchIndex =
    (lookup "SEARCH_INDEX").getD settings.database.searchIndex
  port : ∀ text port, lookup "PORT" = some text → Override.IsPort text port →
    merged.server.port = port
  port_kept : (∀ text port, lookup "PORT" = some text → ¬ Override.IsPort text port) →
    merged.server.port = settings.server.port
  requestTimeout : merged.database.requestTimeout = settings.database.requestTimeout
  maxPoolSize : merged.database.maxPoolSize = settings.database.maxPoolSize
  defaultPageSize : merged.search.defaultPageSize = settings.search.defaultPageSize
  maxPageSize : merged.search.maxPageSize = settings.search.maxPageSize

section Order

variable (lookup : String → Option String) {order : List Override}
  (hnodup : order.Nodup) (hall : ∀ override, override ∈ order) (settings : Settings)

include hnodup hall

/-- A field of text takes over the value of its variable. -/
theorem text_foldl (override : Override) (field : Settings → String)
    (hwrites : Writes override field fun value _ ↦ value) :
    field (order.foldl (mergeOne lookup) settings) =
      (lookup override.name).getD (field settings) := by
  rw [field_foldl_of_mem _ lookup hwrites hnodup (hall override)]
  cases lookup override.name <;> rfl

theorem port_foldl :
    (order.foldl (mergeOne lookup) settings).server.port =
      ((lookup "PORT").bind Override.readPort).getD settings.server.port := by
  have hwrites : Writes .port (·.server.port) fun value port ↦
      (Override.readPort value).getD port :=
    ⟨fun _ _ ↦ rfl, fun other hother settings value ↦ by cases other <;> trivial⟩
  rw [field_foldl_of_mem _ lookup hwrites hnodup (hall .port)]
  cases h : lookup "PORT" <;> simp [h, Override.name]

theorem isOverridden_foldl :
    IsOverridden lookup settings (order.foldl (mergeOne lookup) settings) := by
  have hport := port_foldl lookup hnodup hall settings
  constructor
  case port =>
    intro text port htext hread
    rw [hport, htext, Option.bind_some, (Override.readPort_eq_some_iff text port).mpr hread]
    rfl
  case port_kept =>
    intro hunread
    rw [hport]
    cases htext : lookup "PORT" with
    | none => rfl
    | some text =>
      cases hread : Override.readPort text with
      | none => rw [Option.bind_some, hread]; rfl
      | some port =>
        exact absurd ((Override.readPort_eq_some_iff text port).mp hread) (hunread text port htext)
  case bindAddress =>
    exact text_foldl lookup hnodup hall settings .bindAddress (·.server.bindAddress)
      ⟨fun _ _ ↦ rfl, fun other hother _ _ ↦ by cases other <;> trivial⟩
  case connectionString =>
    exact text_foldl lookup hnodup hall settings .connectionString (·.database.connectionString)
      ⟨fun _ _ ↦ rfl, fun other hother _ _ ↦ by cases other <;> trivial⟩
  case databaseName =>
    exact text_foldl lookup hnodup hall settings .database (·.database.databaseName)
      ⟨fun _ _ ↦ rfl, fun other hother _ _ ↦ by cases other <;> trivial⟩
  case collection =>
    exact text_foldl lookup hnodup hall settings .collection (·.database.collection)
      ⟨fun _ _ ↦ rfl, fun other hother _ _ ↦ by cases other <;> trivial⟩
  case searchIndex =>
    exact text_foldl lookup hnodup hall settings .searchIndex (·.database.searchIndex)
      ⟨fun _ _ ↦ rfl, fun other hother _ _ ↦ by cases other <;> trivial⟩
  case requestTimeout =>
    exact field_foldl (·.database.requestTimeout) lookup
      (fun override _ _ _ ↦ by cases override <;> rfl) settings
  case maxPoolSize =>
    exact field_foldl (·.database.maxPoolSize) lookup
      (fun override _ _ _ ↦ by cases override <;> rfl) settings
  case defaultPageSize =>
    exact field_foldl (·.search.defaultPageSize) lookup
      (fun override _ _ _ ↦ by cases override <;> rfl) settings
  case maxPageSize =>
    exact field_foldl (·.search.maxPageSize) lookup
      (fun override _ _ _ ↦ by cases override <;> rfl) settings

end Order

theorem IsOverridden.unique {lookup : String → Option String} {settings merged other : Settings}
    (hmerged : IsOverridden lookup settings merged) (hother : IsOverridden lookup settings other) :
    merged = other := by
  have hport : merged.server.port = other.server.port := by
    by_cases hread : ∃ text port, lookup "PORT" = some text ∧ Override.IsPort text port
    · obtain ⟨text, port, htext, hport⟩ := hread
      rw [hmerged.port text port htext hport, hother.port text port htext hport]
    · have hunread : ∀ text port, lookup "PORT" = some text → ¬ Override.IsPort text port :=
        fun text port htext hport ↦ hread ⟨text, port, htext, hport⟩
      rw [hmerged.port_kept hunread, hother.port_kept hunread]
  have haddress := hmerged.bindAddress.trans hother.bindAddress.symm
  have hstring := hmerged.connectionString.trans hother.connectionString.symm
  have hname := hmerged.databaseName.trans hother.databaseName.symm
  have hcollection := hmerged.collection.trans hother.collection.symm
  have hindex := hmerged.searchIndex.trans hother.searchIndex.symm
  have htimeout := hmerged.requestTimeout.trans hother.requestTimeout.symm
  have hpool := hmerged.maxPoolSize.trans hother.maxPoolSize.symm
  have hdefault := hmerged.defaultPageSize.trans hother.defaultPageSize.symm
  have hmax := hmerged.maxPageSize.trans hother.maxPageSize.symm
  obtain ⟨⟨_, _⟩, ⟨_, _, _, _, _, _⟩, ⟨_, _⟩⟩ := merged
  obtain ⟨⟨_, _⟩, ⟨_, _, _, _, _, _⟩, ⟨_, _⟩⟩ := other
  simp only at *
  subst_vars
  rfl

/-- The variables have nothing left to change. -/
theorem IsOverridden.again {lookup : String → Option String} {settings merged : Settings}
    (hmerged : IsOverridden lookup settings merged) : IsOverridden lookup merged merged := by
  have hset (set : Option String) {old new : String} (hnew : new = set.getD old) :
      new = set.getD new := by
    cases set with
    | none => rfl
    | some value => exact hnew
  exact ⟨hset _ hmerged.bindAddress, hset _ hmerged.connectionString, hset _ hmerged.databaseName,
    hset _ hmerged.collection, hset _ hmerged.searchIndex, hmerged.port, fun _ ↦ rfl, rfl, rfl, rfl,
    rfl⟩

theorem isOverridden_merge (lookup : String → Option String) (settings : Settings) :
    IsOverridden lookup settings (settings.merge lookup) :=
  isOverridden_foldl lookup Override.nodup_all Override.mem_all settings

/-! ### one variable at a time -/

/-- The lookup of one variable, as if no other were set. -/
def Override.only (override : Override) (lookup : String → Option String) (name : String) :
    Option String :=
  if name = override.name then lookup name else none

theorem mergeOne_only_self (lookup : String → Option String) (settings : Settings)
    (override : Override) :
    mergeOne (override.only lookup) settings override = mergeOne lookup settings override := by
  rw [mergeOne, mergeOne, Override.only, if_pos rfl]

theorem mergeOne_only_of_ne (lookup : String → Option String) (settings : Settings)
    {override other : Override} (hne : other ≠ override) :
    mergeOne (override.only lookup) settings other = settings := by
  rw [mergeOne, Override.only, if_neg fun hname ↦ hne (Override.name_injective hname)]

theorem merge_only (lookup : String → Option String) (settings : Settings) (override : Override) :
    settings.merge (override.only lookup) = mergeOne lookup settings override := by
  cases override <;>
    simp [merge, Override.all, mergeOne_only_self, mergeOne_only_of_ne]

theorem foldl_merge_only (lookup : String → Option String) (order : List Override)
    (settings : Settings) :
    order.foldl (fun merged override ↦ merged.merge (override.only lookup)) settings =
      order.foldl (mergeOne lookup) settings := by
  have hone : (fun (merged : Settings) override ↦ merged.merge (Override.only override lookup)) =
      mergeOne lookup := by
    funext merged override
    exact merge_only lookup merged override
  rw [hone]

theorem foldl_mergeOne_of_perm (lookup : String → Option String) {order : List Override}
    (hperm : order.Perm Override.all) (settings : Settings) :
    order.foldl (mergeOne lookup) settings = settings.merge lookup := by
  have hnodup : order.Nodup := hperm.nodup_iff.mpr Override.nodup_all
  have hall (override : Override) : override ∈ order :=
    hperm.mem_iff.mpr (Override.mem_all override)
  exact (isOverridden_foldl lookup hnodup hall settings).unique (isOverridden_merge lookup settings)

/-! ### the checks -/

theorem IsOverridden.validate_iff {lookup : String → Option String} {settings merged : Settings}
    (hmerged : IsOverridden lookup settings merged) (hvalid : settings.validate = .ok ()) :
    merged.validate = .ok () ↔ Text.isBlank merged.database.connectionString = false := by
  have haccepted := (validate_eq_ok_iff settings).mp hvalid
  rw [validate_eq_ok_iff]
  refine ⟨fun hmerged ↦ hmerged.connectionString, fun hstring ↦ ?_⟩
  constructor
  case connectionString => exact hstring
  case isFinite_requestTimeout =>
    rw [hmerged.requestTimeout]
    exact haccepted.isFinite_requestTimeout
  case isPositive_requestTimeout =>
    rw [hmerged.requestTimeout]
    exact haccepted.isPositive_requestTimeout
  case maxPoolSize =>
    rw [hmerged.maxPoolSize]
    exact haccepted.maxPoolSize
  case maxPageSize =>
    rw [hmerged.maxPageSize]
    exact haccepted.maxPageSize
  case defaultPageSize =>
    rw [hmerged.defaultPageSize]
    exact haccepted.defaultPageSize
  case defaultPageSize_le =>
    rw [hmerged.defaultPageSize, hmerged.maxPageSize]
    exact haccepted.defaultPageSize_le

/-- Overrides change their own fields, once and in any order, and of the checks only that of the
connection string can turn against them. -/
theorem overrides_stay_local (lookup : String → Option String) (settings : Settings) :
    IsOverridden lookup settings (settings.merge lookup) ∧
    (settings.merge lookup).merge lookup = settings.merge lookup ∧
    (∀ order : List Override, order.Perm Override.all →
      order.foldl (fun merged override ↦ merged.merge (override.only lookup)) settings =
        settings.merge lookup) ∧
    (settings.validate = .ok () → ((settings.merge lookup).validate = .ok () ↔
      Text.isBlank (settings.merge lookup).database.connectionString = false)) := by
  have hmerged := isOverridden_merge lookup settings
  refine ⟨hmerged, ?twice, fun order hperm ↦ ?order, hmerged.validate_iff⟩
  case twice => exact (isOverridden_merge lookup (settings.merge lookup)).unique hmerged.again
  case order => rw [foldl_merge_only, foldl_mergeOne_of_perm lookup hperm]

theorem overrides_stay_local_blankString :
    let settings : Settings := { database := { connectionString := "mongodb://localhost" } }
    let lookup := fun name ↦
      [("PORT", "+09000"), ("DATABASE", ""), ("CONNECTION_STRING", " ")].lookup name
    settings.validate = .ok () ∧ (settings.merge lookup).server.port = 9000 ∧
      (settings.merge lookup).database.databaseName = "" ∧
      Override.all.reverse.foldl (fun merged override ↦ merged.merge (override.only lookup))
        settings = settings.merge lookup ∧
      (settings.merge lookup).validate ≠ .ok () := by
  intro settings lookup
  have hvalid : settings.validate = .ok () := by decide +kernel
  obtain ⟨hmerged, -, horder, hchecks⟩ := overrides_stay_local lookup settings
  have hport : Override.IsPort "+09000" 9000 :=
    ⟨['0', '9', '0', '0', '0'], by decide, by decide, List.all_eq_true.mp rfl, by decide⟩
  have hstring : (settings.merge lookup).database.connectionString = " " :=
    hmerged.connectionString
  refine ⟨hvalid, hmerged.port _ _ rfl hport, hmerged.databaseName,
    horder _ (List.reverse_perm _), fun hmergedValid ↦ ?_⟩
  have hblank := (hchecks hvalid).mp hmergedValid
  rw [hstring] at hblank
  exact absurd hblank (by decide)

end DatasetSearch.Settings
