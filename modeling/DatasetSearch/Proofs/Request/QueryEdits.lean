import DatasetSearch.Proofs.Request.Reading
import Mathlib.Logic.Relation

/-!
# Edits that keep what a query says

The pieces of a query may be put in another order, and pieces that tell nothing may come and go:
empty ones, ones with unknown names, and blank values of all parameters but the term. White space
may be put around all other values. `Edit` is one such step. What the values say of each parameter
stays as long as no known name comes twice (`Edit.sameReading`). An edited query is therefore read
as before (`ofQuery_eq_ok_iff_of_sameReading`), with the same fault if the query has one faulty value
only (`ofQuery_eq_of_sameReading`).
-/

set_option autoImplicit false
set_option relaxedAutoImplicit false

namespace DatasetSearch.Parameters

open Text

/-! ### pieces -/

def pieces (query : Option String) : List (List Char) :=
  (query.getD "").toList.splitOn '&'

def joined (pieces : List (List Char)) : String :=
  String.ofList (['&'].intercalate pieces)

/-- The name and the value of a piece. -/
def entryOf (piece : List Char) : String × String :=
  Form.decodePiece (Utf8.encode piece)

/-- What a piece tells of a known parameter. -/
def toldBy? (piece : List Char) : Option (Parameter × String) :=
  (Parameter.ofName? (entryOf piece).1).map (·, (entryOf piece).2)

/-- A piece that is empty or has an unknown name. -/
def IsIdle (piece : List Char) : Prop :=
  piece = [] ∨ ∀ parameter : Parameter, (entryOf piece).1 ≠ parameter.name

theorem toldBy?_nil : toldBy? [] = none := by
  decide +kernel

section Piece

variable {piece : List Char}

theorem toldBy?_of_unknown (hunknown : Parameter.ofName? (entryOf piece).1 = none) :
    toldBy? piece = none := by
  rw [toldBy?, hunknown, Option.map_none]

theorem toldBy?_of_known {parameter : Parameter}
    (hknown : Parameter.ofName? (entryOf piece).1 = some parameter) :
    toldBy? piece = some (parameter, (entryOf piece).2) := by
  rw [toldBy?, hknown, Option.map_some]

theorem toldBy?_of_isIdle (hidle : IsIdle piece) : toldBy? piece = none := by
  rcases hidle with rfl | hname
  · exact toldBy?_nil
  · exact toldBy?_of_unknown (Parameter.ofName?_eq_none_iff.mpr hname)

theorem ne_term_of_known (hname : (entryOf piece).1 ≠ "term") {parameter : Parameter}
    (hknown : Parameter.ofName? (entryOf piece).1 = some parameter) : parameter ≠ .term := by
  rintro rfl
  exact hname (Parameter.ofName?_eq_some_iff.mp hknown)

end Piece

theorem told_entriesOf (pieces : List (List Char)) :
    told (entriesOf pieces) = pieces.filterMap toldBy? := by
  rw [told, entriesOf, List.filterMap_map, List.filterMap_filter, List.filterMap_map]
  refine congrArg (List.filterMap · pieces) (funext fun piece ↦ ?_)
  cases hbytes : Utf8.encode piece with
  | nil =>
    -- a piece without bytes would be passed over for its name anyway
    have hnil : toldBy? piece = none := by
      rw [toldBy?, entryOf, hbytes]
      exact toldBy?_nil
    simp [hbytes, hnil]
  | cons b bytes => simp [toldBy?, entryOf, hbytes]

theorem told_entries (query : Option String) :
    told (entries query) = (pieces query).filterMap toldBy? := by
  rw [entries_eq_entriesOf, told_entriesOf, pieces]

theorem told_joined {others : List (List Char)} (hothers : ∀ piece ∈ others, '&' ∉ piece) :
    told (entries (some (joined others))) = others.filterMap toldBy? := by
  rw [told_entries, pieces, Option.getD_some, joined, String.toList_ofList]
  cases others with
  | nil => exact List.filterMap_cons_none toldBy?_nil
  | cons piece others => rw [List.splitOn_intercalate '&' hothers (List.cons_ne_nil piece others)]

/-! ### edits -/

/-- One edit of the pieces of a query. -/
inductive Edit : List (List Char) → List (List Char) → Prop
  | permute {pieces others : List (List Char)} (hperm : pieces.Perm others) : Edit pieces others
  | insertIdle (front back : List (List Char)) {piece : List Char} (hidle : IsIdle piece) :
    Edit (front ++ back) (front ++ piece :: back)
  | deleteIdle (front back : List (List Char)) {piece : List Char} (hidle : IsIdle piece) :
    Edit (front ++ piece :: back) (front ++ back)
  | deleteBlank (front back : List (List Char)) {piece : List Char}
    (hname : (entryOf piece).1 ≠ "term") (hblank : isBlank (entryOf piece).2 = true) :
    Edit (front ++ piece :: back) (front ++ back)
  | pad (front back : List (List Char)) {piece padded : List Char}
    (hname : (entryOf piece).1 ≠ "term") (hsame : (entryOf padded).1 = (entryOf piece).1)
    (hpadded : IsPadded (entryOf piece).2 (entryOf padded).2) :
    Edit (front ++ piece :: back) (front ++ padded :: back)

/-- The others tell no known name twice either, and they say the same of each parameter. -/
def SameReading (values others : List (Parameter × String)) : Prop :=
  (names values).Nodup → (names others).Nodup ∧
    ∀ parameter result, Says values none parameter result ↔ Says others none parameter result

theorem SameReading.refl (values : List (Parameter × String)) : SameReading values values :=
  fun hnodup ↦ ⟨hnodup, fun _ _ ↦ Iff.rfl⟩

theorem SameReading.trans {first second third : List (Parameter × String)}
    (hfirst : SameReading first second) (hsecond : SameReading second third) :
    SameReading first third := by
  intro hnodup
  obtain ⟨hnodup, hsame⟩ := hfirst hnodup
  obtain ⟨hthird, hagain⟩ := hsecond hnodup
  exact ⟨hthird, fun parameter result ↦ (hsame parameter result).trans (hagain parameter result)⟩

theorem SameReading.of_perm {values others : List (Parameter × String)}
    (hperm : values.Perm others) : SameReading values others :=
  fun hnodup ↦ ⟨(names_perm hperm).nodup_iff.mp hnodup, fun _ _ ↦ says_iff_of_perm hperm⟩

section Value

variable {parameter : Parameter} {value : String} (front back : List (Parameter × String))

theorem SameReading.drop (hread : parameter.read value = .ok none) :
    SameReading (front ++ (parameter, value) :: back) (front ++ back) := by
  refine (SameReading.of_perm List.perm_middle).trans fun hnodup ↦ ?_
  obtain ⟨hnew, hrest⟩ := List.nodup_cons.mp hnodup
  refine ⟨hrest, fun other result ↦ ?_⟩
  by_cases hother : other = parameter
  · subst hother
    rw [says_cons_self hnew, hread, says_of_not_mem hnew]
  · rw [says_cons_of_ne hother]

theorem SameReading.exchange {other : String}
    (hread : parameter.read other = parameter.read value) :
    SameReading (front ++ (parameter, value) :: back) (front ++ (parameter, other) :: back) := by
  refine (SameReading.of_perm List.perm_middle).trans
    (SameReading.trans (fun hnodup ↦ ?_) (.of_perm List.perm_middle.symm))
  have hnew := (List.nodup_cons.mp hnodup).1
  refine ⟨hnodup, fun p result ↦ ?_⟩
  by_cases hp : p = parameter
  · subst hp
    rw [says_cons_self hnew, says_cons_self hnew, hread]
  · rw [says_cons_of_ne hp, says_cons_of_ne hp]

end Value

theorem Edit.sameReading {pieces others : List (List Char)} (hedit : Edit pieces others) :
    SameReading (pieces.filterMap toldBy?) (others.filterMap toldBy?) := by
  cases hedit with
  | permute hperm => exact .of_perm (hperm.filterMap toldBy?)
  | insertIdle front back hidle | deleteIdle front back hidle =>
    rw [List.filterMap_append, List.filterMap_append,
      List.filterMap_cons_none (toldBy?_of_isIdle hidle)]
    exact .refl _
  | @deleteBlank front back piece hname hblank =>
    rw [List.filterMap_append, List.filterMap_append]
    cases hknown : Parameter.ofName? (entryOf piece).1 with
    | none =>
      rw [List.filterMap_cons_none (toldBy?_of_unknown hknown)]
      exact .refl _
    | some parameter =>
      rw [List.filterMap_cons_some (toldBy?_of_known hknown)]
      exact .drop _ _ (read_of_isBlank (ne_term_of_known hname hknown) hblank)
  | @pad front back piece padded hname hsame hpadded =>
    rw [List.filterMap_append, List.filterMap_append]
    cases hknown : Parameter.ofName? (entryOf piece).1 with
    | none =>
      have hpad : Parameter.ofName? (entryOf padded).1 = none := by rw [hsame, hknown]
      rw [List.filterMap_cons_none (toldBy?_of_unknown hknown),
        List.filterMap_cons_none (toldBy?_of_unknown hpad)]
      exact .refl _
    | some parameter =>
      have hpad : Parameter.ofName? (entryOf padded).1 = some parameter := by rw [hsame, hknown]
      rw [List.filterMap_cons_some (toldBy?_of_known hknown),
        List.filterMap_cons_some (toldBy?_of_known hpad)]
      exact .exchange _ _ (read_congr (ne_term_of_known hname hknown) (trim_of_isPadded hpadded))

theorem sameReading_of_edits {pieces others : List (List Char)}
    (hedits : Relation.ReflTransGen Edit pieces others) :
    SameReading (pieces.filterMap toldBy?) (others.filterMap toldBy?) := by
  induction hedits with
  | refl => exact .refl _
  | tail _ hedit ih => exact ih.trans hedit.sameReading

/-! ### queries read the same -/

/-- No known name comes twice in the query, not even with a blank value. -/
def NamesOnce (query : Option String) : Prop :=
  (names (told (entries query))).Nodup

/-- Two parameters of the query have values that cannot be read. -/
def HasSeveralFaults (query : Option String) : Prop :=
  ∃ first ∈ told (entries query), ∃ second ∈ told (entries query), first.1 ≠ second.1 ∧
    (∃ fault, first.1.read first.2 = .error fault) ∧
    ∃ fault, second.1.read second.2 = .error fault

theorem ofQuery_eq_ok_iff (query : Option String) (read : Parameters) :
    ofQuery query = .ok read ↔
      NamesOnce query ∧
        ∀ parameter, Says (told (entries query)) none parameter (.ok (read.value? parameter)) := by
  rw [ofQuery, ← entries, readFrom_eq_ok_iff]
  constructor
  · intro hreads
    refine ⟨hreads.nodup, fun parameter ↦ ?_⟩
    rw [← value?_empty parameter]
    exact hreads.each parameter
  · rintro ⟨hnodup, heach⟩
    refine ⟨hnodup, fun _ _ ↦ List.not_mem_nil, fun parameter ↦ ?_⟩
    rw [value?_empty]
    exact heach parameter

/-- The fault of a query in which no name comes twice is what a value of it says. -/
theorem says_of_ofQuery_eq_error {query : Option String} (hnames : NamesOnce query) {fault : Fault}
    (hfails : ofQuery query = .error fault) :
    ∃ parameter, Says (told (entries query)) none parameter (.error fault) := by
  obtain ⟨⟨parameter, value⟩, hmem, hread⟩ :=
    exists_read_eq_error hnames (fun _ _ ↦ List.not_mem_nil) hfails
  exact ⟨parameter, (says_iff_of_mem hnames hmem).mpr hread⟩

section Same

variable {query edited : Option String}
  (hsame : SameReading (told (entries query)) (told (entries edited))) (hnames : NamesOnce query)

include hsame hnames

theorem ofQuery_eq_ok_iff_of_sameReading (read : Parameters) :
    ofQuery edited = .ok read ↔ ofQuery query = .ok read := by
  obtain ⟨hedited, hsaid⟩ := hsame hnames
  have honce : NamesOnce edited := hedited
  rw [ofQuery_eq_ok_iff, ofQuery_eq_ok_iff, and_iff_right hnames, and_iff_right honce]
  simp only [hsaid]

theorem ofQuery_eq_of_sameReading (hsingle : ¬ HasSeveralFaults query) :
    ofQuery edited = ofQuery query := by
  have hread := ofQuery_eq_ok_iff_of_sameReading hsame hnames
  obtain ⟨hedited, hsaid⟩ := hsame hnames
  cases hquery : ofQuery query with
  | ok read => exact (hread read).mpr hquery
  | error fault =>
    cases hfails : ofQuery edited with
    | ok read => cases hquery.symm.trans ((hread read).mp hfails)
    | error found =>
      obtain ⟨first, hfirst⟩ := says_of_ofQuery_eq_error hnames hquery
      obtain ⟨second, hsecond⟩ := says_of_ofQuery_eq_error hedited hfails
      rw [← hsaid] at hsecond
      obtain ⟨value, hmem, hvalue⟩ := exists_mem_of_says_error hfirst
      obtain ⟨other, hother, hreads⟩ := exists_mem_of_says_error hsecond
      -- the two faults are those of one parameter, which has one value
      by_cases heq : first = second
      · subst heq
        have hfound := (says_iff_of_mem hnames hmem).mp hsecond
        rw [Except.error.inj (hfound.symm.trans hvalue)]
      · exact absurd ⟨_, hmem, _, hother, heq, ⟨_, hvalue⟩, _, hreads⟩ hsingle

end Same

end DatasetSearch.Parameters
