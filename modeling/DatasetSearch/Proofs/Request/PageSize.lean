import DatasetSearch.Proofs.Request.QueryRoundTrip

/-!
# The page size of a query

A page size is read on its own: it decides nothing about the other parameters, and they decide
nothing about it (`set_withPageSize`). A query with one page size therefore reads like the query
without it, with the size put in at the end (`readFrom_of_single`), and a query with more of them
cannot be read (`length_filter_isPageSize_le`).

A blank page size counts as none. A query that tells the default instead reads the same but for that
(`ofQuery_of_tells`), and the two make the same request (`toRequest_withPageSize`). Every query can
be made to tell a page size (`tells_tell`).
-/

set_option autoImplicit false
set_option relaxedAutoImplicit false

namespace DatasetSearch.Parameters

/-- The names and values of a query, in order. -/
def entries (query : Option String) : List (String × String) :=
  Form.decode (Text.Utf8.encode (query.getD "").toList)

def isPageSize (entry : String × String) : Bool :=
  entry.1 == "pageSize"

theorem isPageSize_iff (name value : String) :
    isPageSize (name, value) = true ↔ Parameter.ofName? name = some .pageSize := by
  rw [isPageSize, beq_iff_eq]
  constructor
  · rintro rfl
    exact Parameter.ofName?_name .pageSize
  · intro hname
    have hfound := List.find?_some hname
    exact (beq_iff_eq.mp hfound).symm

theorem filter_others_of_none {entries : List (String × String)}
    (hnone : entries.filter isPageSize = []) : entries.filter (!isPageSize ·) = entries := by
  rw [List.filter_eq_self]
  rw [List.filter_eq_nil_iff] at hnone
  simpa using hnone

def withPageSize (params : Parameters) (size : Option UInt32) : Parameters :=
  { params with pageSize := size }

/-! ### one parameter apart from the others -/

theorem set_withPageSize {parameter : Parameter} (hother : parameter ≠ .pageSize)
    (params : Parameters) (size : Option UInt32) (value : String) :
    (params.withPageSize size).set parameter value =
      (params.set parameter value).map (·.withPageSize size) := by
  cases parameter
  case pageSize => exact absurd rfl hother
  case term | sortBy | contentType | providerName | creatorName =>
    simp only [set, withPageSize, Except.map]
  case dataCoverageStart | dataCoverageEnd | publishedStart | publishedEnd =>
    cases hyear : year? value <;> simp [set, hyear, withPageSize, Except.map]
  case pageNumber =>
    cases hcount : count? value <;> simp [set, hcount, withPageSize, Except.map]

/-- The same parameters have been read, but for the page size. -/
def SameOthers (seen others : List Parameter) : Prop :=
  ∀ parameter, parameter ≠ .pageSize → (parameter ∈ seen ↔ parameter ∈ others)

theorem SameOthers.refl (seen : List Parameter) : SameOthers seen seen :=
  fun _ _ ↦ Iff.rfl

theorem SameOthers.cons {seen others : List Parameter} (hsame : SameOthers seen others)
    (parameter : Parameter) : SameOthers (parameter :: seen) (parameter :: others) := by
  intro other hne
  rw [List.mem_cons, List.mem_cons, hsame other hne]

theorem SameOthers.cons_pageSize {seen others : List Parameter} (hsame : SameOthers seen others) :
    SameOthers (.pageSize :: seen) others := by
  intro other hne
  rw [List.mem_cons, or_iff_right hne, hsame other hne]

section Reading

variable {seen others : List Parameter} {rest otherRest : List (String × String)}
  {first last : Option UInt32}

/-- Another entry is read the same way whatever the page size, so that two readings that go on
alike are alike. -/
theorem readFrom_cons_of_other {entry : String × String} (hentry : isPageSize entry = false)
    (hsame : SameOthers seen others)
    (hrest : ∀ seen' others' params, SameOthers seen' others' →
      (.pageSize ∈ seen' → .pageSize ∈ seen) →
      readFrom seen' (withPageSize params first) rest =
        (readFrom others' params otherRest).map (·.withPageSize last))
    (params : Parameters) :
    readFrom seen (params.withPageSize first) (entry :: rest) =
      (readFrom others params (entry :: otherRest)).map (·.withPageSize last) := by
  obtain ⟨name, value⟩ := entry
  rw [readFrom, readFrom]
  cases hparameter : Parameter.ofName? name with
  | none => exact hrest seen others params hsame id
  | some parameter =>
    have hne : parameter ≠ .pageSize := by
      rintro rfl
      rw [(isPageSize_iff name value).mpr hparameter] at hentry
      cases hentry
    dsimp only
    rw [set_withPageSize hne]
    by_cases hmem : parameter ∈ others
    · rw [if_pos hmem, if_pos ((hsame parameter hne).mpr hmem)]
      rfl
    · rw [if_neg hmem, if_neg fun h ↦ hmem ((hsame parameter hne).mp h)]
      cases params.set parameter value with
      | error fault => rfl
      | ok read =>
        refine hrest _ _ read (hsame.cons parameter) fun hseen ↦ ?_
        exact (List.mem_cons.mp hseen).resolve_left hne.symm

theorem readFrom_of_none {entries : List (String × String)}
    (hnone : entries.filter isPageSize = []) (hsame : SameOthers seen others) (size : Option UInt32)
    (params : Parameters) :
    readFrom seen (params.withPageSize size) entries =
      (readFrom others params entries).map (·.withPageSize size) := by
  induction entries generalizing seen others params with
  | nil => rfl
  | cons entry entries ih =>
    rw [List.filter_eq_nil_iff, List.forall_mem_cons, ← List.filter_eq_nil_iff] at hnone
    exact readFrom_cons_of_other (Bool.eq_false_iff.mpr hnone.1) hsame
      (fun seen' others' params hsame' _ ↦ ih hnone.2 hsame' params) params

/-- One page size among other entries is put in at the end. -/
theorem readFrom_of_single {entries : List (String × String)} {name value : String}
    (hsingle : entries.filter isPageSize = [(name, value)]) (hsize : count? value = .ok last)
    (hsame : SameOthers seen others) (hseen : .pageSize ∉ seen) (params : Parameters) :
    readFrom seen (params.withPageSize first) entries =
      (readFrom others params (entries.filter (!isPageSize ·))).map (·.withPageSize last) := by
  induction entries generalizing seen others params with
  | nil => cases hsingle
  | cons entry entries ih =>
    cases hentry : isPageSize entry with
    | false =>
      rw [List.filter_cons_of_neg (by simp [hentry])] at hsingle
      rw [List.filter_cons_of_pos (by simp [hentry])]
      exact readFrom_cons_of_other hentry hsame (fun seen' others' params hsame' hpage ↦
        ih hsingle hsame' (fun hmem ↦ hseen (hpage hmem)) params) params
    | true =>
      rw [List.filter_cons_of_pos hentry] at hsingle
      obtain ⟨rfl, hrest⟩ := List.cons.inj hsingle
      have hset : (params.withPageSize first).set .pageSize value =
          .ok (params.withPageSize last) := by
        rw [set, hsize]
        rfl
      rw [List.filter_cons_of_neg (by simp [hentry]), filter_others_of_none hrest, readFrom,
        (isPageSize_iff name value).mp hentry]
      dsimp only
      rw [if_neg hseen, hset]
      exact readFrom_of_none hrest hsame.cons_pageSize last params

end Reading

/-- A query that can be read has one page size at most. -/
theorem length_filter_isPageSize_le {entries : List (String × String)} {seen : List Parameter}
    {params read : Parameters} (hread : readFrom seen params entries = .ok read) :
    (entries.filter isPageSize).length ≤ if .pageSize ∈ seen then 0 else 1 := by
  induction entries generalizing seen params with
  | nil => exact Nat.zero_le _
  | cons entry entries ih =>
    obtain ⟨name, value⟩ := entry
    rw [readFrom] at hread
    cases hparameter : Parameter.ofName? name with
    | none =>
      rw [hparameter] at hread
      rw [List.filter_cons_of_neg (by simp [isPageSize_iff, hparameter])]
      exact ih hread
    | some parameter =>
      rw [hparameter] at hread
      dsimp only at hread
      split at hread
      · cases hread
      · next hnew =>
        cases hset : params.set parameter value with
        | error fault => rw [hset] at hread; cases hread
        | ok set =>
          rw [hset] at hread
          have hrest := ih hread
          by_cases hpage : parameter = .pageSize
          · subst hpage
            rw [if_pos List.mem_cons_self] at hrest
            rw [List.filter_cons_of_pos ((isPageSize_iff ..).mpr hparameter), if_neg hnew,
              List.length_cons]
            omega
          · rw [List.filter_cons_of_neg (by simp [isPageSize_iff, hparameter, hpage])]
            simpa [Ne.symm hpage] using hrest

/-! ### blank and told page sizes -/

theorem count?_of_isBlank {value : String} (hblank : Text.isBlank value = true) :
    count? value = .ok none := by
  rw [count?, number?, present?, (Text.isBlank_iff_trim value).mp hblank]
  rfl

theorem count?_toString (size : UInt32) : count? (toString size.toNat) = .ok (some size) :=
  count?_toNat size

/-- The query has no page size, or a blank one. -/
def LeavesPageSize (query : Option String) : Prop :=
  ∀ entry ∈ entries query, isPageSize entry = true → Text.isBlank entry.2 = true

/-- The query tells its page size in decimal, anywhere, and goes on like another one. -/
structure Tells (size : UInt32) (query told : Option String) : Prop where
  pageSize : (entries told).filter isPageSize = [("pageSize", toString size.toNat)]
  others : (entries told).filter (!isPageSize ·) = (entries query).filter (!isPageSize ·)

section Query

variable {query told : Option String} {params : Parameters}

theorem ofQuery_of_single {name value : String} {size : Option UInt32}
    (hsingle : (entries query).filter isPageSize = [(name, value)])
    (hsize : count? value = .ok size) :
    ofQuery query =
      (readFrom [] {} ((entries query).filter (!isPageSize ·))).map (·.withPageSize size) :=
  readFrom_of_single hsingle hsize (.refl []) List.not_mem_nil {}

theorem ofQuery_of_leaves (hleaves : LeavesPageSize query) (hread : ofQuery query = .ok params) :
    ofQuery query =
      (readFrom [] {} ((entries query).filter (!isPageSize ·))).map (·.withPageSize none) := by
  have hlength : ((entries query).filter isPageSize).length ≤ 1 :=
    length_filter_isPageSize_le hread
  match hown : (entries query).filter isPageSize with
  | [] =>
    rw [filter_others_of_none hown]
    exact readFrom_of_none hown (.refl []) none {}
  | [(name, value)] =>
    obtain ⟨hmem, hpage⟩ := List.mem_filter.mp (hown ▸ List.mem_singleton_self (name, value))
    exact ofQuery_of_single hown (count?_of_isBlank (hleaves _ hmem hpage))
  | _ :: _ :: _ =>
    simp [hown] at hlength

/-- Telling a page size that the query leaves out changes nothing else of what is read. -/
theorem ofQuery_of_tells {size : UInt32} (hleaves : LeavesPageSize query)
    (hread : ofQuery query = .ok params) (htells : Tells size query told) :
    params.pageSize = none ∧ ofQuery told = .ok (params.withPageSize (some size)) := by
  have htold := ofQuery_of_single htells.pageSize (count?_toString size)
  rw [ofQuery_of_leaves hleaves hread] at hread
  rw [htold, htells.others]
  cases hothers : readFrom [] {} ((entries query).filter (!isPageSize ·)) with
  | error fault => rw [hothers] at hread; cases hread
  | ok base =>
    rw [hothers] at hread
    cases hread
    exact ⟨rfl, rfl⟩

end Query

theorem toRequest_withPageSize {params : Parameters} (hnone : params.pageSize = none)
    (size : UInt32) : (params.withPageSize (some size)).toRequest size = params.toRequest size := by
  rw [toRequest, toRequest, hnone]
  rfl

/-! ### telling a page size -/

/-- The entries that pieces of a text stand for. -/
def entriesOf (pieces : List (List Char)) : List (String × String) :=
  ((pieces.map Text.Utf8.encode).filter (!·.isEmpty)).map Form.decodePiece

theorem entries_eq_entriesOf (query : Option String) :
    entries query = entriesOf ((query.getD "").toList.splitOn '&') := by
  rw [entries, Form.decode, Form.splitOn_encode, entriesOf]

theorem entriesOf_append (pieces others : List (List Char)) :
    entriesOf (pieces ++ others) = entriesOf pieces ++ entriesOf others := by
  simp only [entriesOf, List.map_append, List.filter_append]

theorem entriesOf_filter (keep : String × String → Bool) (pieces : List (List Char)) :
    entriesOf (pieces.filter fun piece ↦ keep (Form.decodePiece (Text.Utf8.encode piece))) =
      (entriesOf pieces).filter keep := by
  simp only [entriesOf, List.filter_map, List.filter_filter, Function.comp_def, Bool.and_comm]

/-- The query without its page sizes, and with one at the end. -/
def tell (size : UInt32) (query : Option String) : String :=
  let others := ((query.getD "").toList.splitOn '&').filter fun piece ↦
    !isPageSize (Form.decodePiece (Text.Utf8.encode piece))
  String.ofList (['&'].intercalate (others ++ [("pageSize=" ++ toString size.toNat).toList]))

theorem toList_toString (n : Nat) : (toString n).toList = Text.Numeral.ofInt n :=
  String.toList_ofList

theorem ampersand_not_mem_told (size : UInt32) :
    '&' ∉ ("pageSize=" ++ toString size.toNat).toList := by
  rw [String.toList_append, toList_toString]
  intro hmem
  rcases List.mem_append.mp hmem with hname | hvalue
  · exact absurd hname (by decide)
  · rcases Text.Numeral.mem_ofInt hvalue with hdigit | hminus
    · cases hdigit
    · cases hminus

theorem entriesOf_told (size : UInt32) :
    entriesOf [("pageSize=" ++ toString size.toNat).toList] =
      [("pageSize", toString size.toNat)] := by
  let value : Parameter.Value := .number size.toNat
  let spelling : Nat → Form.Spelling := fun _ ↦ {}
  have hbytes : Text.Utf8.encode ("pageSize=" ++ toString size.toNat).toList =
      Request.piece .pageSize spelling value := by
    rw [String.toList_append, toList_toString, Text.Utf8.encode, List.flatMap_append]
    rfl
  have hkeep : (Request.piece .pageSize spelling value).isEmpty = false :=
    List.isEmpty_eq_false_iff.mpr (Request.piece_ne_nil .pageSize spelling value)
  rw [entriesOf, List.map_singleton, hbytes, List.filter_cons_of_pos (by rw [hkeep]; rfl),
    List.filter_nil, List.map_singleton, Request.decodePiece_piece]
  rfl

theorem entries_tell (size : UInt32) (query : Option String) :
    entries (some (tell size query)) =
      (entries query).filter (!isPageSize ·) ++ [("pageSize", toString size.toNat)] := by
  rw [entries_eq_entriesOf, Option.getD_some, tell, String.toList_ofList, List.splitOn_intercalate,
    entriesOf_append, entriesOf_filter (!isPageSize ·), entriesOf_told, ← entries_eq_entriesOf]
  · intro piece hpiece
    rcases List.mem_append.mp hpiece with hother | hown
    · exact not_mem_of_mem_splitOn (List.mem_filter.mp hother).1
    · rw [List.mem_singleton.mp hown]
      exact ampersand_not_mem_told size
  · simp

theorem tells_tell (size : UInt32) (query : Option String) :
    Tells size query (some (tell size query)) := by
  constructor
  · rw [entries_tell, List.filter_append, List.filter_filter]
    simp [isPageSize]
  · rw [entries_tell, List.filter_append, List.filter_filter]
    simp [isPageSize]

end DatasetSearch.Parameters
