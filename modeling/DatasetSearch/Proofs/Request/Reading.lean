import DatasetSearch.Proofs.Request.ParameterValue
import Mathlib.Data.List.Nodup

/-!
# What a query comes to

The parameters of a query are read in turn, but the order decides little. A query can be read if no
parameter is told twice and every value can be read, and the parameters are then what the values
say, in whatever order they came (`readFrom_eq_ok_iff`). A value may therefore be taken out and put
in again (`readFrom_insert_iff`). Only which of several faults is met first depends on the order
(`exists_read_eq_error`, `readFrom_eq_error_of_first`).
-/

set_option autoImplicit false
set_option relaxedAutoImplicit false

namespace DatasetSearch.Parameters

/-! ### all values -/

/-- The values of known parameters among entries, in order. -/
def told (entries : List (String × String)) : List (Parameter × String) :=
  entries.filterMap fun entry ↦ (Parameter.ofName? entry.1).map (·, entry.2)

theorem told_append (entries others : List (String × String)) :
    told (entries ++ others) = told entries ++ told others :=
  List.filterMap_append

theorem told_cons_of_none {name : String} (hname : Parameter.ofName? name = none) (value : String)
    (entries : List (String × String)) : told ((name, value) :: entries) = told entries := by
  rw [told, List.filterMap_cons_none (by rw [hname]; rfl), ← told]

theorem told_cons_of_some {name : String} {parameter : Parameter}
    (hname : Parameter.ofName? name = some parameter) (value : String)
    (entries : List (String × String)) :
    told ((name, value) :: entries) = (parameter, value) :: told entries := by
  rw [told, List.filterMap_cons_some (by rw [hname]; rfl), ← told]

/-- The parameters that are told, each as often as it is told. -/
def names (values : List (Parameter × String)) : List Parameter :=
  values.map Prod.fst

theorem mem_names_of_mem {values : List (Parameter × String)} {parameter : Parameter}
    {value : String} (hmem : (parameter, value) ∈ values) : parameter ∈ names values :=
  List.mem_map_of_mem hmem

theorem names_perm {values others : List (Parameter × String)} (hperm : values.Perm others) :
    (names values).Perm (names others) :=
  hperm.map Prod.fst

/-- What the values say of a parameter: what each value of its own is read as, or that it is as
before if it has none. -/
def Says (values : List (Parameter × String)) (before : Option Parameter.Value)
    (parameter : Parameter) (result : Except Fault (Option Parameter.Value)) : Prop :=
  (∀ value, (parameter, value) ∈ values → parameter.read value = result) ∧
    (parameter ∉ names values → .ok before = result)

section Says

variable {values : List (Parameter × String)} {parameter other : Parameter} {value : String}
  {before : Option Parameter.Value} {result : Except Fault (Option Parameter.Value)}

theorem says_nil : Says [] before parameter result ↔ .ok before = result := by
  simp [Says, names]

theorem says_cons_self (hnew : parameter ∉ names values) :
    Says ((parameter, value) :: values) before parameter result ↔
      parameter.read value = result := by
  have hnone : ∀ v, (parameter, v) ∉ values := fun v hmem ↦ hnew (mem_names_of_mem hmem)
  simp [Says, names, hnone]

theorem says_cons_of_ne (hne : other ≠ parameter) :
    Says ((parameter, value) :: values) before other result ↔ Says values before other result := by
  simp [Says, names, hne]

theorem says_of_not_mem (hnew : parameter ∉ names values) :
    Says values before parameter result ↔ .ok before = result := by
  have hnone : ∀ v, (parameter, v) ∉ values := fun v hmem ↦ hnew (mem_names_of_mem hmem)
  simp [Says, hnew, hnone]

theorem says_iff_of_perm {others : List (Parameter × String)} (hperm : values.Perm others) :
    Says values before parameter result ↔ Says others before parameter result := by
  simp only [Says, hperm.mem_iff, (names_perm hperm).mem_iff]

/-- Where no name comes twice, a value alone decides what is said of its parameter. -/
theorem says_iff_of_mem (hnodup : (names values).Nodup) (hmem : (parameter, value) ∈ values) :
    Says values before parameter result ↔ parameter.read value = result := by
  constructor
  · exact fun hsaid ↦ hsaid.1 value hmem
  · intro hread
    refine ⟨fun other hother ↦ ?_, fun hnew ↦ absurd (mem_names_of_mem hmem) hnew⟩
    have heq : (parameter, other) = (parameter, value) :=
      List.inj_on_of_nodup_map hnodup hother hmem rfl
    rw [(Prod.mk.inj heq).2, hread]

theorem exists_mem_of_says_error {fault : Fault}
    (hsaid : Says values before parameter (.error fault)) :
    ∃ value, (parameter, value) ∈ values ∧ parameter.read value = .error fault := by
  by_cases hmem : parameter ∈ names values
  · obtain ⟨⟨_, value⟩, hvalue, rfl⟩ := List.mem_map.mp hmem
    exact ⟨value, hvalue, hsaid.1 value hvalue⟩
  · cases hsaid.2 hmem

end Says

/-- No parameter is told twice, none that has been read is told again, and each of them is read as
the values say. -/
structure Reads (seen : List Parameter) (before : Parameters) (values : List (Parameter × String))
    (read : Parameters) : Prop where
  nodup : (names values).Nodup
  fresh : ∀ parameter ∈ names values, parameter ∉ seen
  each : ∀ parameter, Says values (before.value? parameter) parameter (.ok (read.value? parameter))

/-- A value that is stored leaves the rest of the values to be read after it. -/
theorem Stores.says_iff {stored params : Parameters} {parameter : Parameter} {value : String}
    (hstores : stored.Stores params parameter value) {values : List (Parameter × String)}
    (hnew : parameter ∉ names values) (other : Parameter)
    (result : Except Fault (Option Parameter.Value)) :
    Says ((parameter, value) :: values) (params.value? other) other result ↔
      Says values (stored.value? other) other result := by
  by_cases hother : other = parameter
  · subst hother
    rw [says_cons_self hnew, hstores.own, says_of_not_mem hnew]
  · rw [says_cons_of_ne hother, hstores.others other hother]

theorem Stores.reads_iff {stored params : Parameters} {parameter : Parameter} {value : String}
    (hstores : stored.Stores params parameter value) {seen : List Parameter}
    (hseen : parameter ∉ seen) (values : List (Parameter × String)) (read : Parameters) :
    Reads seen params ((parameter, value) :: values) read ↔
      Reads (parameter :: seen) stored values read := by
  constructor
  · intro hreads
    obtain ⟨hnew, hnodup⟩ := List.nodup_cons.mp hreads.nodup
    refine ⟨hnodup, fun p hp ↦ ?_, fun p ↦ (hstores.says_iff hnew p _).mp (hreads.each p)⟩
    exact List.not_mem_cons_of_ne_of_not_mem (fun heq ↦ hnew (heq ▸ hp))
      (hreads.fresh p (List.mem_cons_of_mem parameter hp))
  · intro hreads
    have hnew : parameter ∉ names values := fun hp ↦ hreads.fresh parameter hp List.mem_cons_self
    refine ⟨List.nodup_cons.mpr ⟨hnew, hreads.nodup⟩, ?_,
      fun p ↦ (hstores.says_iff hnew p _).mpr (hreads.each p)⟩
    rintro p (_ | ⟨_, hp⟩)
    · exact hseen
    · exact fun hmem ↦ hreads.fresh p hp (List.mem_cons_of_mem parameter hmem)

theorem reads_cons_iff (seen : List Parameter) (params : Parameters) (parameter : Parameter)
    (value : String) (values : List (Parameter × String)) (read : Parameters) :
    Reads seen params ((parameter, value) :: values) read ↔
      parameter ∉ seen ∧ ∃ stored, params.set parameter value = .ok stored ∧
        Reads (parameter :: seen) stored values read := by
  rcases set_cases params parameter value with ⟨stored, hset, hstores⟩ | ⟨fault, hset, hread⟩
  · constructor
    · intro hreads
      have hseen := hreads.fresh parameter List.mem_cons_self
      exact ⟨hseen, stored, hset, (hstores.reads_iff hseen values read).mp hreads⟩
    · rintro ⟨hseen, found, hfound, hreads⟩
      cases hset.symm.trans hfound
      exact (hstores.reads_iff hseen values read).mpr hreads
  · constructor
    · intro hreads
      have hown := (hreads.each parameter).1 value List.mem_cons_self
      cases hread.symm.trans hown
    · rintro ⟨-, found, hfound, -⟩
      cases hset.symm.trans hfound

/-! ### entries in turn -/

section Entry

variable {name : String} (value : String) (rest : List (String × String)) {seen : List Parameter}
  {params : Parameters}

theorem readFrom_cons_of_unknown (hname : Parameter.ofName? name = none) :
    readFrom seen params ((name, value) :: rest) = readFrom seen params rest := by
  rw [readFrom, hname]

variable {value} {parameter : Parameter} (hname : Parameter.ofName? name = some parameter)

include hname

theorem readFrom_cons_of_stored (hseen : parameter ∉ seen) {stored : Parameters}
    (hset : params.set parameter value = .ok stored) :
    readFrom seen params ((name, value) :: rest) = readFrom (parameter :: seen) stored rest := by
  rw [readFrom, hname]
  dsimp only
  rw [if_neg hseen, hset]

theorem readFrom_cons_of_fault (hseen : parameter ∉ seen) {fault : Fault}
    (hset : params.set parameter value = .error fault) :
    readFrom seen params ((name, value) :: rest) = .error fault := by
  rw [readFrom, hname]
  dsimp only
  rw [if_neg hseen, hset]

theorem readFrom_cons_eq_ok_iff (read : Parameters) :
    readFrom seen params ((name, value) :: rest) = .ok read ↔
      parameter ∉ seen ∧ ∃ stored, params.set parameter value = .ok stored ∧
        readFrom (parameter :: seen) stored rest = .ok read := by
  by_cases hseen : parameter ∈ seen
  · rw [readFrom, hname]
    dsimp only
    rw [if_pos hseen]
    exact iff_of_false (by simp) fun h ↦ h.1 hseen
  · rw [and_iff_right hseen]
    cases hset : params.set parameter value with
    | error fault =>
      rw [readFrom_cons_of_fault rest hname hseen hset]
      simp
    | ok stored =>
      rw [readFrom_cons_of_stored rest hname hseen hset]
      simp

end Entry

theorem readFrom_eq_ok_iff (seen : List Parameter) (params read : Parameters)
    (entries : List (String × String)) :
    readFrom seen params entries = .ok read ↔ Reads seen params (told entries) read := by
  induction entries generalizing seen params with
  | nil =>
    rw [readFrom, Except.ok.injEq]
    constructor
    · rintro rfl
      exact ⟨List.nodup_nil, fun p hp ↦ absurd hp List.not_mem_nil, fun p ↦ says_nil.mpr rfl⟩
    · exact fun hreads ↦ eq_of_value?_eq fun p ↦ Except.ok.inj (says_nil.mp (hreads.each p))
  | cons entry entries ih =>
    obtain ⟨name, value⟩ := entry
    cases hname : Parameter.ofName? name with
    | none => rw [readFrom_cons_of_unknown value entries hname, told_cons_of_none hname, ih]
    | some parameter =>
      rw [readFrom_cons_eq_ok_iff entries hname, told_cons_of_some hname, reads_cons_iff]
      simp only [ih]

/-- The order of the values does not matter. -/
theorem Reads.perm {seen : List Parameter} {before read : Parameters}
    {values others : List (Parameter × String)} (hperm : values.Perm others)
    (hreads : Reads seen before values read) : Reads seen before others read := by
  have hnames := names_perm hperm
  exact ⟨hnames.nodup_iff.mp hreads.nodup, fun p hp ↦ hreads.fresh p (hnames.mem_iff.mpr hp),
    fun p ↦ (says_iff_of_perm hperm).mp (hreads.each p)⟩

/-- A value among others is read iff it is the only one of its parameter, the others can be read
without it, and it is stored beside them. The term is left out: without it, nothing stands in its
place. -/
theorem readFrom_insert_iff {parameter : Parameter} (hterm : parameter ≠ .term)
    (before after : List (String × String)) (value : String) (read : Parameters) :
    readFrom [] {} (before ++ (parameter.name, value) :: after) = .ok read ↔
      parameter ∉ names (told (before ++ after)) ∧
        ∃ others, readFrom [] {} (before ++ after) = .ok others ∧
          read.Stores others parameter value := by
  have htold : (told (before ++ (parameter.name, value) :: after)).Perm
      ((parameter, value) :: told (before ++ after)) := by
    rw [told_append, told_append, told_cons_of_some (Parameter.ofName?_name parameter)]
    exact List.perm_middle
  simp only [readFrom_eq_ok_iff]
  constructor
  · intro hreads
    have hfirst := hreads.perm htold
    obtain ⟨hnew, hnodup⟩ := List.nodup_cons.mp hfirst.nodup
    refine ⟨hnew, ?_⟩
    -- the others are what is left when the value is replaced by a blank one
    have hblank : parameter.read "" = .ok none := read_of_isBlank hterm rfl
    rcases set_cases read parameter "" with ⟨others, -, hothers⟩ | ⟨fault, -, hfault⟩
    · have hnone : others.value? parameter = none :=
        (Except.ok.inj (hblank.symm.trans hothers.own)).symm
      refine ⟨others, ⟨hnodup, fun p _ ↦ List.not_mem_nil, fun p ↦ ?_⟩,
        (hfirst.each parameter).1 value List.mem_cons_self, fun p hp ↦ (hothers.others p hp).symm⟩
      by_cases hp : p = parameter
      · subst hp
        rw [says_of_not_mem hnew, hnone, value?_empty]
      · rw [hothers.others p hp]
        exact (says_cons_of_ne hp).mp (hfirst.each p)
    · cases hblank.symm.trans hfault
  · rintro ⟨hnew, others, hothers, hstores⟩
    refine Reads.perm htold.symm ⟨List.nodup_cons.mpr ⟨hnew, hothers.nodup⟩,
      fun p _ ↦ List.not_mem_nil, fun p ↦ ?_⟩
    by_cases hp : p = parameter
    · subst hp
      exact (says_cons_self hnew).mpr hstores.own
    · rw [says_cons_of_ne hp, hstores.others p hp]
      exact hothers.each p

/-! ### faults -/

/-- If no parameter is told twice, the fault is that of a value. -/
theorem exists_read_eq_error {seen : List Parameter} {params : Parameters}
    {entries : List (String × String)} {fault : Fault} (hnodup : (names (told entries)).Nodup)
    (hfresh : ∀ parameter ∈ names (told entries), parameter ∉ seen)
    (hfails : readFrom seen params entries = .error fault) :
    ∃ entry ∈ told entries, entry.1.read entry.2 = .error fault := by
  induction entries generalizing seen params with
  | nil => cases hfails
  | cons entry entries ih =>
    obtain ⟨name, value⟩ := entry
    cases hname : Parameter.ofName? name with
    | none =>
      rw [readFrom_cons_of_unknown value entries hname] at hfails
      rw [told_cons_of_none hname] at hnodup hfresh ⊢
      exact ih hnodup hfresh hfails
    | some parameter =>
      rw [told_cons_of_some hname] at hnodup hfresh ⊢
      obtain ⟨hnew, hrest⟩ := List.nodup_cons.mp hnodup
      have hseen := hfresh parameter List.mem_cons_self
      cases hset : params.set parameter value with
      | error found =>
        rw [readFrom_cons_of_fault entries hname hseen hset] at hfails
        cases hfails
        exact ⟨_, List.mem_cons_self, (set_eq_error_iff params parameter value fault).mp hset⟩
      | ok stored =>
        rw [readFrom_cons_of_stored entries hname hseen hset] at hfails
        have hothers : ∀ p ∈ names (told entries), p ∉ parameter :: seen := fun p hp ↦
          List.not_mem_cons_of_ne_of_not_mem (fun heq ↦ hnew (heq ▸ hp))
            (hfresh p (List.mem_cons_of_mem parameter hp))
        obtain ⟨found, hmem, hread⟩ := ih hrest hothers hfails
        exact ⟨found, List.mem_cons_of_mem _ hmem, hread⟩

/-- Entries are read after those in front of them. -/
theorem readFrom_append {seen : List Parameter} {params read : Parameters}
    {before : List (String × String)} (hbefore : readFrom seen params before = .ok read)
    (after : List (String × String)) :
    readFrom seen params (before ++ after) =
      readFrom ((names (told before)).reverse ++ seen) read after := by
  induction before generalizing seen params with
  | nil =>
    cases hbefore
    rfl
  | cons entry before ih =>
    obtain ⟨name, value⟩ := entry
    rw [List.cons_append]
    cases hname : Parameter.ofName? name with
    | none =>
      rw [readFrom_cons_of_unknown value before hname] at hbefore
      rw [readFrom_cons_of_unknown value _ hname, told_cons_of_none hname]
      exact ih hbefore
    | some parameter =>
      obtain ⟨hseen, stored, hset, hrest⟩ := (readFrom_cons_eq_ok_iff before hname read).mp hbefore
      rw [readFrom_cons_of_stored _ hname hseen hset, told_cons_of_some hname, names,
        List.map_cons, List.reverse_cons, List.append_assoc]
      exact ih hrest

/-- A value that cannot be read is met first if all before it can be read and its parameter is not
among them. -/
theorem readFrom_eq_error_of_first {before : List (String × String)} {params : Parameters}
    (hbefore : readFrom [] {} before = .ok params) {parameter : Parameter}
    (hnew : parameter ∉ names (told before)) {value : String} {fault : Fault}
    (hread : parameter.read value = .error fault) (after : List (String × String)) :
    readFrom [] {} (before ++ (parameter.name, value) :: after) = .error fault := by
  have hset := (set_eq_error_iff params parameter value fault).mpr hread
  rw [readFrom_append hbefore]
  exact readFrom_cons_of_fault after (Parameter.ofName?_name parameter) (by simpa using hnew) hset

end DatasetSearch.Parameters
