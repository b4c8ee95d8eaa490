import DatasetSearch.Checks
import DatasetSearch.Settings.Load

/-!
# One settings file

Of the candidate paths the first that leads anywhere is taken, and what stands there decides: a file
that can be read gives the settings to start from, and everything else is a fault. `Starts` says so
without a search, and `start_eq_iff` ties it to the search. Two surroundings whose first existing
candidate is the same path with the same content therefore start alike (`start_eq_of_isFirst`),
whatever else they hold.

The environment has a say twice, in the candidates and in the overrides. An explicit path that leads
nowhere is passed over, and no override is named like its variable, so that the variable may as well
be unset (`load_without_path`). `load_decided` puts this together.
-/

set_option autoImplicit false
set_option relaxedAutoImplicit false

namespace DatasetSearch

/-- What there is to read in a place: nothing in a directory. -/
def FileTree.content? : FileTree → Option (List UInt8)
  | file content => some content
  | directory _ => none

namespace Settings

/-! ### the first candidate -/

namespace Surroundings

/-- A candidate leads to a place, and those before it lead nowhere. -/
def IsFirst (surroundings : Surroundings) (path : String) (place : FileTree) : Prop :=
  ∃ before after, surroundings.candidates = before ++ path :: after ∧
    surroundings.find? path = some place ∧
    ∀ earlier ∈ before, surroundings.find? earlier = none

def HasNoFile (surroundings : Surroundings) : Prop :=
  ∀ path ∈ surroundings.candidates, surroundings.find? path = none

theorem hasNoFile_or_isFirst (surroundings : Surroundings) :
    surroundings.HasNoFile ∨ ∃ path place, surroundings.IsFirst path place := by
  cases hsearch : surroundings.candidates.findSome? surroundings.find? with
  | none => exact .inl (List.findSome?_eq_none_iff.mp hsearch)
  | some place =>
    obtain ⟨before, path, after, hfirst⟩ := List.findSome?_eq_some_iff.mp hsearch
    exact .inr ⟨path, place, before, after, hfirst⟩

end Surroundings

variable {surroundings other : Surroundings}

theorem start_of_hasNoFile (hnone : surroundings.HasNoFile) : start surroundings = .ok {} := by
  rw [start, List.findSome?_eq_none_iff.mpr hnone]

theorem start_of_isFirst {path : String} {place : FileTree}
    (hfirst : surroundings.IsFirst path place) : start surroundings = ofFile place := by
  obtain ⟨before, after, hplace⟩ := hfirst
  rw [start, List.findSome?_eq_some_iff.mpr ⟨before, path, after, hplace⟩]

theorem ofFile_congr {place otherPlace : FileTree}
    (hcontent : place.content? = otherPlace.content?) : ofFile place = ofFile otherPlace := by
  cases place with
  | file content =>
    cases otherPlace with
    | file otherContent => rw [Option.some.inj hcontent]
    | directory entries => cases hcontent
  | directory entries =>
    cases otherPlace with
    | file otherContent => cases hcontent
    | directory otherEntries => rfl

/-- The same content at the first path that leads anywhere makes the same start. -/
theorem start_eq_of_isFirst {path : String} {place otherPlace : FileTree}
    (hfirst : surroundings.IsFirst path place) (hother : other.IsFirst path otherPlace)
    (hcontent : place.content? = otherPlace.content?) : start surroundings = start other := by
  rw [start_of_isFirst hfirst, start_of_isFirst hother, ofFile_congr hcontent]

/-! ### where settings start -/

/-- What settings start from: the defaults if no candidate leads anywhere, and else what is read at
the first that does. -/
inductive Starts (surroundings : Surroundings) : Except LoadFault Settings → Prop where
  | defaults (hnone : surroundings.HasNoFile) : Starts surroundings (.ok {})
  | file (path : String) (content : List UInt8) (text : List Char) (settings : Settings)
    (hfirst : surroundings.IsFirst path (.file content))
    (htext : Text.Utf8.decode? content = some text)
    (hyaml : ofYaml? (String.ofList text) = some settings) : Starts surroundings (.ok settings)
  | isDirectory (path : String) (entries : List (String × FileTree))
    (hfirst : surroundings.IsFirst path (.directory entries)) :
    Starts surroundings (.error .isDirectory)
  | notText (path : String) (content : List UInt8)
    (hfirst : surroundings.IsFirst path (.file content))
    (htext : Text.Utf8.decode? content = none) : Starts surroundings (.error .notText)
  | notYaml (path : String) (content : List UInt8) (text : List Char)
    (hfirst : surroundings.IsFirst path (.file content))
    (htext : Text.Utf8.decode? content = some text)
    (hyaml : ofYaml? (String.ofList text) = none) : Starts surroundings (.error .notYaml)

theorem starts_start (surroundings : Surroundings) : Starts surroundings (start surroundings) := by
  rcases surroundings.hasNoFile_or_isFirst with hnone | ⟨path, place, hfirst⟩
  · rw [start_of_hasNoFile hnone]
    exact .defaults hnone
  · rw [start_of_isFirst hfirst]
    cases place with
    | directory entries => exact .isDirectory path entries hfirst
    | file content =>
      rw [ofFile, ofBytes]
      cases htext : Text.Utf8.decode? content with
      | none => exact .notText path content hfirst htext
      | some text =>
        dsimp only
        cases hyaml : ofYaml? (String.ofList text) with
        | none => exact .notYaml path content text hfirst htext hyaml
        | some settings => exact .file path content text settings hfirst htext hyaml

theorem start_eq_iff (surroundings : Surroundings) (result : Except LoadFault Settings) :
    start surroundings = result ↔ Starts surroundings result := by
  constructor
  · rintro rfl
    exact starts_start surroundings
  · intro hstarts
    cases hstarts with
    | defaults hnone => exact start_of_hasNoFile hnone
    | file path content text settings hfirst htext hyaml =>
      rw [start_of_isFirst hfirst, ofFile, ofBytes, htext]
      dsimp only
      rw [hyaml]
    | isDirectory path entries hfirst => rw [start_of_isFirst hfirst, ofFile]
    | notText path content hfirst htext => rw [start_of_isFirst hfirst, ofFile, ofBytes, htext]
    | notYaml path content text hfirst htext hyaml =>
      rw [start_of_isFirst hfirst, ofFile, ofBytes, htext]
      dsimp only
      rw [hyaml]

/-! ### the environment -/

theorem merge_congr {lookup otherLookup : String → Option String}
    (hsame : ∀ override : Override, lookup override.name = otherLookup override.name)
    (settings : Settings) : settings.merge lookup = settings.merge otherLookup := by
  have hone : mergeOne lookup = mergeOne otherLookup := by
    funext base override
    rw [mergeOne, mergeOne, hsame override]
  rw [merge, merge, hone]

namespace Surroundings

variable (surroundings : Surroundings)

/-- The environment's value for an override. -/
def overrides (name : String) : Option String :=
  surroundings.lookup (environmentStart ++ name)

/-- The same surroundings with one variable less. -/
def unset (name : String) : Surroundings :=
  { surroundings with
    lookup := fun other ↦ if other = name then none else surroundings.lookup other }

theorem lookup_unset_self (name : String) : (surroundings.unset name).lookup name = none := by
  simp only [unset, if_true]

theorem lookup_unset_of_ne {name other : String} (hne : other ≠ name) :
    (surroundings.unset name).lookup other = surroundings.lookup other :=
  if_neg hne

theorem overrides_unset_pathVariable (override : Override) :
    (surroundings.unset pathVariable).overrides override.name =
      surroundings.overrides override.name := by
  have hne : environmentStart ++ override.name ≠ pathVariable := by
    cases override <;> decide
  exact surroundings.lookup_unset_of_ne hne

theorem candidates_unset_pathVariable :
    (surroundings.unset pathVariable).candidates =
      defaultPaths surroundings.lookup surroundings.accountHome := by
  have hpath : (surroundings.unset pathVariable).lookup pathVariable = none :=
    surroundings.lookup_unset_self pathVariable
  have hconfig : (surroundings.unset pathVariable).lookup "XDG_CONFIG_HOME" =
      surroundings.lookup "XDG_CONFIG_HOME" := surroundings.lookup_unset_of_ne (by decide)
  have hhome : (surroundings.unset pathVariable).lookup "HOME" = surroundings.lookup "HOME" :=
    surroundings.lookup_unset_of_ne (by decide)
  rw [candidates, hpath, defaultPaths, configDirectory?, hconfig, hhome]
  rfl

end Surroundings

/-! ### loading -/

theorem load_eq (surroundings : Surroundings) :
    load surroundings = (start surroundings).bind fun base ↦
      match (base.merge surroundings.overrides).validate with
      | .ok () => .ok (base.merge surroundings.overrides)
      | .error fault => .error (.invalid fault) :=
  rfl

/-- What passes the checks is handed on as it is. -/
theorem checked_eq_ok_iff (merged settings : Settings) :
    (match merged.validate with
      | .ok () => .ok merged
      | .error fault => .error (.invalid fault) : Except LoadFault Settings) = .ok settings ↔
      settings = merged ∧ settings.validate = .ok () := by
  constructor
  · intro hloaded
    cases hvalid : merged.validate with
    | error fault => rw [hvalid] at hloaded; cases hloaded
    | ok done =>
      rw [hvalid] at hloaded
      cases hloaded
      exact ⟨rfl, hvalid⟩
  · rintro ⟨rfl, hvalid⟩
    rw [hvalid]

theorem load_eq_ok_iff (surroundings : Surroundings) (settings : Settings) :
    load surroundings = .ok settings ↔
      ∃ base, Starts surroundings (.ok base) ∧ settings = base.merge surroundings.overrides ∧
        settings.validate = .ok () := by
  refine (bind_eq_ok_iff (start surroundings) _ settings).trans (exists_congr fun base ↦ ?_)
  rw [start_eq_iff]
  exact and_congr_right fun _ ↦ checked_eq_ok_iff (base.merge surroundings.overrides) settings

theorem load_of_starts_error {fault : LoadFault} (hstarts : Starts surroundings (.error fault)) :
    load surroundings = .error fault := by
  rw [load_eq, (start_eq_iff _ _).mpr hstarts]
  rfl

/-- Loading depends on the start and on what overrides it. -/
theorem load_congr (hstart : start surroundings = start other)
    (hoverrides : ∀ override : Override,
      surroundings.overrides override.name = other.overrides override.name) :
    load surroundings = load other := by
  have hmerge (base : Settings) : base.merge surroundings.overrides = base.merge other.overrides :=
    merge_congr hoverrides base
  simp only [load_eq, hstart, hmerge]

/-- An explicit path that leads nowhere counts as none. -/
theorem load_without_path {path : String} (hpath : surroundings.lookup pathVariable = some path)
    (hnowhere : surroundings.find? path = none) :
    load surroundings = load (surroundings.unset pathVariable) := by
  refine load_congr ?_ fun override ↦ (surroundings.overrides_unset_pathVariable override).symm
  have hcandidates : surroundings.candidates =
      path :: (surroundings.unset pathVariable).candidates := by
    rw [surroundings.candidates_unset_pathVariable, Surroundings.candidates, hpath]
    rfl
  have hfind : (surroundings.unset pathVariable).find? = surroundings.find? := rfl
  rw [start, start, hfind, hcandidates, List.findSome?_cons, hnowhere]

/-- One settings file decides. -/
theorem load_decided (surroundings : Surroundings) :
    surroundings.candidates =
      (surroundings.lookup "CATALOG_SEARCH_SETTINGS_PATH").toList ++
        ["settings.yml", "config/settings.yml"] ++
        ((configDirectory? surroundings.lookup surroundings.accountHome).map
          (FileTree.join · "catalog-search/settings.yml")).toList ∧
    (∀ result, start surroundings = result ↔ Starts surroundings result) ∧
    (∀ fault, Starts surroundings (.error fault) → load surroundings = .error fault) ∧
    (∀ settings, load surroundings = .ok settings ↔
      ∃ base, Starts surroundings (.ok base) ∧ settings = base.merge surroundings.overrides ∧
        settings.validate = .ok ()) ∧
    (∀ (other : Surroundings) (path : String) (place otherPlace : FileTree),
      surroundings.lookup = other.lookup → surroundings.IsFirst path place →
      other.IsFirst path otherPlace → place.content? = otherPlace.content? →
      load surroundings = load other) ∧
    ∀ path, surroundings.lookup pathVariable = some path → surroundings.find? path = none →
      load surroundings = load (surroundings.unset pathVariable) := by
  refine ⟨?candidates, start_eq_iff surroundings, fun _ ↦ load_of_starts_error,
    load_eq_ok_iff surroundings, ?content, fun _ ↦ load_without_path⟩
  case candidates =>
    rw [Surroundings.candidates, defaultPaths, List.append_assoc]
    rfl
  case content =>
    intro other path place otherPlace hlookup hfirst hother hcontent
    refine load_congr (start_eq_of_isFirst hfirst hother hcontent) fun override ↦ ?_
    rw [Surroundings.overrides, Surroundings.overrides, hlookup]

/-- A settings file in the working directory, something beside it under the next candidate, and an
explicit path that leads nowhere. -/
def Surroundings.mistyped (beside : FileTree) : Surroundings where
  lookup name :=
    if name = pathVariable then some "setings.yml"
    else if name = "CATALOG_SEARCH_DATABASE" then some "archive"
    else none
  files := .directory [
    ("settings.yml", .file (Text.Utf8.encode
      "database:\n  connection_string: mongodb://localhost\n".toList)),
    ("config", .directory [("settings.yml", beside)])]
  workingDirectory := []

theorem Surroundings.mistyped_isFirst (beside : FileTree) :
    (mistyped beside).IsFirst "settings.yml" (.file (Text.Utf8.encode
      "database:\n  connection_string: mongodb://localhost\n".toList)) := by
  refine ⟨["setings.yml"], ["config/settings.yml"], rfl, rfl, ?_⟩
  intro earlier hearlier
  cases List.mem_singleton.mp hearlier
  rfl

theorem load_decided_mistyped :
    load (.mistyped (.directory [])) = load (.mistyped (.file [])) ∧
      load (.mistyped (.file [])) = load ((Surroundings.mistyped (.file [])).unset pathVariable) ∧
      load (.mistyped (.file [])) = .ok { database :=
        { connectionString := "mongodb://localhost", databaseName := "archive" } } := by
  obtain ⟨-, -, -, hok, -, hpath⟩ := load_decided (.mistyped (.file []))
  obtain ⟨-, -, -, -, hcontent, -⟩ := load_decided (.mistyped (.directory []))
  have hstarts : Starts (.mistyped (.file []))
      (.ok { database := { connectionString := "mongodb://localhost" } }) :=
    .file "settings.yml" _ "database:\n  connection_string: mongodb://localhost\n".toList _
      (Surroundings.mistyped_isFirst _) (by decide +kernel) (by decide +kernel)
  refine ⟨?later, ?path, ?loaded⟩
  case later =>
    exact hcontent (.mistyped (.file [])) "settings.yml" _ _ rfl (Surroundings.mistyped_isFirst _)
      (Surroundings.mistyped_isFirst _) rfl
  case path => exact hpath "setings.yml" rfl rfl
  case loaded => exact (hok _).mpr ⟨_, hstarts, by decide +kernel, rfl⟩

end Settings

end DatasetSearch
