import DatasetSearch.Proofs.Http.Admission
import DatasetSearch.Proofs.Request.Acceptance
import DatasetSearch.Proofs.Request.PageSize
import DatasetSearch.Settings.Overrides

/-!
# The default page

Settings are accepted only with a default page size that requests are accepted with, and no override
touches either of the two sizes (`merge_search`). A query that leaves its page size out is therefore
never refused for it (`not_isPageSize_of_refused`), and it fares like the query that tells the
default (`admission_of_tells`). `defaultPage_agrees` puts this together, whatever overrides come
after the settings have been accepted.
-/

set_option autoImplicit false
set_option relaxedAutoImplicit false

namespace DatasetSearch

/-! ### the two sizes in settings -/

namespace Settings

/-- The default page size is one that requests may ask for. -/
structure Search.AllowsDefault (search : Search) : Prop where
  ne_zero : search.defaultPageSize ≠ 0
  le_limit : search.defaultPageSize ≤ search.limits.maxPageSize

theorem allowsDefault_of_validate {settings : Settings} (hvalid : settings.validate = .ok ()) :
    settings.search.AllowsDefault := by
  have haccepted := (validate_eq_ok_iff settings).mp hvalid
  exact ⟨haccepted.defaultPageSize, haccepted.defaultPageSize_le⟩

theorem mergeOne_search (lookup : String → Option String) (settings : Settings)
    (override : Override) : (mergeOne lookup settings override).search = settings.search := by
  rw [mergeOne]
  cases lookup override.name with
  | none => rfl
  | some value => cases override <;> rfl

theorem merge_search (lookup : String → Option String) (settings : Settings) :
    (settings.merge lookup).search = settings.search := by
  rw [merge]
  induction Override.all generalizing settings with
  | nil => rfl
  | cons override overrides ih => rw [List.foldl_cons, ih, mergeOne_search]

/-- Several sets of overrides, one after the other. -/
def mergeAll (lookups : List (String → Option String)) (settings : Settings) : Settings :=
  lookups.foldl (fun merged lookup ↦ merged.merge lookup) settings

theorem mergeAll_search (lookups : List (String → Option String)) (settings : Settings) :
    (settings.mergeAll lookups).search = settings.search := by
  induction lookups generalizing settings with
  | nil => rfl
  | cons lookup lookups ih => rw [mergeAll, List.foldl_cons, ← mergeAll, ih, merge_search]

end Settings

/-! ### a query without a page size -/

/-- What parameters are made into, as far as the page size goes. -/
theorem Parameters.toRequest_cases (params : Parameters) (defaultPageSize : UInt32) :
    params.toRequest defaultPageSize = .error .emptyTerm ∨
      ∃ request, params.toRequest defaultPageSize = .ok request ∧
        request.pageSize = params.pageSize.getD defaultPageSize := by
  rw [toRequest]
  cases params.term with
  | none => exact Or.inl rfl
  | some term => exact Or.inr ⟨_, rfl, rfl⟩

namespace Http

section Query

variable {search : Settings.Search} {query told : Option String} {params : Parameters}

theorem admission_of_tells (hread : Parameters.ofQuery query = .ok params)
    (hleaves : Parameters.LeavesPageSize query)
    (htells : Parameters.Tells search.defaultPageSize query told) :
    Admission.ofQuery search told = Admission.ofQuery search query := by
  obtain ⟨hnone, htold⟩ := Parameters.ofQuery_of_tells hleaves hread htells
  rw [Admission.ofQuery, Admission.ofQuery, hread, htold]
  dsimp only
  rw [Parameters.toRequest_withPageSize hnone]

variable (hread : Parameters.ofQuery query = .ok params) (hnone : params.pageSize = none)

include hread hnone

theorem not_isPageSize_of_refused (hallows : search.AllowsDefault)
    {fault : DatasetSearch.Request.Fault}
    (hrefused : Admission.ofQuery search query = .refused fault) : ¬ fault.IsPageSize := by
  intro hfault
  rw [Admission.ofQuery, hread] at hrefused
  dsimp only at hrefused
  rcases params.toRequest_cases search.defaultPageSize with hterm | ⟨request, hmade, hsize⟩
  · rw [hterm] at hrefused
    cases hrefused
    exact hfault
  · rw [hmade] at hrefused
    dsimp only at hrefused
    rw [hnone, Option.getD_none] at hsize
    cases hvalid : request.validate search.limits with
    | ok done => rw [hvalid] at hrefused; cases hrefused
    | error found =>
      rw [hvalid] at hrefused
      cases hrefused
      rcases DatasetSearch.Request.pageSize_of_validate_eq_error hfault hvalid with hzero | hlimit
      · exact hallows.ne_zero (hsize ▸ hzero)
      · exact hlimit (hsize ▸ hallows.le_limit)

theorem pageSize_of_admitted {request : DatasetSearch.Request}
    (hadmitted : Admission.ofQuery search query = .admitted request) :
    request.pageSize = search.defaultPageSize := by
  obtain ⟨read, hsame, -, hmade, -⟩ := (asks_iff search query request).mpr hadmitted
  obtain rfl : params = read := Except.ok.inj (hread.symm.trans hsame)
  rcases params.toRequest_cases search.defaultPageSize with hterm | ⟨made, hfound, hsize⟩
  · cases hterm.symm.trans hmade
  · obtain rfl : made = request := Except.ok.inj (hfound.symm.trans hmade)
    rw [hsize, hnone, Option.getD_none]

end Query

/-- Accepted settings and the checks of requests agree on the default page. -/
theorem defaultPage_agrees (settings : Settings) (hvalid : settings.validate = .ok ())
    (lookups : List (String → Option String)) (query : Option String) (params : Parameters)
    (hread : Parameters.ofQuery query = .ok params) (hleaves : Parameters.LeavesPageSize query) :
    Admission.ofQuery (settings.mergeAll lookups).search query ≠
        .refused (.notPositive "pageSize") ∧
      (∀ size limit, Admission.ofQuery (settings.mergeAll lookups).search query ≠
        .refused (.pageSizeTooLarge size limit)) ∧
      (∃ told, Parameters.Tells settings.search.defaultPageSize query (some told)) ∧
      (∀ told, Parameters.Tells settings.search.defaultPageSize query told →
        Admission.ofQuery (settings.mergeAll lookups).search told =
          Admission.ofQuery (settings.mergeAll lookups).search query) ∧
      ∀ request, Admission.ofQuery (settings.mergeAll lookups).search query = .admitted request →
        ∀ count, .limit count ∈ (Plan.ofRequest request).stages ↔
          count = settings.search.defaultPageSize := by
  rw [Settings.mergeAll_search]
  have hallows := Settings.allowsDefault_of_validate hvalid
  have hexists := Parameters.tells_tell settings.search.defaultPageSize query
  have hnone := (Parameters.ofQuery_of_tells hleaves hread hexists).1
  refine ⟨fun hrefused ↦ ?_, fun size limit hrefused ↦ ?_, ⟨_, hexists⟩,
    fun told htells ↦ admission_of_tells hread hleaves htells, fun request hadmitted count ↦ ?_⟩
  · exact not_isPageSize_of_refused hread hnone hallows hrefused rfl
  · exact not_isPageSize_of_refused hread hnone hallows hrefused trivial
  · rw [Plan.limit_mem_iff, pageSize_of_admitted hread hnone hadmitted]

theorem defaultPage_agrees_blank :
    let settings : Settings :=
      { database := { connectionString := "mongodb://localhost" }
        search := { defaultPageSize := 25, maxPageSize := 50 } }
    let overridden := (settings.mergeAll [fun name ↦ some name]).search
    let query := "pageSize=+&term=ice"
    let told := "term=ice&pageSize=25"
    Admission.ofQuery overridden (some told) = Admission.ofQuery overridden (some query) ∧
      ∃ request, Admission.ofQuery overridden (some query) = .admitted request ∧
        .limit 25 ∈ (Plan.ofRequest request).stages := by
  intro settings overridden query told
  have hleaves : Parameters.LeavesPageSize (some query) := by
    unfold Parameters.LeavesPageSize
    decide +kernel
  have htells : Parameters.Tells 25 (some query) (some told) :=
    ⟨by decide +kernel, by decide +kernel⟩
  have hentries : Parameters.entries (some query) = [("pageSize", " "), ("term", "ice")] := by
    decide +kernel
  have hread : Parameters.ofQuery (some query) = .ok { term := some "ice" } := by
    rw [Parameters.ofQuery, ← Parameters.entries, hentries]
    rfl
  have hvalid : settings.validate = .ok () :=
    (Settings.validate_eq_ok_iff settings).mpr
      ⟨by decide, by decide, by decide, by decide, by decide, by decide, by decide⟩
  have hadmitted : Admission.ofQuery overridden (some query) =
      .admitted { term := "ice", pageSize := 25 } := by
    decide +kernel
  obtain ⟨-, -, -, hsame, hlimit⟩ := defaultPage_agrees settings hvalid [fun name ↦ some name]
    (some query) _ hread hleaves
  exact ⟨hsame _ htells, _, hadmitted, (hlimit _ hadmitted 25).mpr rfl⟩

end Http

end DatasetSearch
