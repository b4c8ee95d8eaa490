import DatasetSearch.Http.Service

/-!
# The three gates of a search

A query can be unreadable, it can be readable and still be refused, and otherwise it asks for one
request. `Unreadable`, `Refuses` and `Asks` say which, in terms of the parameters that the query
holds. Each of them is one kind of `Admission`, so exactly one of them applies to a query, and a
query asks for one request only (`Asks.unique`).
-/

set_option autoImplicit false
set_option relaxedAutoImplicit false

namespace DatasetSearch.Http

def Unreadable (query : Option String) : Prop :=
  ∃ fault, Parameters.ofQuery query = .error fault

/-- Whatever the settings, the counters and the executor are, a search with the query is answered
with status 400 and the message of the fault. The executor is not asked, and no counter moves. -/
def IsTurnedDown (query : Option String) (fault : Parameters.Fault) : Prop :=
  ∀ (σ : Type) (settings : Settings.Search) (metrics : Metrics) (backend : Backend σ) (state : σ),
    (search settings metrics backend query).run state =
      (⟨.ofText 400 fault.message, none, metrics⟩, state)

theorem isTurnedDown_of_ofQuery {query : Option String} {fault : Parameters.Fault}
    (hread : Parameters.ofQuery query = .error fault) : IsTurnedDown query fault := by
  intro σ settings metrics backend state
  rw [search, Admission.ofQuery, hread]
  rfl

/-- The query can be read, but it names no term or the request is not valid. -/
def Refuses (settings : Settings.Search) (query : Option String) : Prop :=
  ∃ params, Parameters.ofQuery query = .ok params ∧
    (params.term = none ∨
      ∃ request, params.toRequest settings.defaultPageSize = .ok request ∧
        request.validate settings.limits ≠ .ok ())

/-- The query can be read, it names a term, and the request with the default page size is valid. -/
def Asks (settings : Settings.Search) (query : Option String)
    (request : DatasetSearch.Request) : Prop :=
  ∃ params, Parameters.ofQuery query = .ok params ∧ params.term.isSome ∧
    params.toRequest settings.defaultPageSize = .ok request ∧
    request.validate settings.limits = .ok ()

section Term

variable {params : Parameters} {defaultPageSize : UInt32}

/-- Only a missing term keeps parameters from being a request. -/
theorem term_eq_none {fault : DatasetSearch.Request.Fault}
    (hmade : params.toRequest defaultPageSize = .error fault) : params.term = none := by
  unfold Parameters.toRequest at hmade
  cases hterm : params.term with
  | none => rfl
  | some term =>
    rw [hterm] at hmade
    cases hmade

theorem isSome_term {request : DatasetSearch.Request}
    (hmade : params.toRequest defaultPageSize = .ok request) : params.term.isSome = true := by
  unfold Parameters.toRequest at hmade
  cases hterm : params.term with
  | none =>
    rw [hterm] at hmade
    cases hmade
  | some term => rfl

end Term

/-! ### the gates as admissions -/

section Admission

variable (settings : Settings.Search) (query : Option String)

theorem unreadable_iff :
    Unreadable query ↔ ∃ fault, Admission.ofQuery settings query = .unreadable fault := by
  unfold Unreadable Admission.ofQuery
  cases Parameters.ofQuery query with
  | error fault => simp
  | ok params =>
    dsimp only
    cases params.toRequest settings.defaultPageSize with
    | error fault => simp
    | ok request => cases hvalid : request.validate settings.limits <;> simp [hvalid]

theorem refuses_iff :
    Refuses settings query ↔ ∃ fault, Admission.ofQuery settings query = .refused fault := by
  unfold Refuses Admission.ofQuery
  cases Parameters.ofQuery query with
  | error fault => simp
  | ok params =>
    cases hmade : params.toRequest settings.defaultPageSize with
    | error fault => simp [hmade, term_eq_none hmade]
    | ok request =>
      have hterm : params.term ≠ none := Option.isSome_iff_ne_none.mp (isSome_term hmade)
      cases hvalid : request.validate settings.limits <;> simp [hmade, hterm, hvalid]

theorem asks_iff (request : DatasetSearch.Request) :
    Asks settings query request ↔ Admission.ofQuery settings query = .admitted request := by
  unfold Asks Admission.ofQuery
  cases Parameters.ofQuery query with
  | error fault => simp
  | ok params =>
    cases hmade : params.toRequest settings.defaultPageSize with
    | error fault => simp [hmade]
    | ok made =>
      simp only [Except.ok.injEq, exists_eq_left', hmade, isSome_term hmade, true_and]
      cases hvalid : made.validate settings.limits with
      | error fault =>
        refine iff_of_false ?_ (by simp)
        rintro ⟨rfl, haccepted⟩
        rw [hvalid] at haccepted
        cases haccepted
      | ok done =>
        rw [Admission.admitted.injEq]
        constructor
        · exact fun hasks ↦ hasks.1
        · rintro rfl
          exact ⟨rfl, hvalid⟩

end Admission

variable {settings : Settings.Search} {query : Option String}

theorem Asks.unique {first second : DatasetSearch.Request} (hfirst : Asks settings query first)
    (hsecond : Asks settings query second) : first = second := by
  rw [asks_iff] at hfirst hsecond
  rw [hfirst] at hsecond
  exact Admission.admitted.inj hsecond

theorem Asks.not_refuses {request : DatasetSearch.Request} (hasks : Asks settings query request) :
    ¬ Refuses settings query := by
  rw [refuses_iff, (asks_iff settings query request).mp hasks]
  simp

theorem Asks.not_unreadable {request : DatasetSearch.Request}
    (hasks : Asks settings query request) : ¬ Unreadable query := by
  rw [unreadable_iff settings, (asks_iff settings query request).mp hasks]
  simp

theorem Refuses.not_unreadable (hrefuses : Refuses settings query) : ¬ Unreadable query := by
  obtain ⟨fault, hfault⟩ := (refuses_iff settings query).mp hrefuses
  rw [unreadable_iff settings, hfault]
  simp

instance (query : Option String) : Decidable (Unreadable query) :=
  match hread : Parameters.ofQuery query with
  | .error fault => isTrue ⟨fault, hread⟩
  | .ok _ => isFalse fun ⟨fault, hfault⟩ ↦ by
    rw [hread] at hfault
    cases hfault

instance (settings : Settings.Search) (query : Option String) :
    Decidable (Refuses settings query) :=
  match hgate : Admission.ofQuery settings query with
  | .unreadable fault =>
    isFalse fun h ↦ h.not_unreadable ((unreadable_iff settings query).mpr ⟨fault, hgate⟩)
  | .refused fault => isTrue ((refuses_iff settings query).mpr ⟨fault, hgate⟩)
  | .admitted request => isFalse ((asks_iff settings query request).mpr hgate).not_refuses

end DatasetSearch.Http
