import DatasetSearch.Proofs.Http.Admission
import DatasetSearch.Proofs.Request.QueryEdits

/-!
# Queries that come to the same

A query comes to a request, to a missing term, or to nothing, and then it is turned down
(`outcome_cases`). Edited queries come to the same, but for the message where several values are
faulty. What every edit leaves alone is that no known name comes twice: a query with one that does
is turned down, whatever the values are.
-/

set_option autoImplicit false
set_option relaxedAutoImplicit false

namespace DatasetSearch.Http

open Text Parameters

/-- What becomes of a query before the request is checked: the request or the missing term, and
`none` if it cannot be read. -/
def outcome (defaultPageSize : UInt32) (query : Option String) :
    Option (Except DatasetSearch.Request.Fault DatasetSearch.Request) :=
  (ofQuery query).toOption.map (·.toRequest defaultPageSize)

theorem outcome_cases (defaultPageSize : UInt32) (query : Option String) :
    (∃ request, outcome defaultPageSize query = some (.ok request)) ∨
      outcome defaultPageSize query = some (.error .emptyTerm) ∨
      (outcome defaultPageSize query = none ∧ ∃ fault, IsTurnedDown query fault) := by
  rw [outcome]
  cases hread : ofQuery query with
  | error fault => exact Or.inr (Or.inr ⟨rfl, fault, isTurnedDown_of_ofQuery hread⟩)
  | ok params =>
    cases hmade : params.toRequest defaultPageSize with
    | ok request => exact Or.inl ⟨request, congrArg some hmade⟩
    | error fault =>
      have hfault : params.toRequest defaultPageSize = .error .emptyTerm := by
        rw [toRequest, term_eq_none hmade]
      exact Or.inr (Or.inl (congrArg some hfault))

theorem outcome_eq_of_ok_iff {query edited : Option String}
    (hread : ∀ params, ofQuery edited = .ok params ↔ ofQuery query = .ok params)
    (defaultPageSize : UInt32) :
    outcome defaultPageSize edited = outcome defaultPageSize query := by
  rw [outcome, outcome]
  cases hquery : ofQuery query with
  | ok params => rw [(hread params).mpr hquery]
  | error fault =>
    cases hedited : ofQuery edited with
    | ok params => cases hquery.symm.trans ((hread params).mp hedited)
    | error found => rfl

/-- Edited queries come to the same, and no query may repeat a known name. -/
theorem queryForms_agree (query : Option String) :
    (NamesOnce query → ∀ others, Relation.ReflTransGen Edit (pieces query) others →
      (∀ piece ∈ others, '&' ∉ piece) →
        (∀ defaultPageSize, outcome defaultPageSize (some (joined others)) =
          outcome defaultPageSize query) ∧
        (¬ HasSeveralFaults query → ofQuery (some (joined others)) = ofQuery query)) ∧
    (∀ defaultPageSize, (∃ request, outcome defaultPageSize query = some (.ok request)) ∨
      outcome defaultPageSize query = some (.error .emptyTerm) ∨
      (outcome defaultPageSize query = none ∧ ∃ fault, IsTurnedDown query fault)) ∧
    (¬ NamesOnce query → ∃ fault, IsTurnedDown query fault) := by
  refine ⟨fun hnames others hedits hothers ↦ ?_, fun d ↦ outcome_cases d query, fun hrepeats ↦ ?_⟩
  · have hsame : SameReading (told (entries query)) (told (entries (some (joined others)))) := by
      rw [told_entries query, told_joined hothers]
      exact sameReading_of_edits hedits
    exact ⟨outcome_eq_of_ok_iff (ofQuery_eq_ok_iff_of_sameReading hsame hnames),
      ofQuery_eq_of_sameReading hsame hnames⟩
  · cases hread : ofQuery query with
    | ok params => exact absurd ((ofQuery_eq_ok_iff query params).mp hread).1 hrepeats
    | error fault => exact ⟨fault, isTurnedDown_of_ofQuery hread⟩

/-- One edit of each kind. A term that is told twice is one too many, though it is blank. -/
theorem queryForms_agree_oneOfEach :
    outcome 10 (some "&pageSize=+5%E3%80%80&term=ice") =
        outcome 10 (some "term=ice&pageSize=5&publishedStart=&color=red") ∧
      ∃ fault, IsTurnedDown (some "term=ice&term=") fault := by
  constructor
  · let term := "term=ice".toList
    let size := "pageSize=5".toList
    let padded := "pageSize=+5%E3%80%80".toList
    let blank := "publishedStart=".toList
    let unknown := "color=red".toList
    have hpieces : pieces (some "term=ice&pageSize=5&publishedStart=&color=red") =
        [term, size, blank, unknown] := by
      decide +kernel
    have hunknown : entryOf unknown = ("color", "red") := by decide +kernel
    have hblank : entryOf blank = ("publishedStart", "") := by decide +kernel
    have hsize : entryOf size = ("pageSize", "5") := by decide +kernel
    have hpadded : entryOf padded = ("pageSize", " 5\u3000") := by decide +kernel
    have hidle : IsIdle unknown := by
      refine Or.inr fun parameter ↦ ?_
      rw [hunknown]
      cases parameter <;> decide
    have hdelete : Edit [term, size, blank] [term, size] :=
      .deleteBlank [term, size] [] (by rw [hblank]; decide) (by rw [hblank]; rfl)
    have hpad : Edit [term, size] [term, padded] := by
      refine .pad [term] [] (by rw [hsize]; decide) (by rw [hsize, hpadded]) ?_
      rw [hsize, hpadded]
      exact ⟨[' '], ['\u3000'], List.forall_mem_singleton.mpr rfl, List.forall_mem_singleton.mpr rfl,
        by decide⟩
    have hedits : Relation.ReflTransGen Edit [term, size, blank, unknown] [[], padded, term] :=
      .head (.deleteIdle [term, size, blank] [] hidle) <| .head hdelete <| .head hpad <|
        .head (.permute (.swap padded term [])) <|
          .single (.insertIdle [] [padded, term] (Or.inl rfl))
    have hnames : NamesOnce (some "term=ice&pageSize=5&publishedStart=&color=red") := by
      unfold NamesOnce
      decide +kernel
    have hagree := (queryForms_agree _).1 hnames _ (hpieces ▸ hedits) (by decide)
    exact hagree.1 10
  · refine (queryForms_agree (some "term=ice&term=")).2.2 ?_
    unfold NamesOnce
    decide +kernel

end DatasetSearch.Http
