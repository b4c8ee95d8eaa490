import DatasetSearch.Executor.Database
import Mathlib.Data.List.Forall2

/-!
# Draining a cursor

An event of a cursor either yields a record, if it is a document that can be read, or it fails with
an error: `Yields` and `Fails` say so, and no event does both or neither (`yields_or_fails`). One
step of the draining follows the first event (`drain_of_yields`, `drain_of_fails`), and a whole run
follows by induction on the events. It succeeds with the records that all of them yield
(`drain_eq_ok_iff`), or it fails with the error of the first one that fails (`drain_eq_error_iff`).

`execute_all_or_nothing` adds the call that opens the cursor. What comes after the first failure
may be cut off without a trace.
-/

set_option autoImplicit false
set_option relaxedAutoImplicit false

namespace DatasetSearch.Executor

/-! ### one event -/

/-- The record that a document stands for, read from its relaxed JSON form. -/
inductive Yields : Event → Record → Prop where
  | document {fields : Pipeline.Document} {record : Record}
      (hread : Record.ofDocument (Bson.document fields).relaxed = .ok record) :
    Yields (.document fields) record

/-- The error that an event is reported as: the class of a failure of the connection, or the
reason why a document is no record. -/
inductive Fails : Event → Error → Prop where
  | failure (failure : Failure) : Fails (.failure failure) (classify failure)
  | document {fields : Pipeline.Document} {fault : Record.Fault}
      (hread : Record.ofDocument (Bson.document fields).relaxed = .error fault) :
    Fails (.document fields) (.decode fault.message)

theorem yields_or_fails (event : Event) :
    (∃ record, Yields event record) ∨ ∃ error, Fails event error := by
  cases event with
  | failure failure => exact Or.inr ⟨_, .failure failure⟩
  | document fields =>
    cases hread : Record.ofDocument (Bson.document fields).relaxed with
    | ok record => exact Or.inl ⟨record, .document hread⟩
    | error fault => exact Or.inr ⟨_, .document hread⟩

/-! ### one step -/

theorem drain_of_yields {event : Event} {record : Record} (hyields : Yields event record)
    (rest : List Event) : drain (event :: rest) = (drain rest).map (record :: ·) := by
  obtain ⟨hread⟩ := hyields
  rw [drain, decodeRecord, hread]
  cases drain rest <;> rfl

theorem drain_of_fails {event : Event} {error : Error} (hfails : Fails event error)
    (rest : List Event) : drain (event :: rest) = .error error := by
  obtain failure | hread := hfails
  · rfl
  · rw [drain, decodeRecord, hread]
    rfl

/-! ### a whole cursor -/

theorem drain_eq_ok_iff (events : List Event) (records : List Record) :
    drain events = .ok records ↔ List.Forall₂ Yields events records := by
  induction events generalizing records with
  | nil => simp [drain, eq_comm]
  | cons event rest ih =>
    constructor
    · intro hdrain
      obtain ⟨record, hyields⟩ | ⟨error, hfails⟩ := yields_or_fails event
      · rw [drain_of_yields hyields] at hdrain
        cases hrest : drain rest with
        | error error => simp [hrest, Except.map] at hdrain
        | ok others =>
          rw [hrest, Except.map, Except.ok.injEq] at hdrain
          rw [← hdrain]
          exact .cons hyields ((ih others).mp hrest)
      · rw [drain_of_fails hfails] at hdrain
        cases hdrain
    · intro hall
      obtain ⟨record, others, hyields, hrest, rfl⟩ := List.forall₂_cons_left_iff.mp hall
      rw [drain_of_yields hyields, (ih others).mpr hrest, Except.map]

/-- Events that yield a record each are drained, whatever records these are. -/
theorem exists_drain_eq_ok_iff (events : List Event) :
    (∃ records, drain events = .ok records) ↔ ∀ event ∈ events, ∃ record, Yields event record := by
  simp only [drain_eq_ok_iff]
  constructor
  · rintro ⟨records, hall⟩ event hevent
    induction hall with
    | nil => cases hevent
    | cons hyields _ ih =>
      obtain rfl | hevent := List.mem_cons.mp hevent
      · exact ⟨_, hyields⟩
      · exact ih hevent
  · intro hall
    induction events with
    | nil => exact ⟨[], .nil⟩
    | cons event rest ih =>
      obtain ⟨record, hyields⟩ := hall event List.mem_cons_self
      obtain ⟨records, hrest⟩ := ih fun other h ↦ hall other (List.mem_cons_of_mem _ h)
      exact ⟨record :: records, .cons hyields hrest⟩

/-- The first event that fails decides the error, whatever comes after it. -/
theorem drain_append_of_fails {before : List Event}
    (hbefore : ∀ event ∈ before, ∃ record, Yields event record) {event : Event} {error : Error}
    (hfails : Fails event error) (after : List Event) :
    drain (before ++ event :: after) = .error error := by
  induction before with
  | nil => exact drain_of_fails hfails after
  | cons first before ih =>
    obtain ⟨record, hyields⟩ := hbefore first List.mem_cons_self
    have hrest := ih fun other h ↦ hbefore other (List.mem_cons_of_mem _ h)
    rw [List.cons_append, drain_of_yields hyields, hrest, Except.map]

theorem drain_eq_error_iff (events : List Event) (error : Error) :
    drain events = .error error ↔
      ∃ before event after, events = before ++ event :: after ∧
        (∀ earlier ∈ before, ∃ record, Yields earlier record) ∧ Fails event error := by
  constructor
  · intro hdrain
    induction events with
    | nil => cases hdrain
    | cons event rest ih =>
      obtain ⟨record, hyields⟩ | ⟨found, hfails⟩ := yields_or_fails event
      · have hrest : drain rest = .error error := by
          rw [drain_of_yields hyields] at hdrain
          cases hrest : drain rest with
          | ok records => simp [hrest, Except.map] at hdrain
          | error other => simpa [hrest, Except.map] using hdrain
        obtain ⟨before, failing, after, rfl, hbefore, hfails⟩ := ih hrest
        refine ⟨event :: before, failing, after, rfl, ?_, hfails⟩
        exact List.forall_mem_cons.mpr ⟨⟨record, hyields⟩, hbefore⟩
      · rw [drain_of_fails hfails, Except.error.injEq] at hdrain
        subst hdrain
        exact ⟨[], event, rest, rfl, List.forall_mem_nil _, hfails⟩
  · rintro ⟨before, event, after, rfl, hbefore, hfails⟩
    exact drain_append_of_fails hbefore hfails after

/-! ### events that do not matter -/

def Event.isReadable : Event → Bool
  | .document fields => (Record.ofDocument (Bson.document fields).relaxed).isOk
  | .failure _ => false

/-- The events up to the first one that fails, and that one. -/
def throughFailure : List Event → List Event
  | [] => []
  | event :: rest => if event.isReadable then event :: throughFailure rest else [event]

theorem isReadable_iff (event : Event) :
    event.isReadable = true ↔ ∃ record, Yields event record := by
  constructor
  · intro hreadable
    cases event with
    | failure failure => cases hreadable
    | document fields =>
      cases hread : Record.ofDocument (Bson.document fields).relaxed with
      | ok record => exact ⟨record, .document hread⟩
      | error fault => simp [Event.isReadable, hread, Except.isOk, Except.toBool] at hreadable
  · rintro ⟨record, ⟨hread⟩⟩
    rw [Event.isReadable, hread]
    rfl

theorem drain_throughFailure (events : List Event) :
    drain (throughFailure events) = drain events := by
  induction events with
  | nil => rfl
  | cons event rest ih =>
    rw [throughFailure]
    by_cases hreadable : event.isReadable = true
    · obtain ⟨record, hyields⟩ := (isReadable_iff event).mp hreadable
      rw [if_pos hreadable, drain_of_yields hyields, drain_of_yields hyields, ih]
    · have hnone : ¬ ∃ record, Yields event record := mt (isReadable_iff event).mpr hreadable
      obtain ⟨error, hfails⟩ := (yields_or_fails event).resolve_left hnone
      rw [if_neg hreadable, drain_of_fails hfails, drain_of_fails hfails]

/-! ### running a plan -/

theorem execute_of_error {database : Database} {index : String} {plan : Plan} {failure : Failure}
    (hcall : database (Pipeline.render plan index) = .error failure) :
    execute database index plan = .error (classify failure) := by
  rw [execute, hcall]

theorem execute_of_ok {database : Database} {index : String} {plan : Plan} {events : List Event}
    (hcall : database (Pipeline.render plan index) = .ok events) :
    execute database index plan = drain events := by
  rw [execute, hcall]

/-- Running a plan is all or nothing. It succeeds exactly if the call and every event of the cursor
do, with one record for each event in their order. Otherwise the first failure is reported, be it of
the call or of an event, and the events after it may as well be missing. -/
theorem execute_all_or_nothing (database : Database) (index : String) (plan : Plan) :
    (∀ records, execute database index plan = .ok records ↔
      ∃ events, database (Pipeline.render plan index) = .ok events ∧
        List.Forall₂ Yields events records) ∧
    ((∃ records, execute database index plan = .ok records) ↔
      ∃ events, database (Pipeline.render plan index) = .ok events ∧
        ∀ event ∈ events, ∃ record, Yields event record) ∧
    (∀ error, execute database index plan = .error error ↔
      (∃ failure, database (Pipeline.render plan index) = .error failure ∧
        error = classify failure) ∨
      ∃ before event after,
        database (Pipeline.render plan index) = .ok (before ++ event :: after) ∧
        (∀ earlier ∈ before, ∃ record, Yields earlier record) ∧ Fails event error) ∧
    execute (fun pipeline ↦ (database pipeline).map throughFailure) index plan =
      execute database index plan := by
  cases hcall : database (Pipeline.render plan index) with
  | error failure =>
    have hcut : (database (Pipeline.render plan index)).map throughFailure = .error failure := by
      rw [hcall]
      rfl
    rw [execute_of_error hcall, execute_of_error hcut]
    simp [eq_comm]
  | ok events =>
    have hcut : (database (Pipeline.render plan index)).map throughFailure =
        .ok (throughFailure events) := by
      rw [hcall]
      rfl
    rw [execute_of_ok hcall, execute_of_ok hcut]
    simp only [Except.ok.injEq, exists_eq_left', reduceCtorEq, false_and, exists_false, false_or]
    exact ⟨drain_eq_ok_iff events, exists_drain_eq_ok_iff events, drain_eq_error_iff events,
      drain_throughFailure events⟩

/-- A document that is no record is reported, and the failure after it is not. -/
example :
    drain [.document [("name", .string "soil")], .document [("score", .string "high")],
      .failure (.command 13 "not authorized")] = .error (.decode "score is not a number") := rfl

end DatasetSearch.Executor
