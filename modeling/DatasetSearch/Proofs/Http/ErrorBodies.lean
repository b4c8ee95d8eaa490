import DatasetSearch.Http.Service
import DatasetSearch.Proofs.Json.Reading
import Mathlib.Data.List.Nodup

/-!
# Bodies of errors

Whatever goes wrong with a search is reported in a body of one form: an object whose one field holds
the message, between quotes. The message may hold any text of a client or of the backend. It is
spelled so that it ends at the quote that closes the body (`toList_compact_errorBody`), and the body
reads back as that object (`read?_compact_errorBody`). So bodies are equal exactly if their messages
are (`compact_errorBody_inj`).
-/

set_option autoImplicit false
set_option relaxedAutoImplicit false

namespace DatasetSearch.Http

open Json

/-- What is reported by the body of an error. -/
inductive Problem where
  | refused (fault : DatasetSearch.Request.Fault)
  | failed (error : Executor.Error)
  | unfit (text : String)

namespace Problem

def message : Problem → String
  | refused fault => fault.message
  | failed error => error.message
  | unfit text => text

def response : Problem → Response
  | refused fault => badRequest fault.message
  | failed error => executorFailure error
  | unfit text => badRequest text

theorem body_response (problem : Problem) :
    problem.response.body = (errorBody problem.message).compact := by
  cases problem <;> rfl

end Problem

/-! ### the body of one message -/

theorem read?_compact_errorBody (message : String) :
    read? (errorBody message).compact = some (errorBody message) := by
  refine read?_compact_object (fun field hfield ↦ ?_) (List.nodup_singleton _)
  cases List.mem_singleton.mp hfield
  exact readsBack_string message

theorem compact_errorBody_inj (message other : String) :
    (errorBody message).compact = (errorBody other).compact ↔ message = other := by
  constructor
  · intro hbody
    have hread := congrArg read? hbody
    rw [read?_compact_errorBody, read?_compact_errorBody] at hread
    simpa [errorBody] using hread
  · exact congrArg fun text ↦ (errorBody text).compact

theorem toList_compact_errorBody (message : String) :
    (errorBody message).compact.toList =
      "\x7b\"error\":\"".toList ++ message.toList.flatMap escape ++ "\"\x7d".toList := by
  simp [compact, errorBody, write, writeFields, writeString, escape]

/-! ### all bodies -/

/-- The body of an error holds the message and nothing else. It reads as an object with one field,
which is the message; the message is spelled between the quotes of that field, with no other
meaning; and the message is all that the body depends on. -/
theorem errorBody_carries_message (problem : Problem) :
    read? problem.response.body = some (.object [("error", .string problem.message)]) ∧
    (∃ literal, problem.response.body.toList =
        "\x7b\"error\":\"".toList ++ literal ++ "\"\x7d".toList ∧
      ∀ text, Spells literal text ↔ text = problem.message.toList) ∧
    ∀ other : Problem, problem.response.body = other.response.body ↔
      problem.message = other.message := by
  simp only [Problem.body_response]
  refine ⟨read?_compact_errorBody _, ⟨_, toList_compact_errorBody _, fun text ↦ ?_⟩,
    fun other ↦ compact_errorBody_inj _ _⟩
  have hspells := spells_escape problem.message.toList
  constructor
  · exact fun htext ↦ htext.unique hspells
  · rintro rfl
    exact hspells

/-- A message that looks like one more field stays a message. -/
example : (Problem.unfit "ice\",\"error\":\"\n").response.body =
    "\x7b\"error\":\"ice\\\",\\\"error\\\":\\\"\\n\"\x7d" := by decide +kernel

end DatasetSearch.Http
