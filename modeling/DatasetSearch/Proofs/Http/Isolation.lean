import DatasetSearch.Proofs.Http.Outcome

/-!
# Bad requests leave the others alone

Two runs of one service are compared by their outcomes. Searches that are turned away can be left
out, and nothing but the counter of rejections keeps a trace of them (`outcome_pick`). The counters
have no say in any response (`outcome_agree`), so that an answer of the backend that is replaced by
another reaches the client of that answer only (`outcome_replace`).
-/

set_option autoImplicit false
set_option relaxedAutoImplicit false

namespace DatasetSearch.Http

/-! ### positions of a run -/

section Pick

variable {α : Type}

/-- The items at the chosen positions. -/
def pick (chosen : Nat → Bool) : List α → List α
  | [] => []
  | item :: rest =>
    if chosen 0 then item :: pick (fun n ↦ chosen (n + 1)) rest
    else pick (fun n ↦ chosen (n + 1)) rest

variable {chosen : Nat → Bool} (item : α) (rest : List α)

theorem pick_cons_of_chosen (hchosen : chosen 0 = true) :
    pick chosen (item :: rest) = item :: pick (fun n ↦ chosen (n + 1)) rest :=
  if_pos hchosen

theorem pick_cons_of_not_chosen (hchosen : ¬ chosen 0 = true) :
    pick chosen (item :: rest) = pick (fun n ↦ chosen (n + 1)) rest :=
  if_neg hchosen

theorem pick_sublist (chosen : Nat → Bool) (items : List α) :
    (pick chosen items).Sublist items := by
  induction items generalizing chosen with
  | nil => exact .slnil
  | cons item rest ih =>
    by_cases hchosen : chosen 0 = true
    · rw [pick_cons_of_chosen item rest hchosen]
      exact (ih _).cons_cons item
    · rw [pick_cons_of_not_chosen item rest hchosen]
      exact (ih _).cons item

end Pick

section Outcome

variable {σ : Type}

/-! ### leaving searches out -/

/-- The first outcome is what is left of the second without the chosen responses and some of the
rejections. -/
structure Outcome.IsWithout (chosen : Nat → Bool) (rejected : Nat) (spared full : Outcome σ) :
    Prop where
  responses : spared.responses = pick (!chosen ·) full.responses
  calls : spared.calls = full.calls
  state : spared.state = full.state
  metrics : full.metrics = spared.metrics.addRejections rejected

section IsWithout

variable {chosen : Nat → Bool} {rejected : Nat} {spared full : Outcome σ}

theorem Outcome.IsWithout.cons_chosen (hchosen : chosen 0 = true)
    (hrest : IsWithout (fun n ↦ chosen (n + 1)) rejected spared full) (response : Response) :
    IsWithout chosen rejected spared (full.cons response []) where
  responses := by
    rw [cons, pick_cons_of_not_chosen _ _ (by simp [hchosen]), hrest.responses]
  calls := hrest.calls
  state := hrest.state
  metrics := hrest.metrics

theorem Outcome.IsWithout.cons_kept (hchosen : ¬ chosen 0 = true)
    (hrest : IsWithout (fun n ↦ chosen (n + 1)) rejected spared full) (response : Response)
    (made : List Call) :
    IsWithout chosen rejected (spared.cons response made) (full.cons response made) where
  responses := by
    rw [cons, cons, pick_cons_of_chosen _ _ (by simp [hchosen]), hrest.responses]
  calls := congrArg (made ++ ·) hrest.calls
  state := hrest.state
  metrics := hrest.metrics

end IsWithout

variable (settings : Settings.Search) (metrics : Metrics) (backend : Backend σ) (state : σ)

/-- The counters of the run with all its searches are ahead by the rejections so far. -/
theorem outcome_pick {messages : List Message} (hsearch : ∀ message ∈ messages, message.IsSearch)
    (chosen : Nat → Bool) (n : Nat)
    (hbad : ∀ response ∈ pick chosen
      (Service.outcome ⟨settings, metrics.addRejections n⟩ backend state messages).responses,
      response.status = 400) :
    Outcome.IsWithout chosen (n + (pick chosen messages).countP Message.isReadable)
      (Service.outcome ⟨settings, metrics⟩ backend state (pick (!chosen ·) messages))
      (Service.outcome ⟨settings, metrics.addRejections n⟩ backend state messages) := by
  induction messages generalizing chosen n metrics state with
  | nil => exact ⟨rfl, rfl, rfl, rfl⟩
  | cons message messages ih =>
    rw [List.forall_mem_cons] at hsearch
    rcases hsearch.1.conduct settings with ⟨response, haway⟩ | ⟨plan, reply, hasks⟩
    · rw [haway.outcome, Metrics.addRejections_add] at hbad ⊢
      by_cases hchosen : chosen 0 = true
      · -- The run without this search goes on from the counters before it.
        rw [Outcome.cons, pick_cons_of_chosen _ _ hchosen, List.forall_mem_cons] at hbad
        have hrest := ih metrics state hsearch.2 _ _ hbad.2
        have hcount : n + (pick chosen (message :: messages)).countP Message.isReadable =
            n + rejections message +
              (pick (fun n ↦ chosen (n + 1)) messages).countP Message.isReadable := by
          rw [pick_cons_of_chosen _ _ hchosen, List.countP_cons, rejections]
          omega
        rw [hcount, pick_cons_of_not_chosen message _ (by simp [hchosen])]
        exact hrest.cons_chosen hchosen response
      · -- Both runs count this search, which leaves them as far apart as before.
        rw [Nat.add_comm n (rejections message), ← Metrics.addRejections_add] at hbad ⊢
        rw [Outcome.cons, pick_cons_of_not_chosen _ _ hchosen] at hbad
        have hrest := ih _ state hsearch.2 _ n hbad
        rw [pick_cons_of_not_chosen _ _ hchosen,
          pick_cons_of_chosen message _ (by simp [hchosen]), haway.outcome]
        exact hrest.cons_kept hchosen response []
    · rw [hasks.outcome _ _ _ hsearch.2, Metrics.recordExecution_addRejections] at hbad ⊢
      by_cases hchosen : chosen 0 = true
      · rw [Outcome.cons, pick_cons_of_chosen _ _ hchosen, List.forall_mem_cons] at hbad
        exact absurd hbad.1 (hasks.status _)
      · rw [Outcome.cons, pick_cons_of_not_chosen _ _ hchosen] at hbad
        have hrest := ih _ _ hsearch.2 _ n hbad
        have hothers : ∀ other ∈ pick (fun n ↦ !chosen (n + 1)) messages, other.IsSearch :=
          fun other hother ↦ hsearch.2 other ((pick_sublist _ _).subset hother)
        rw [pick_cons_of_not_chosen _ _ hchosen,
          pick_cons_of_chosen message _ (by simp [hchosen]), hasks.outcome _ _ _ hothers]
        exact hrest.cons_kept hchosen _ _

/-! ### answers of the executor -/

/-- Two outcomes that only the counters may tell apart. -/
structure Outcome.Agree (first second : Outcome σ) : Prop where
  responses : first.responses = second.responses
  calls : first.calls = second.calls
  state : first.state = second.state

theorem Outcome.Agree.cons {first second : Outcome σ} (hagree : Agree first second)
    (response : Response) (made : List Call) :
    Agree (first.cons response made) (second.cons response made) where
  responses := congrArg (response :: ·) hagree.responses
  calls := congrArg (made ++ ·) hagree.calls
  state := hagree.state

theorem outcome_agree {messages : List Message} (hsearch : ∀ message ∈ messages, message.IsSearch)
    (other : Metrics) :
    Outcome.Agree (Service.outcome ⟨settings, metrics⟩ backend state messages)
      (Service.outcome ⟨settings, other⟩ backend state messages) := by
  induction messages generalizing metrics other state with
  | nil => exact ⟨rfl, rfl, rfl⟩
  | cons message messages ih =>
    rw [List.forall_mem_cons] at hsearch
    rcases hsearch.1.conduct settings with ⟨response, haway⟩ | ⟨plan, reply, hasks⟩
    · rw [haway.outcome, haway.outcome]
      exact (ih _ _ hsearch.2 _).cons response []
    · rw [hasks.outcome _ _ _ hsearch.2, hasks.outcome _ _ _ hsearch.2]
      exact (ih _ _ hsearch.2 _).cons _ _

/-- Two outcomes that differ in one answer of the backend, in the response that follows from it, and
in the counters. -/
structure Outcome.DifferAt (own : Nat) (earlier later : List Call) (plan : Plan)
    (given replacement : Execution) (first second : Outcome σ) : Prop where
  calls_first : first.calls = earlier ++ ⟨plan, given⟩ :: later
  calls_second : second.calls = earlier ++ ⟨plan, replacement⟩ :: later
  responses : ∀ i, i ≠ own → first.responses[i]? = second.responses[i]?
  state : first.state = second.state

theorem Outcome.DifferAt.cons {own : Nat} {earlier later : List Call} {plan : Plan}
    {given replacement : Execution} {first second : Outcome σ}
    (hdiffer : DifferAt own earlier later plan given replacement first second) (response : Response)
    (made : List Call) :
    DifferAt (own + 1) (made ++ earlier) later plan given replacement
      (first.cons response made) (second.cons response made) where
  calls_first := by rw [Outcome.cons, hdiffer.calls_first, List.append_assoc]
  calls_second := by rw [Outcome.cons, hdiffer.calls_second, List.append_assoc]
  responses := by
    intro i hi
    cases i with
    | zero => rfl
    | succ i => exact hdiffer.responses i (fun h ↦ hi (congrArg Nat.succ h))
  state := hdiffer.state

/-- What may become of a run when the backend gives another answer after so many calls. Unless there
is no further call, that answer was given to one message, and it is the only one to see it. -/
inductive ReachesOneOnly (run : Execution → List Message → Outcome σ) (calls : Nat)
    (given replacement : Execution) (messages : List Message) : Prop where
  | unasked (hlength : (run given messages).calls.length ≤ calls)
    (hresponses : (run given messages).responses = (run replacement messages).responses)
    (hcalls : (run given messages).calls = (run replacement messages).calls)
  | asked (own : Nat) (earlier later : List Call) (plan : Plan) (hlength : earlier.length = calls)
    (hearlier : (run given (messages.take own)).calls = earlier)
    (hown : (run given (messages.take (own + 1))).calls = earlier ++ [⟨plan, given⟩])
    (hdiffer : Outcome.DifferAt own earlier later plan given replacement (run given messages)
      (run replacement messages))

section ReachesOneOnly

variable {run : Execution → List Message → Outcome σ} {calls : Nat}
  {given replacement : Execution} {messages : List Message}

theorem ReachesOneOnly.plans (hreaches : ReachesOneOnly run calls given replacement messages) :
    (run given messages).calls.map Call.plan = (run replacement messages).calls.map Call.plan := by
  cases hreaches with
  | unasked hlength hresponses hcalls => rw [hcalls]
  | asked own earlier later plan hlength hearlier hown hdiffer =>
    rw [hdiffer.calls_first, hdiffer.calls_second, List.map_append, List.map_append]
    rfl

/-- A message in front that is answered in the same way in both runs. -/
theorem ReachesOneOnly.cons {longer : Execution → List Message → Outcome σ} {message : Message}
    {response : Response} {made : List Call} (hsearch : ∀ message ∈ messages, message.IsSearch)
    (hlonger : ∀ answer rest, (∀ message ∈ rest, message.IsSearch) →
      longer answer (message :: rest) = (run answer rest).cons response made)
    (hreaches : ReachesOneOnly run calls given replacement messages) :
    ReachesOneOnly longer (made.length + calls) given replacement (message :: messages) := by
  have hall := fun answer ↦ hlonger answer messages hsearch
  have htaken := fun answer n ↦ hlonger answer (messages.take n)
    fun message hmessage ↦ hsearch message (List.mem_of_mem_take hmessage)
  cases hreaches with
  | unasked hlength hresponses hcalls =>
    refine .unasked ?_ ?_ ?_
    · rw [hall, Outcome.cons, List.length_append]
      exact Nat.add_le_add_left hlength made.length
    · rw [hall, hall, Outcome.cons, Outcome.cons, hresponses]
    · rw [hall, hall, Outcome.cons, Outcome.cons, hcalls]
  | asked own earlier later plan hlength hearlier hown hdiffer =>
    refine .asked (own + 1) (made ++ earlier) later plan ?_ ?_ ?_ ?_
    · rw [List.length_append, hlength]
    · rw [List.take_succ_cons, htaken, Outcome.cons, hearlier]
    · rw [List.take_succ_cons, htaken, Outcome.cons, hown, List.append_assoc]
    · rw [hall, hall]
      exact hdiffer.cons response made

end ReachesOneOnly

end Outcome

/-! ### one answer in place of another -/

section Scripted

variable {settings : Settings.Search} (metrics : Metrics)

theorem AsksFor.outcome_scripted {message : Message} {plan : Plan} {reply : Execution → Response}
    (hasks : AsksFor settings message plan reply) {messages : List Message}
    (hsearch : ∀ message ∈ messages, message.IsSearch) (execution : Execution)
    (rest : List Execution) :
    Service.outcome ⟨settings, metrics⟩ .scripted (execution :: rest) (message :: messages) =
      (Service.outcome ⟨settings, metrics.recordExecution execution⟩ .scripted rest messages).cons
        (reply execution) [⟨plan, execution⟩] :=
  hasks.outcome metrics .scripted (execution :: rest) hsearch

/-- The message that is given the differing answer is the last one that the two runs have to be told
apart for: after it, the scripts are the same. -/
theorem AsksFor.reachesOneOnly {message : Message} {plan : Plan} {reply : Execution → Response}
    (hasks : AsksFor settings message plan reply) {messages : List Message}
    (hsearch : ∀ message ∈ messages, message.IsSearch) (after : List Execution)
    (given replacement : Execution) :
    ReachesOneOnly
      (fun answer ↦ Service.outcome ⟨settings, metrics⟩ .scripted (answer :: after)) 0
      given replacement (message :: messages) := by
  have hrun := fun answer ↦ hasks.outcome_scripted metrics hsearch answer after
  have halone : (Service.outcome ⟨settings, metrics⟩ .scripted (given :: after) [message]).calls =
      [⟨plan, given⟩] := by
    rw [hasks.outcome_scripted metrics (List.forall_mem_nil _)]
    rfl
  let rest := fun answer ↦
    Service.outcome ⟨settings, metrics.recordExecution answer⟩ .scripted after messages
  have hrest : Outcome.Agree (rest given) (rest replacement) :=
    outcome_agree settings _ .scripted after hsearch _
  have hdiffer : Outcome.DifferAt 0 [] (rest given).calls plan given replacement
      ((rest given).cons (reply given) [⟨plan, given⟩])
      ((rest replacement).cons (reply replacement) [⟨plan, replacement⟩]) := by
    refine ⟨rfl, ?_, ?_, hrest.state⟩
    · rw [Outcome.cons, hrest.calls]
      rfl
    · intro i hi
      cases i with
      | zero => exact absurd rfl hi
      | succ i => exact congrArg (·[i]?) hrest.responses
  rw [← hrun, ← hrun] at hdiffer
  exact .asked 0 [] _ plan rfl rfl halone hdiffer

theorem outcome_replace (settings : Settings.Search) (metrics : Metrics) {messages : List Message}
    (hsearch : ∀ message ∈ messages, message.IsSearch) (before after : List Execution)
    (given replacement : Execution) :
    ReachesOneOnly
      (fun answer ↦ Service.outcome ⟨settings, metrics⟩ .scripted (before ++ answer :: after))
      before.length given replacement messages := by
  induction messages generalizing metrics before with
  | nil => exact .unasked (Nat.zero_le _) rfl rfl
  | cons message messages ih =>
    rw [List.forall_mem_cons] at hsearch
    rcases hsearch.1.conduct settings with ⟨response, haway⟩ | ⟨plan, reply, hasks⟩
    · have hrest := ih (metrics.addRejections (rejections message)) hsearch.2 before
      have hcons := hrest.cons hsearch.2 fun answer rest _ ↦
        haway.outcome metrics .scripted (before ++ answer :: after) rest
      rwa [List.length_nil, Nat.zero_add] at hcons
    · cases before with
      | nil => exact hasks.reachesOneOnly metrics hsearch.2 after given replacement
      | cons execution before =>
        have hrest := ih (metrics.recordExecution execution) hsearch.2 before
        have hcons := hrest.cons hsearch.2 fun answer rest hothers ↦
          hasks.outcome_scripted metrics hothers execution (before ++ answer :: after)
        rwa [List.length_singleton, Nat.add_comm] at hcons

end Scripted

/-! ### whole runs -/

/-- Which searches are answered 400 is decided by their queries, in every run with these settings.
Without any of them the backend sees the same, and so does every other client; with them, the
readable ones have been counted. An answer of the backend that is replaced by another is seen by one
client only. -/
theorem badRequests_isolated {σ : Type} (service : Service) (backend : Backend σ) (start : σ)
    (messages : List Message) (hsearch : ∀ message ∈ messages, message.IsSearch)
    (chosen : Nat → Bool)
    (hbad : ∀ response ∈ pick chosen (service.outcome backend start messages).responses,
      response.status = 400)
    (before after : List Execution) (failure replacement : Execution) :
    (∀ message response,
      (message, response) ∈ messages.zip (service.outcome backend start messages).responses →
      (response.status = 400 ↔
        Unreadable message.uri.query ∨ Refuses service.settings message.uri.query)) ∧
    Outcome.IsWithout chosen ((pick chosen messages).countP Message.isReadable)
      (service.outcome backend start (pick (!chosen ·) messages))
      (service.outcome backend start messages) ∧
    (let run := fun answer ↦ service.outcome .scripted (before ++ answer :: after)
    (run failure messages).calls.map Call.plan = (run replacement messages).calls.map Call.plan ∧
      ReachesOneOnly run before.length failure replacement messages) := by
  refine ⟨?_, ?_, ?_⟩
  · intro message response hanswered
    exact service.status_iff backend start hsearch hanswered
  · have hpick := outcome_pick service.settings service.metrics backend start hsearch chosen 0
    rw [Metrics.addRejections_zero, Nat.zero_add] at hpick
    exact hpick hbad
  · have hreaches := outcome_replace service.settings service.metrics hsearch before after failure
      replacement
    exact ⟨hreaches.plans, hreaches⟩

/-- Soil, nothing, a year that is none, ice and rain. -/
def fiveSearches : List Message :=
  ["/search?term=soil", "/search?term=", "/search?term=soil&publishedStart=soon",
    "/search?term=ice", "/search?term=rain"].filterMap fun target ↦ Message.ofRequest? { target }

theorem badRequests_isolated_fiveSearches :
    let chosen : Nat → Bool := fun n ↦ n == 1 || n == 2
    let found : Execution := { result := .ok [⟨.zero false, [], [("name", .string "soil")]⟩] }
    let failure : Execution := { result := .error (.unavailable "no route") }
    let run := fun answer ↦ Service.outcome {} .scripted ([found] ++ answer :: [found])
    (∀ message ∈ fiveSearches, message.IsSearch) ∧
    (∀ response ∈ pick chosen (run failure fiveSearches).responses, response.status = 400) ∧
    Outcome.IsWithout chosen 1 (run failure (pick (!chosen ·) fiveSearches))
      (run failure fiveSearches) ∧
    ReachesOneOnly run 1 failure found fiveSearches := by
  intro chosen found failure run
  have hsearch : ∀ message ∈ fiveSearches, message.IsSearch := by decide +kernel
  have hbad : ∀ response ∈ pick chosen (run failure fiveSearches).responses,
      response.status = 400 := by
    decide +kernel
  have hcount : (pick chosen fiveSearches).countP Message.isReadable = 1 := by decide +kernel
  obtain ⟨-, hwithout, -, hreaches⟩ := badRequests_isolated {} .scripted
    ([found] ++ failure :: [found]) fiveSearches hsearch chosen hbad [found] [found] failure found
  rw [hcount] at hwithout
  exact ⟨hsearch, hbad, hwithout, hreaches⟩

end DatasetSearch.Http
