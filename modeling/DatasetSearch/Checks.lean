/-!
# Checks one after the other

A chain of steps that may fail gives a result if each of its steps does, and otherwise it fails as
the first step without one does (`bind_eq_error_iff`). A check gives nothing but its pass, so a
chain of checks passes if all of them do (`check_bind_eq_ok_iff`), and it fails with the fault of
the first that does not (`check_bind_eq_error_iff`, and `forM_eq_error_iff` for the checks of a
list). `ensure` is the check of one condition, with the fault that stands for its failure.
-/

set_option autoImplicit false
set_option relaxedAutoImplicit false

namespace DatasetSearch

variable {ε α β : Type}

/-! ### one condition -/

def ensure (holds : Bool) (fault : ε) : Except ε Unit :=
  if holds then .ok () else .error fault

theorem ensure_eq_ok_iff (holds : Bool) (fault : ε) :
    ensure holds fault = .ok () ↔ holds = true := by
  cases holds <;> simp [ensure]

theorem ensure_eq_error_iff (holds : Bool) (fault found : ε) :
    ensure holds fault = .error found ↔ holds = false ∧ fault = found := by
  cases holds <;> simp [ensure]

/-! ### one step after the other -/

theorem bind_eq_ok_iff (first : Except ε α) (next : α → Except ε β) (result : β) :
    (first >>= next) = .ok result ↔ ∃ found, first = .ok found ∧ next found = .ok result := by
  cases first with
  | error fault => simp [bind, Except.bind]
  | ok found => simp [bind, Except.bind]

theorem bind_eq_error_iff (first : Except ε α) (next : α → Except ε β) (fault : ε) :
    (first >>= next) = .error fault ↔
      first = .error fault ∨ ∃ found, first = .ok found ∧ next found = .error fault := by
  cases first with
  | error other => simp [bind, Except.bind]
  | ok found => simp [bind, Except.bind]

theorem exists_eq_error_iff (result : Except ε α) :
    (∃ fault, result = .error fault) ↔ ∀ a, result ≠ .ok a := by
  cases result <;> simp

theorem check_bind_eq_ok_iff (check rest : Except ε Unit) :
    (check >>= fun _ ↦ rest) = .ok () ↔ check = .ok () ∧ rest = .ok () := by
  cases check with
  | error fault => simp [bind, Except.bind]
  | ok done => simp [bind, Except.bind]

theorem check_bind_eq_error_iff (check rest : Except ε Unit) (fault : ε) :
    (check >>= fun _ ↦ rest) = .error fault ↔
      check = .error fault ∨ check = .ok () ∧ rest = .error fault := by
  cases check with
  | error first => simp [bind, Except.bind]
  | ok done => simp [bind, Except.bind]

/-- Checks of a list fail with the fault of one of them, and all before it pass. -/
theorem forM_eq_error_iff (check : α → Except ε Unit) (subjects : List α) (fault : ε) :
    subjects.forM check = .error fault ↔
      ∃ before subject after, subjects = before ++ subject :: after ∧
        check subject = .error fault ∧ ∀ earlier ∈ before, check earlier = .ok () := by
  induction subjects with
  | nil =>
    refine iff_of_false (fun h ↦ by cases h) ?_
    rintro ⟨before, subject, after, hsplit, -⟩
    simp at hsplit
  | cons first rest ih =>
    rw [List.forM_eq_forM, List.forM_cons, check_bind_eq_error_iff, ← List.forM_eq_forM, ih]
    constructor
    · rintro (hfirst | ⟨hfirst, before, subject, after, rfl, hfault, hpass⟩)
      · exact ⟨[], first, rest, rfl, hfirst, by simp⟩
      · exact ⟨first :: before, subject, after, rfl, hfault,
          List.forall_mem_cons.mpr ⟨hfirst, hpass⟩⟩
    · rintro ⟨before, subject, after, hsplit, hfault, hpass⟩
      cases before with
      | nil =>
        obtain ⟨rfl, rfl⟩ := List.cons.inj hsplit
        exact Or.inl hfault
      | cons other before =>
        obtain ⟨rfl, rfl⟩ := List.cons.inj hsplit
        obtain ⟨hfirst, hrest⟩ := List.forall_mem_cons.mp hpass
        exact Or.inr ⟨hfirst, before, subject, after, rfl, hfault, hrest⟩

end DatasetSearch
