import Mathlib.Tactic.Core

/-!
# Outcomes of computations that can fail

When a step of such a computation succeeds or fails, as an equivalence, so that the outcome of
the whole can be rewritten into the outcomes of its steps.  Computations with a state are run one
step at a time.
-/

namespace TripComputer

variable {ε α β : Type}

theorem bind_eq_ok_iff {first : Except ε α} {rest : α → Except ε β} {result : β} :
    first >>= rest = .ok result ↔ ∃ value, first = .ok value ∧ rest value = .ok result := by
  cases first with
  | error failure => exact ⟨nofun, nofun⟩
  | ok value =>
      constructor
      · exact fun succeeded => ⟨value, rfl, succeeded⟩
      · rintro ⟨_, same, succeeded⟩
        cases same
        exact succeeded

theorem bind_eq_error_iff {first : Except ε α} {rest : α → Except ε β} {failure : ε} :
    first >>= rest = .error failure ↔
      first = .error failure ∨ ∃ value, first = .ok value ∧ rest value = .error failure := by
  cases first <;> simp [bind, Except.bind]

theorem map_eq_error_iff {first : Except ε α} {function : α → β} {failure : ε} :
    first.map function = .error failure ↔ first = .error failure := by
  cases first <;> simp [Except.map]

theorem map_eq_ok_iff {first : Except ε α} {function : α → β} {result : β} :
    first.map function = .ok result ↔ ∃ value, first = .ok value ∧ function value = result := by
  cases first <;> simp [Except.map]

theorem elim_eq_ok_iff {found : Option α} {failure : ε} {value : α} :
    (found.elim (.error failure) .ok : Except ε α) = .ok value ↔ found = some value := by
  cases found <;> simp

theorem elim_eq_error_iff {found : Option α} {failure error : ε} :
    (found.elim (.error failure) .ok : Except ε α) = .error error ↔
      found = none ∧ failure = error := by
  cases found <;> simp

theorem mapError_eq_ok_iff {wrap : ε → β} {first : Except ε α} {result : α} :
    first.mapError wrap = .ok result ↔ first = .ok result := by
  cases first <;> simp [Except.mapError]

theorem mapError_eq_error_iff {wrap : ε → β} {first : Except ε α} {failure : β} :
    first.mapError wrap = .error failure ↔ ∃ cause, first = .error cause ∧ wrap cause = failure := by
  cases first <;> simp [Except.mapError]

section

variable {σ : Type} {first : EStateM ε σ α} {rest : α → EStateM ε σ β} {state changed : σ}

theorem bind_of_ok {answer : α} (done : first state = .ok answer changed) :
    (first >>= rest) state = rest answer changed := by
  show EStateM.bind first rest state = _
  rw [EStateM.bind, done]

theorem bind_of_error {failure : ε} (failed : first state = .error failure changed) :
    (first >>= rest) state = .error failure changed := by
  show EStateM.bind first rest state = _
  rw [EStateM.bind, failed]

end

end TripComputer
