import Mathlib.Data.List.Basic

/-!
# Reply errors

The error half of every module reply: a kind the caller switches on and a text
that carries the diagnosis.
-/

namespace LogosRln

inductive ErrorKind where
  | unknownRegistry
  | unknownMembership
  | providerFailure
  | locked
  | badPassword
  | noUsableMembership
  | ambiguousSelection
  | invalidArgument
  | keychainUnavailable
  | internal
  | notReady
  | transient
  | budgetExhausted
  | permanent
  deriving DecidableEq, Repr

structure ApiError where
  kind : ErrorKind
  message : String
  deriving DecidableEq, Repr

def ApiError.internal (message : String) : ApiError := ⟨.internal, message⟩

/-! ## Fallible steps -/

section Fallible

variable {E F A B : Type}

/-- A sequence of two steps succeeds when both do. -/
theorem bind_eq_ok_iff {step : Except E A} {next : A → Except E B} {value : B} :
    (step >>= next) = .ok value ↔ ∃ middle, step = .ok middle ∧ next middle = .ok value := by
  cases step <;> simp [bind, Except.bind]

theorem mapError_eq_ok_iff {step : Except E A} {name : E → F} {value : A} :
    step.mapError name = .ok value ↔ step = .ok value := by
  cases step <;> simp [Except.mapError]

end Fallible

end LogosRln
