import Mathlib.Data.List.Basic
import Mathlib.Data.Nat.Find
import Mathlib.Order.WellFounded

/-!
# Runs of a machine

A machine answers each input with an output and moves to a next state.  The
claims about a store, a log or a set of interleaved callers are all claims
about every state such a machine reaches, or about every answer it gives on
the way.  This file packages the one induction behind them: an invariant kept
by each admissible step holds after every admissible run.
-/

namespace LogosRln.Run

variable {State Input Output : Type*}

/-- The state reached from `state` after all of `inputs`. -/
def run (step : State → Input → State × Output) : State → List Input → State
  | state, [] => state
  | state, input :: inputs => run step (step state input).1 inputs

/-- One answered call of a run: the state it met, the call and the answer. -/
structure Event (State Input Output : Type*) where
  before : State
  input : Input
  output : Output

/-- Every answered call of a run, oldest first. -/
def trace (step : State → Input → State × Output) :
    State → List Input → List (Event State Input Output)
  | _, [] => []
  | state, input :: inputs =>
      ⟨state, input, (step state input).2⟩ :: trace step (step state input).1 inputs

/-- Every input of the run is admissible in the state that receives it. -/
def Guarded (step : State → Input → State × Output)
    (guard : State → Input → Prop) : State → List Input → Prop
  | _, [] => True
  | state, input :: inputs =>
      guard state input ∧ Guarded step guard (step state input).1 inputs

/-- A run on concrete inputs is checked input by input. -/
def decidableGuarded (step : State → Input → State × Output)
    (guard : State → Input → Prop) [∀ state input, Decidable (guard state input)] :
    ∀ (state : State) (inputs : List Input), Decidable (Guarded step guard state inputs)
  | _, [] => isTrue trivial
  | state, input :: inputs =>
      have := decidableGuarded step guard (step state input).1 inputs
      inferInstanceAs (Decidable (guard state input ∧ _))

instance (step : State → Input → State × Output) (guard : State → Input → Prop)
    [∀ state input, Decidable (guard state input)] (state : State) (inputs : List Input) :
    Decidable (Guarded step guard state inputs) :=
  decidableGuarded step guard state inputs

variable {step : State → Input → State × Output} {guard : State → Input → Prop}

@[simp]
theorem run_nil (state : State) : run step state [] = state := rfl

@[simp]
theorem run_cons (state : State) (input : Input) (inputs : List Input) :
    run step state (input :: inputs) = run step (step state input).1 inputs := rfl

@[simp]
theorem guarded_nil (state : State) : Guarded step guard state [] := trivial

@[simp]
theorem guarded_cons (state : State) (input : Input) (inputs : List Input) :
    Guarded step guard state (input :: inputs) ↔
      guard state input ∧ Guarded step guard (step state input).1 inputs := Iff.rfl

theorem run_append (state : State) (first second : List Input) :
    run step state (first ++ second) = run step (run step state first) second := by
  induction first generalizing state with
  | nil => rfl
  | cons input inputs ih => exact ih _

theorem guarded_append (state : State) (first second : List Input) :
    Guarded step guard state (first ++ second) ↔
      Guarded step guard state first ∧ Guarded step guard (run step state first) second := by
  induction first generalizing state with
  | nil => simp
  | cons input inputs ih => simp [ih, and_assoc]

theorem trace_append (state : State) (first second : List Input) :
    trace step state (first ++ second) =
      trace step state first ++ trace step (run step state first) second := by
  induction first generalizing state with
  | nil => rfl
  | cons input inputs ih => simp [trace, ih]

/-- Without a condition every run is admissible. -/
theorem guarded_true (state : State) (inputs : List Input) :
    Guarded step (fun _ _ => True) state inputs := by
  induction inputs generalizing state with
  | nil => trivial
  | cons input inputs ih => exact ⟨trivial, ih _⟩

/-- A condition on the inputs alone. -/
theorem guarded_of_forall {admissible : Input → Prop} {inputs : List Input}
    (hall : ∀ input ∈ inputs, admissible input) (state : State) :
    Guarded step (fun _ input => admissible input) state inputs := by
  induction inputs generalizing state with
  | nil => trivial
  | cons input inputs ih =>
      exact ⟨hall input List.mem_cons_self,
        ih (fun other hother => hall other (List.mem_cons_of_mem _ hother)) _⟩

theorem Guarded.mono {weaker : State → Input → Prop}
    (himp : ∀ state input, guard state input → weaker state input)
    {state : State} {inputs : List Input} (hrun : Guarded step guard state inputs) :
    Guarded step weaker state inputs := by
  induction inputs generalizing state with
  | nil => trivial
  | cons input inputs ih => exact ⟨himp _ _ hrun.1, ih hrun.2⟩

/-- The invariant rule: what every admissible step keeps, every admissible run
keeps. -/
theorem invariant_run {Inv : State → Prop}
    (hstep : ∀ state input, Inv state → guard state input → Inv (step state input).1)
    {state : State} {inputs : List Input} (hinit : Inv state)
    (hrun : Guarded step guard state inputs) : Inv (run step state inputs) := by
  induction inputs generalizing state with
  | nil => exact hinit
  | cons input inputs ih => exact ih (hstep _ _ hinit hrun.1) hrun.2

/-- The answer rule: under an invariant, every admissible call of the run is
answered as `Answer` says. -/
theorem trace_forall {Inv : State → Prop} {Answer : Event State Input Output → Prop}
    (hstep : ∀ state input, Inv state → guard state input → Inv (step state input).1)
    (hanswer : ∀ state input, Inv state → guard state input →
      Answer ⟨state, input, (step state input).2⟩)
    {state : State} {inputs : List Input} (hinit : Inv state)
    (hrun : Guarded step guard state inputs) :
    ∀ event ∈ trace step state inputs, Answer event := by
  induction inputs generalizing state with
  | nil => simp [trace]
  | cons input inputs ih =>
      intro event hevent
      rcases List.mem_cons.mp hevent with rfl | htail
      · exact hanswer _ _ hinit hrun.1
      · exact ih (hstep _ _ hinit hrun.1) hrun.2 event htail

/-- Where a call is answered as `Answer` says exactly when it is admissible, the
answers of a run are so exactly when the run is. -/
theorem trace_forall_iff {Inv : State → Prop} {Answer : Event State Input Output → Prop}
    (hstep : ∀ state input, Inv state → Inv (step state input).1)
    (hanswer : ∀ state input, Inv state →
      (Answer ⟨state, input, (step state input).2⟩ ↔ guard state input))
    {state : State} {inputs : List Input} (hinit : Inv state) :
    (∀ event ∈ trace step state inputs, Answer event) ↔ Guarded step guard state inputs := by
  induction inputs generalizing state with
  | nil => simp [trace]
  | cons input inputs ih =>
      simp only [trace, List.mem_cons, forall_eq_or_imp, guarded_cons]
      rw [hanswer _ _ hinit, ih (hstep _ _ hinit)]

/-! ## Endless schedules -/

/-- The state after the first `n` inputs of a schedule. -/
def after (step : State → Input → State × Output) (state : State) (schedule : ℕ → Input) :
    ℕ → State
  | 0 => state
  | n + 1 => (step (after step state schedule n) (schedule n)).1

theorem invariant_after {Inv : State → Prop}
    (hstep : ∀ state input, Inv state → guard state input → Inv (step state input).1)
    {state : State} {schedule : ℕ → Input} (hinit : Inv state)
    (hguard : ∀ n, guard (after step state schedule n) (schedule n)) (n : ℕ) :
    Inv (after step state schedule n) := by
  induction n with
  | zero => exact hinit
  | succ n ih => exact hstep _ _ ih (hguard n)

/-- The progress rule: helpful inputs lower a well-founded rank until the goal
holds, the others leave it alone, and a helpful one always comes again. -/
theorem eventually_of_rank {Rank : Type*} {lower : Rank → Rank → Prop} (hwf : WellFounded lower)
    (rank : State → Rank) {Inv Goal : State → Prop} {helpful : Input → Prop}
    (hstep : ∀ state input, Inv state → guard state input → Inv (step state input).1)
    (hidle : ∀ state input, Inv state → guard state input → ¬ helpful input →
      rank (step state input).1 = rank state)
    (hhelpful : ∀ state input, Inv state → guard state input → helpful input →
      Goal state ∨ lower (rank (step state input).1) (rank state))
    {state : State} {schedule : ℕ → Input} (hinit : Inv state)
    (hguard : ∀ n, guard (after step state schedule n) (schedule n))
    (hfair : ∀ n, ∃ m, n ≤ m ∧ helpful (schedule m)) :
    ∃ n, Goal (after step state schedule n) := by
  classical
  have hinv := invariant_after hstep hinit hguard
  have hreached : ∀ value n, rank (after step state schedule n) = value →
      ∃ k, Goal (after step state schedule k) := by
    intro value
    induction value using hwf.induction with
    | _ value ih =>
        intro n hrank
        have hnext := hfair n
        have hleast := Nat.find_spec hnext
        have hkept : ∀ k, n ≤ k → k ≤ Nat.find hnext →
            rank (after step state schedule k) = value := by
          intro k hk
          induction k, hk using Nat.le_induction with
          | base => exact fun _ => hrank
          | succ k hk ih =>
              intro hbound
              have hbefore : ¬ helpful (schedule k) := fun hearly =>
                Nat.find_min hnext hbound ⟨hk, hearly⟩
              rw [after, hidle _ _ (hinv k) (hguard k) hbefore]
              exact ih (Nat.le_of_succ_le hbound)
        rcases hhelpful _ _ (hinv _) (hguard _) hleast.2 with hgoal | hlower
        · exact ⟨_, hgoal⟩
        · rw [hkept _ hleast.1 (Nat.le_refl _)] at hlower
          exact ih _ hlower (Nat.find hnext + 1) rfl
  exact hreached _ 0 rfl

end LogosRln.Run
