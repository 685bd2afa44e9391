import LogosRln.Core.Run

/-!
# Simulation

One machine explains another when every admissible step of the second, read as a
step of the first, keeps the two states related and is answered alike.  Then every
admissible run is explained too: it ends related and was answered alike throughout.
-/

namespace LogosRln.Run

variable {State Input Output Model Meaning View : Type*}

/-- The inputs of a run, each by its meaning to the state that received it. -/
def meanings (step : State → Input → State × Output) (meaning : State → Input → Meaning)
    (state : State) (inputs : List Input) : List Meaning :=
  (trace step state inputs).map fun event => meaning event.before event.input

/-- The answers of a run, as far as they can be seen. -/
def views (step : State → Input → State × Output) (view : Input → Output → View)
    (state : State) (inputs : List Input) : List View :=
  (trace step state inputs).map fun event => view event.input event.output

theorem meanings_cons (step : State → Input → State × Output) (meaning : State → Input → Meaning)
    (state : State) (input : Input) (inputs : List Input) :
    meanings step meaning state (input :: inputs) =
      meaning state input :: meanings step meaning (step state input).1 inputs := rfl

theorem views_cons (step : State → Input → State × Output) (view : Input → Output → View)
    (state : State) (input : Input) (inputs : List Input) :
    views step view state (input :: inputs) =
      view input (step state input).2 :: views step view (step state input).1 inputs := rfl

/-- The simulation rule: what explains each admissible step explains each
admissible run. -/
theorem simulation_run {step : State → Input → State × Output} {guard : State → Input → Prop}
    {modelStep : Model → Meaning → Model × View} {meaning : State → Input → Meaning}
    {view : Input → Output → View} {Related : State → Model → Prop}
    (hstep : ∀ state model input, Related state model → guard state input →
      Related (step state input).1 (modelStep model (meaning state input)).1 ∧
        (modelStep model (meaning state input)).2 = view input (step state input).2)
    {state : State} {model : Model} {inputs : List Input} (hinit : Related state model)
    (hrun : Guarded step guard state inputs) :
    Related (run step state inputs) (run modelStep model (meanings step meaning state inputs)) ∧
      views modelStep (fun _ output => output) model (meanings step meaning state inputs) =
        views step view state inputs := by
  induction inputs generalizing state model with
  | nil => exact ⟨hinit, rfl⟩
  | cons input inputs ih =>
      obtain ⟨hnext, hanswer⟩ := hstep state model input hinit hrun.1
      obtain ⟨hend, hanswers⟩ := ih hnext hrun.2
      simp only [meanings_cons, views_cons, run_cons]
      exact ⟨hend, by rw [hanswer, hanswers]⟩

end LogosRln.Run
