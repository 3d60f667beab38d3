import WorkflowDispatch.Scenario.Perform

/-!
# Running a scenario

Each step of a scenario is carried out whatever the steps before it did.  In a body a step that
fails ends the body, unless it is an attempt.  No step is carried out twice, so the number of all
steps bounds how deep bodies can nest.
-/

namespace WorkflowDispatch.Scenario

/-- The result of an ending, if the run can go on. -/
def resultOf : Ending Reply → Act (Except Failure Reply)
  | .ok reply => return .ok reply
  | .error (.thrown failure) => return .error failure
  | .error stop => throw stop

/-- Carries out the steps of a body, `depth` bodies deep at most. -/
def runBody : Nat → List Step → Act Unit
  | 0, _ => malformed "the bodies nest too deep"
  | depth + 1, steps => steps.forM fun step => do
    let result ← resultOf (← Action.observe (step.perform (runBody depth)))
    Action.record (.note (.step step.label ⟨result, ← Action.context⟩))
    if let .error failure := result then
      unless step.isAttempt do
        Action.fail failure

/-- What a step of a scenario answered, and what happened meanwhile. -/
structure Report where
  answer : Answer
  happened : List Happening

/-- Carries out the steps of a scenario, one report for each. -/
def runSteps (depth : Nat) (steps : List Step) : Act (List Report) :=
  steps.mapM fun step => do
    modify fun s => { s with trace := [] }
    let result ← resultOf (← Action.observe (step.perform (runBody depth)))
    return ⟨⟨result, ← Action.context⟩, (← get).emitted⟩

/-- Runs a scenario from the beginning. -/
def run (steps : List Step) : Ending (List Report) :=
  (Action.runFrom (runSteps (Step.weights steps) steps) (.initial .initial)).1

end WorkflowDispatch.Scenario
