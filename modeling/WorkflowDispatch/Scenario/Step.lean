import WorkflowDispatch.Scenario.Command

/-!
# Scenario steps

A scenario is a list of steps.  A step is a command, or holds steps itself: the script of a handle
or of a batch, whose answers carry out further steps first; a thread of its own; a body whose
calls are recorded into a batch.
-/

namespace WorkflowDispatch.Scenario

/-! ## Scripts -/

/-- What a script can answer. -/
inductive Operation where
  | start
  | signal
  | query
  | getResult
  | getResultAsync
  | signalWithStart
  | getOptions
  deriving DecidableEq, Repr

/-- The answer to one request. -/
inductive Reaction where
  /-- What the operation answers without a script. -/
  | default
  | returns (v : Value)
  | throws (f : Failure)
  | future (source : FutureSource)

/-! ## Steps -/

mutual

/-- One step of a scenario. -/
inductive Step where
  | command (c : Command)
  /-- A new handle with its script. -/
  | handle (label : String) (script : List Scripted) (options : Option WorkflowOptions)
  /-- A new batch that follows a script. -/
  | recorder (label : String) (script : List Scripted)
  /-- More of the script of a handle. -/
  | script (label : String) (more : List Scripted)
  /-- Steps on a thread of its own. -/
  | thread (body : List Step)
  /-- Steps whose calls are recorded into a batch. -/
  | add (batch : String) (body : List Step)
  /-- A step whose failure does not end the body that it stands in. -/
  | attempt (step : Step)

/-- One answer of a script: the steps it carries out first, and the reaction. -/
inductive Scripted where
  | mk (operation : Operation) (body : List Step) (reaction : Reaction)

end

def Scripted.operation : Scripted → Operation
  | .mk operation _ _ => operation

def Step.label : Step → String
  | .command c => c.label
  | .handle .. => "handle"
  | .recorder .. => "recorder"
  | .script .. => "script"
  | .thread _ => "thread"
  | .add .. => "add"
  | .attempt step => step.label

/-- Whether a failure of the step is kept from the body that it stands in. -/
def Step.isAttempt : Step → Bool
  | .attempt _ => true
  | _ => false

/-! ## Weight -/

mutual

/-- The number of steps in a step, itself and those of its scripts included. -/
def Step.weight : Step → Nat
  | .command _ => 1
  | .handle _ script _ => 1 + Scripted.weights script
  | .recorder _ script => 1 + Scripted.weights script
  | .script _ more => 1 + Scripted.weights more
  | .thread body => 1 + Step.weights body
  | .add _ body => 1 + Step.weights body
  | .attempt step => 1 + step.weight

def Step.weights : List Step → Nat
  | [] => 0
  | step :: rest => step.weight + Step.weights rest

def Scripted.weight : Scripted → Nat
  | .mk _ body _ => 1 + Step.weights body

def Scripted.weights : List Scripted → Nat
  | [] => 0
  | s :: rest => s.weight + Scripted.weights rest

end

end WorkflowDispatch.Scenario
