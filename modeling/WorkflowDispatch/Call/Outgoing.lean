import WorkflowDispatch.Call.Context
import WorkflowDispatch.Options.Workflow

/-!
# Calls to collaborators

What is asked of a workflow handle and of a batch, and the type of each answer.
-/

namespace WorkflowDispatch

/-- A request to a workflow handle. -/
inductive HandleCall where
  /-- Ask for a new execution without waiting for its end. -/
  | start (args : List Value)
  | signal (name : String) (args : List Value)
  | query (name : String) (type : ValueType) (args : List Value)
  /-- Wait for the result. -/
  | getResult (type : ValueType)
  /-- Ask for a future of the result. -/
  | getResultAsync (type : ValueType)
  /-- Start the execution if need be, and signal it, in one request. -/
  | signalWithStart (name : String) (signalArgs startArgs : List Value)
  | getOptions
  deriving DecidableEq, Repr

/-- What the handle answers. -/
@[reducible] def HandleCall.Answer : HandleCall → Type
  | .start _ => Execution
  | .signal .. => Unit
  | .query .. => Value
  | .getResult _ => Value
  | .getResultAsync _ => FutureRef
  | .signalWithStart .. => Execution
  | .getOptions => Option WorkflowOptions

/-- One half of a signal-with-start, recorded into a batch. -/
inductive BatchCall where
  | start (handle : HandleId) (args : List Value)
  | signal (handle : HandleId) (name : String) (args : List Value)
  deriving DecidableEq, Repr

end WorkflowDispatch
