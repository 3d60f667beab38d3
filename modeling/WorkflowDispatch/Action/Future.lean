import WorkflowDispatch.Action.Basic

/-!
# Actions on futures

Futures are numbered in the order in which they are made.  Waiting for a future gives its result
each time; a computation that was put off is carried out at the first wait only.
-/

namespace WorkflowDispatch

/-- How far a future has come. -/
inductive FutureStatus where
  | ready
  | timeout
  | deferred
  deriving DecidableEq, Repr

def FutureStatus.name : FutureStatus → String
  | .ready => "ready"
  | .timeout => "timeout"
  | .deferred => "deferred"

/-- How far a future has come when a wait for it ends. -/
def FutureState.status : FutureState → FutureStatus
  | .ready _ => .ready
  | .pending => .timeout
  | .deferred _ => .deferred

namespace Action

variable {σ ν : Type}

/-- A new future. -/
def newFuture (state : FutureState) : Action σ ν FutureRef := do
  let s ← get
  set { s with futures := s.futures ++ [state] }
  return ⟨some s.futures.length⟩

/-- Replaces what stands behind a future. -/
def setFuture (cell : Nat) (state : FutureState) : Action σ ν Unit :=
  modify fun s => { s with futures := s.futures.set cell state }

/-- What stands behind a future; nothing when it is not bound. -/
def futureState (f : FutureRef) : Action σ ν (Option FutureState) := do
  let futures := (← get).futures
  return f.cell?.bind fun cell => futures[cell]?

/-- Waits for the result of a future. -/
def await (f : FutureRef) : Action σ ν Value := do
  match ← futureState f with
  | some (.ready result) => ofResult result
  | some (.deferred result) =>
    record .deferred
    if let some cell := f.cell? then
      setFuture cell (.ready result)
    ofResult result
  | some .pending => throw (.stuck "the result of the future is never supplied")
  | none => throw (.stuck "the future is bound to no result")

end Action

end WorkflowDispatch
