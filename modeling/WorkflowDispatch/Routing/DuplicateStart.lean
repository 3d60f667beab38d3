import WorkflowDispatch.Action.Basic

/-!
# Duplicate starts

Starting a workflow ahead of waiting for its result.  A start that collides with a running
execution attaches to it, unless the options of the handle allow duplicates: then the collision is
an error like any other.
-/

namespace WorkflowDispatch

/-- How a start went. -/
inductive StartResult where
  /-- The handle took the request. -/
  | started
  /-- A running execution is used. -/
  | attached
  deriving DecidableEq, Repr

def StartResult.name : StartResult → String
  | .started => "Started"
  | .attached => "AttachedToExisting"

variable {σ ν : Type}

/-- Whether the options of a handle permit a second start. -/
def permitsDuplicateStart : Option WorkflowOptions → Bool
  | some options => options.reusePolicyInForce == .allowDuplicate
  | none => false

/-- Starts, or attaches to the execution that is running already. -/
def startOrAttach (c : Collaborators σ ν) (h : HandleId) (args : List Value) :
    Action σ ν StartResult := do
  match ← Action.observe (Action.callHandle c h (.start args)) with
  | .ok _ => return .started
  | .error (.thrown failure) =>
    if failure.isOfKind .duplicateWorkflow then
      if permitsDuplicateStart (← Action.callHandle c h .getOptions) then
        Action.fail failure
      else
        Action.log .dispatch .info ("duplicate start suppressed: " ++ failure.visible?.getD "")
        return .attached
    else
      Action.fail failure
  | .error stop => throw stop

end WorkflowDispatch
