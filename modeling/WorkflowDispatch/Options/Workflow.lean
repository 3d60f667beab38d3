import WorkflowDispatch.Options.ReusePolicy
import WorkflowDispatch.Options.Retry

/-!
# Workflow options

The options with which a workflow is started, every one of them optional.  Layers are merged field
by field, the higher over the lower; retry options of both layers are merged in the same way.
Options are values here: how a file of them is read is not described.
-/

namespace WorkflowDispatch

/-- Options of a start; times are in milliseconds. -/
structure WorkflowOptions where
  workflowId : Option String
  taskQueue : Option String
  reusePolicy : Option ReusePolicy
  retry : Option RetryOptions
  cronSchedule : Option String
  executionTimeout : Option Int
  runTimeout : Option Int
  taskTimeout : Option Int
  deriving DecidableEq, Repr

namespace WorkflowOptions

/-- Nothing is set. -/
def empty : WorkflowOptions := ⟨none, none, none, none, none, none, none, none⟩

/-- Retry options of two layers. -/
def mergeRetry (lower higher : Option RetryOptions) : Option RetryOptions :=
  match lower, higher with
  | some l, some h => some (l.merge h)
  | some l, none => some l
  | none, h => h

/-- `higher` over `lower`. -/
def merge (lower higher : WorkflowOptions) : WorkflowOptions where
  workflowId := layered lower.workflowId higher.workflowId
  taskQueue := layered lower.taskQueue higher.taskQueue
  reusePolicy := layered lower.reusePolicy higher.reusePolicy
  retry := mergeRetry lower.retry higher.retry
  cronSchedule := layered lower.cronSchedule higher.cronSchedule
  executionTimeout := layered lower.executionTimeout higher.executionTimeout
  runTimeout := layered lower.runTimeout higher.runTimeout
  taskTimeout := layered lower.taskTimeout higher.taskTimeout

/-- The layers merged from the lowest up, starting with nothing set. -/
def mergeAll (layers : List WorkflowOptions) : WorkflowOptions := layers.foldl merge empty

/-- The layers merged from the highest down, ending with nothing set. -/
def mergeAllFromTop (layers : List WorkflowOptions) : WorkflowOptions := layers.foldr merge empty

/-- The options after each further layer over `base`. -/
def mergeSteps (base : WorkflowOptions) : List WorkflowOptions → List WorkflowOptions
  | [] => []
  | layer :: rest => base.merge layer :: mergeSteps (base.merge layer) rest

/-- Field by field, with the backoff coefficient compared as a number. -/
def equals (a b : WorkflowOptions) : Bool :=
  a.workflowId == b.workflowId &&
    a.taskQueue == b.taskQueue &&
    a.reusePolicy == b.reusePolicy &&
    equalBy RetryOptions.equals a.retry b.retry &&
    a.cronSchedule == b.cronSchedule &&
    a.executionTimeout == b.executionTimeout &&
    a.runTimeout == b.runTimeout &&
    a.taskTimeout == b.taskTimeout

/-- The policy that applies: one that is not set allows a duplicate after a failure only. -/
def reusePolicyInForce (o : WorkflowOptions) : ReusePolicy :=
  o.reusePolicy.getD .allowDuplicateFailedOnly

end WorkflowOptions

end WorkflowDispatch
