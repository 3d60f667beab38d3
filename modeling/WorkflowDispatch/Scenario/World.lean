import WorkflowDispatch.Batch
import WorkflowDispatch.Scenario.Step
import WorkflowDispatch.Scenario.Table
import WorkflowDispatch.Stub

/-!
# The world of a scenario

The objects that the steps have made so far, the answers of steps, and what is noted of nested
steps. An answer shows a future as it stood when the answer was given.  Scenarios run in one build
of the library, in which two categories are quieter than the others.
-/

namespace WorkflowDispatch.Scenario

/-! ## Objects -/

/-- A handle that follows a script. -/
structure ScriptedHandle where
  /-- The answers still to be given. -/
  script : List Scripted
  options : Option WorkflowOptions
  /-- How many executions were answered without a script. -/
  runs : Nat

/-- A batch that collects a request, or one that follows a script and only notes what it was
given. -/
inductive BatchObject where
  | collecting (b : Batch)
  | recorder (script : List Scripted)

/-- A router or stub, with the interface it was made for. -/
structure OfInterface (α : Type) where
  type : InterfaceType
  object : α

/-- All that the steps have made. -/
structure World where
  declarations : Table (Except Failure Declaration)
  /-- The handles by number, and by label the number of the latest. -/
  handles : List ScriptedHandle
  handleIds : Table HandleId
  /-- The batches by number, and by label the number of the latest. -/
  batches : List BatchObject
  batchIds : Table BatchId
  guards : Table Guard
  stubs : Table (OfInterface Stub)
  routers : Table (OfInterface Router)
  futures : Table ResultFuture
  /-- The futures whose results are supplied later. -/
  promises : Table Nat
  descriptors : Table CachedDescriptor

def World.initial : World :=
  ⟨.empty, [], .empty, [], .empty, .empty, .empty, .empty, .empty, .empty, .empty⟩

/-! ## Build -/

/-- The thresholds of the build: all is logged but for two categories. -/
instance thresholds : LogThresholds where
  overall := LogLevel.trace.number
  own
    | .core => some LogLevel.info.number
    | .config => some LogLevel.warn.number
    | .resolver | .context | .dispatch => none

/-! ## Answers -/

/-- A value as an answer shows it. -/
inductive Shown where
  | value (v : Value)
  /-- A future; one that is not bound has no state. -/
  | future (state : Option FutureState)

/-- What a step answers when it succeeds. -/
inductive Reply where
  | done
  /-- A call without a value. -/
  | nothing
  | flag (b : Bool)
  | text (s : String)
  | number (n : Nat)
  | value (v : Shown)
  | context (c : Context)
  | descriptor (d : Descriptor)
  | target (t : Target)
  /-- A descriptor's interface, and the smallest label under which the same descriptor is known. -/
  | cached (interface : String) (sameAs : Option String)
  | configuration (c : StartSettings)

/-- The end of a step, and the context after it. -/
structure Answer where
  result : Except Failure Reply
  context : Option Context

/-- The mode of a context, and whether it holds an outcome. -/
def contextText (c : Context) : String :=
  c.mode.name ++ if c.held.isSome then "+result" else ""

/-- What the parties of a scenario note in the trace. -/
inductive Note where
  /-- A half was given to a batch that follows a script. -/
  | recorded (batch : BatchId) (call : BatchCall)
  /-- A nested step ended. -/
  | step (label : String) (answer : Answer)

/-- What a step of a scenario does. -/
abbrev Act := Action World Note

/-- What happens in a scenario. -/
abbrev Happening := Event Note

/-! ## Access -/

/-- The state of the objects. -/
def world : Act World := return (← get).outside

def changeWorld (f : World → World) : Act Unit := modify fun s => { s with outside := f s.outside }

/-- Ends a scenario that asks for what is not there. -/
def malformed {α : Type} (reason : String) : Act α := throw (.stuck reason)

/-- The object under a label. -/
def lookUp {α : Type} (t : World → Table α) (label : String) : Act α := do
  match (t (← world)).find? label with
  | some a => return a
  | none => malformed ("nothing is named " ++ label)

/-- The batch under a label, where one is named. -/
def lookUpBatch? (label? : Option String) : Act (Option BatchId) :=
  label?.mapM (lookUp World.batchIds)

/-- A value as it stands now. -/
def shown : Value → Act Shown
  | .future f => do return .future (← Action.futureState f)
  | v => return .value v

/-- The reply that shows a value. -/
def replyValue (v : Value) : Act Reply := do return .value (← shown v)

/-- The reply to a typed call. -/
def replyTyped : Option Value → Act Reply
  | some v => replyValue v
  | none => return .nothing

end WorkflowDispatch.Scenario
