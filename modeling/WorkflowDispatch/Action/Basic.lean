import WorkflowDispatch.Call.Outgoing
import WorkflowDispatch.Interface.Cache
import WorkflowDispatch.Log.Statement

/-!
# Actions

What a thread does: it changes the state, leaves a trace of what it asked of others and of the log
statements it made, and ends with a value or stops.  A stopped action keeps the state it reached.
Handles, batches and declarations are collaborators: arbitrary actions, which may in turn make
calls.  `σ` is the state of the collaborators, `ν` what they note in the trace.  The trace is the
same for every build of the library; which of its log statements go out is for the thresholds of
the build to say.

    runFrom (x >>= f) s = runFrom (f v) s'  where  runFrom x s = (.ok v, s')     (runFrom_bind)
    runFrom (observe x) s = (.ok (runFrom x s).1, (runFrom x s).2)              (runFrom_observe)
-/

namespace WorkflowDispatch

/-! ## State -/

/-- Something that happened. -/
inductive Event (ν : Type) where
  /-- A log statement was made. -/
  | log (line : LogLine)
  /-- The declaration of an interface was asked for. -/
  | declare (type : InterfaceType)
  | handleCall (handle : HandleId) (call : HandleCall)
  | batchCall (batch : BatchId) (call : BatchCall)
  /-- The computation behind a future was carried out. -/
  | deferred
  /-- A note of a collaborator. -/
  | note (n : ν)

/-- The line of a log statement. -/
def Event.line? {ν : Type} : Event ν → Option LogLine
  | .log line => some line
  | .declare _ | .handleCall .. | .batchCall .. | .deferred | .note _ => none

/-- Whether others get to know of the event: a log statement goes out where the build logs it. -/
def Event.goesOut {ν : Type} [LogThresholds] : Event ν → Bool
  | .log line => line.level.enabledFor line.category
  | .declare _ | .handleCall .. | .batchCall .. | .deferred | .note _ => true

/-- What stands behind a bound future. -/
inductive FutureState where
  | ready (result : Except Failure Value)
  /-- The result has yet to be supplied. -/
  | pending
  /-- The result is computed when it is first asked for. -/
  | deferred (result : Except Failure Value)

/-- What an action can read and change. -/
structure State (σ ν : Type) where
  /-- The context of the thread. -/
  context : Option Context
  cache : Cache
  /-- The futures by number. -/
  futures : List FutureState
  /-- What happened so far, the earliest first. -/
  trace : List (Event ν)
  /-- The state of the collaborators. -/
  outside : σ

/-- No context, nothing cached, nothing happened. -/
def State.initial {σ ν : Type} (outside : σ) : State σ ν := ⟨none, .empty, [], [], outside⟩

/-- What happened, without the log statements that the build leaves out. -/
def State.emitted {σ ν : Type} [LogThresholds] (s : State σ ν) : List (Event ν) :=
  s.trace.filter Event.goesOut

/-! ## Actions -/

/-- Why an action ended without a value. -/
inductive Stop where
  | thrown (failure : Failure)
  /-- An assumption of the library was found broken. -/
  | aborted (error : WorkflowError)
  /-- The action waits for something that never comes. -/
  | stuck (reason : String)
  deriving DecidableEq, Repr

/-- How an action ended. -/
abbrev Ending (α : Type) := Except Stop α

abbrev Action (σ ν α : Type) := ExceptT Stop (StateM (State σ ν)) α

/-- The parties that the library calls. -/
structure Collaborators (σ ν : Type) where
  handle : HandleId → (call : HandleCall) → Action σ ν call.Answer
  batch : BatchId → BatchCall → Action σ ν Unit
  declare : InterfaceType → Action σ ν Declaration

namespace Action

variable {σ ν α β : Type}

/-- How an action ends that begins in `s`, and the state it reaches. -/
def runFrom (x : Action σ ν α) (s : State σ ν) : Ending α × State σ ν := x.run.run s

/-! ## Failing -/

/-- Throws a failure. -/
def fail (f : Failure) : Action σ ν α := throw (.thrown f)

/-- Throws the failure that reports a cause. -/
def refuse {ε : Type} [Cause ε] (cause : ε) : Action σ ν α := fail (Cause.toFailure cause)

/-- Ends everything. -/
def abort (e : WorkflowError) : Action σ ν α := throw (.aborted e)

/-- The value, or the failure thrown. -/
def ofResult : Except Failure α → Action σ ν α
  | .ok v => pure v
  | .error f => fail f

/-- The value, or the cause thrown. -/
def expect {ε : Type} [Cause ε] (x : Except ε α) : Action σ ν α :=
  ofResult (x.mapError Cause.toFailure)

/-- Carries the action out and shows how it ended. -/
def observe (x : Action σ ν α) : Action σ ν (Ending α) :=
  ExceptT.mk do return .ok (← x.run)

/-- Ends as told. -/
def conclude (ending : Ending α) : Action σ ν α := ExceptT.mk (pure ending)

/-! ## Trace -/

/-- Adds to the trace. -/
def record (e : Event ν) : Action σ ν Unit := modify fun s => { s with trace := s.trace ++ [e] }

/-- Makes a log statement. -/
def log (category : LogCategory) (level : LogLevel) (message : String) : Action σ ν Unit :=
  record (.log ⟨category, level, message⟩)

/-- Ends everything when an assumption does not hold. -/
def require (holds : Bool) (message : String) : Action σ ν Unit :=
  if holds then pure ()
  else do
    log .core .critical message
    abort (.ofKind .invalidState message)

/-! ## Collaborators -/

/-- Calls a handle. -/
def callHandle (c : Collaborators σ ν) (h : HandleId) (call : HandleCall) :
    Action σ ν call.Answer := do
  record (.handleCall h call)
  c.handle h call

/-- Records into a batch. -/
def callBatch (c : Collaborators σ ν) (b : BatchId) (call : BatchCall) : Action σ ν Unit := do
  record (.batchCall b call)
  c.batch b call

/-- Asks for the declaration of an interface. -/
def askDeclaration (c : Collaborators σ ν) (type : InterfaceType) : Action σ ν Declaration := do
  record (.declare type)
  c.declare type

/-! ## Lemmas -/

@[simp] theorem runFrom_pure (v : α) (s : State σ ν) :
    runFrom (pure v : Action σ ν α) s = (.ok v, s) := rfl

theorem runFrom_bind (x : Action σ ν α) (f : α → Action σ ν β) (s : State σ ν) :
    runFrom (x >>= f) s =
      match runFrom x s with
      | (.ok v, s') => runFrom (f v) s'
      | (.error stop, s') => (.error stop, s') := by
  unfold runFrom
  rw [ExceptT.run_bind, StateT.run_bind]
  generalize x.run.run s = r
  obtain ⟨ending, s'⟩ := r
  cases ending <;> rfl

@[simp] theorem runFrom_throw (stop : Stop) (s : State σ ν) :
    runFrom (throw stop : Action σ ν α) s = (.error stop, s) := rfl

@[simp] theorem runFrom_fail (f : Failure) (s : State σ ν) :
    runFrom (fail f : Action σ ν α) s = (.error (.thrown f), s) := rfl

@[simp] theorem runFrom_refuse {ε : Type} [Cause ε] (cause : ε) (s : State σ ν) :
    runFrom (refuse cause : Action σ ν α) s = (.error (.thrown (Cause.toFailure cause)), s) := rfl

@[simp] theorem runFrom_ofResult_ok (v : α) (s : State σ ν) :
    runFrom (ofResult (.ok v) : Action σ ν α) s = (.ok v, s) := rfl

@[simp] theorem runFrom_ofResult_error (f : Failure) (s : State σ ν) :
    runFrom (ofResult (.error f) : Action σ ν α) s = (.error (.thrown f), s) := rfl

@[simp] theorem runFrom_observe (x : Action σ ν α) (s : State σ ν) :
    runFrom (observe x) s = (.ok (runFrom x s).1, (runFrom x s).2) := rfl

@[simp] theorem runFrom_conclude (ending : Ending α) (s : State σ ν) :
    runFrom (conclude ending : Action σ ν α) s = (ending, s) := rfl

@[simp] theorem runFrom_record (e : Event ν) (s : State σ ν) :
    runFrom (record e : Action σ ν Unit) s = (.ok (), { s with trace := s.trace ++ [e] }) := rfl

@[simp] theorem runFrom_log (category : LogCategory) (level : LogLevel) (message : String)
    (s : State σ ν) :
    runFrom (log category level message : Action σ ν Unit) s =
      (.ok (), { s with trace := s.trace ++ [.log ⟨category, level, message⟩] }) := rfl

theorem runFrom_callHandle (c : Collaborators σ ν) (h : HandleId) (call : HandleCall)
    (s : State σ ν) :
    runFrom (callHandle c h call) s =
      runFrom (c.handle h call) { s with trace := s.trace ++ [.handleCall h call] } := rfl

theorem runFrom_callBatch (c : Collaborators σ ν) (b : BatchId) (call : BatchCall)
    (s : State σ ν) :
    runFrom (callBatch c b call) s =
      runFrom (c.batch b call) { s with trace := s.trace ++ [.batchCall b call] } := rfl

end Action

end WorkflowDispatch
