import WorkflowDispatch.Action.Future

/-!
# Futures of a result

A future together with the type that its value is expected to have.
-/

namespace WorkflowDispatch

/-- A future whose value is to be of one type. -/
structure ResultFuture where
  type : ValueType
  future : FutureRef
  deriving DecidableEq, Repr

/-- Why a result cannot be had. -/
inductive ResultFutureError where
  | unbound
  | wrongType (expected : ValueType)
  deriving DecidableEq, Repr

instance : Cause ResultFutureError where
  kind
    | .unbound => .invalidState
    | .wrongType _ => .returnTypeMismatch
  message
    | .unbound => "workflow result future has no shared state"
    | .wrongType expected => "workflow result is not a " ++ expected.name

namespace ResultFuture

variable {σ ν : Type}

/-- A future that is bound to no result. -/
def unbound (type : ValueType) : ResultFuture := ⟨type, .unbound⟩

def isValid (f : ResultFuture) : Bool := f.future.isBound

/-- The value as the type of the future has it: none when nothing is expected. -/
def check (f : ResultFuture) (v : Value) : Except ResultFutureError (Option Value) :=
  if f.type.isVoid then .ok none
  else if v.hasType f.type then .ok (some v)
  else .error (.wrongType f.type)

/-- Waits for the value and checks its type. -/
def get (f : ResultFuture) : Action σ ν (Option Value) :=
  if f.isValid then do
    Action.expect (f.check (← Action.await f.future))
  else Action.refuse ResultFutureError.unbound

/-- How far the future has come when a wait for it ends. -/
def status (f : ResultFuture) : Action σ ν FutureStatus := do
  match ← Action.futureState f.future with
  | some state => return state.status
  | none => throw (.stuck "the future is bound to no result")

end ResultFuture

end WorkflowDispatch
