import WorkflowDispatch.Error.Failure

/-!
# Checks

Throwing under a condition.  The message is an action that runs only when the failure is thrown, so
that building it costs nothing on the way that succeeds.
-/

namespace WorkflowDispatch

variable {m : Type → Type} [Monad m] [MonadExceptOf Failure m]

/-- Throws a failure of the kind `k`. -/
def raise (k : ErrorKind) (message : m String) : m Unit := do
  throw (WorkflowError.ofKind k (← message)).toFailure

def raiseIf (condition : Bool) (k : ErrorKind) (message : m String) : m Unit :=
  if condition then raise k message else pure ()

def raiseUnless (condition : Bool) (k : ErrorKind) (message : m String) : m Unit :=
  raiseIf (!condition) k message

/-- Throws that an argument is invalid when it is missing. -/
def raiseIfMissing {α : Type} (argument : Option α) (message : m String) : m Unit :=
  raiseIf argument.isNone .invalidArgument message

end WorkflowDispatch
