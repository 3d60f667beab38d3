import WorkflowDispatch.Error.Failure
import WorkflowDispatch.Call.Mode
import WorkflowDispatch.Value

/-!
# Invocation contexts

A thread has at most one context.  It holds the mode of the calls made in it, the batch they are
recorded into when the mode asks for one, and the outcome of the last call.

    Context.enter? current mode batch = .ok c →
      current = none ∧ (c.batch.isSome ↔ c.mode = .signalWithStart) ∧ c.held = none
                                                                            (of_enter?_eq_ok)
-/

namespace WorkflowDispatch

/-- Which batch; the label is for reports. -/
structure BatchId where
  serial : Nat
  label : String
  deriving DecidableEq, Repr

/-- The circumstances of the calls that a thread makes. -/
structure Context where
  mode : Mode
  batch : Option BatchId
  /-- The outcome of the last call, once there is one. -/
  held : Option Value
  deriving DecidableEq, Repr

/-- Why a context cannot be entered or has no outcome to show. -/
inductive ContextError where
  /-- A context is active already. -/
  | alreadyActive (entering active : Mode)
  /-- The mode needs a batch. -/
  | batchMissing
  /-- The mode takes no batch. -/
  | batchRefused
  /-- The mode produces no outcome. -/
  | noOutcomeExpected
  /-- No call was made yet. -/
  | nothingDispatched (mode : Mode)
  /-- No context is active. -/
  | noContext
  /-- The outcome is of another type. -/
  | wrongType (asked : ValueType)
  deriving DecidableEq, Repr

instance : Cause ContextError where
  kind
    | .alreadyActive .. => .reentrancy
    | .batchMissing | .batchRefused => .invalidArgument
    | .noOutcomeExpected | .nothingDispatched _ | .wrongType _ => .invalidState
    | .noContext => .noActiveContext
  message
    | .alreadyActive entering active =>
      "cannot enter " ++ entering.name ++ ": a " ++ active.name ++
        " context is already active on this thread"
    | .batchMissing => "SignalWithStart requires a batch"
    | .batchRefused => "a batch is only accepted in SignalWithStart mode"
    | .noOutcomeExpected => "no result is expected from a signal-with-start batch call"
    | .nothingDispatched mode =>
      "no call has been dispatched in the current " ++ mode.name ++ " context"
    | .noContext => "invocation result requested outside of an invocation context"
    | .wrongType asked => "invocation result is not of the requested type " ++ asked.name

namespace Context

/-- The context that is entered, when none is active and the batch fits the mode. -/
def enter? (current : Option Context) (mode : Mode) (batch : Option BatchId) :
    Except ContextError Context :=
  match current with
  | some active => .error (.alreadyActive mode active.mode)
  | none =>
    if mode = .signalWithStart then
      if batch.isSome then .ok ⟨mode, batch, none⟩ else .error .batchMissing
    else
      if batch.isSome then .error .batchRefused else .ok ⟨mode, none, none⟩

/-- The outcome of the last call. -/
def outcome (c : Context) : Except ContextError Value :=
  if c.mode = .signalWithStart then .error .noOutcomeExpected
  else match c.held with
    | some v => .ok v
    | none => .error (.nothingDispatched c.mode)

def forgetOutcome (c : Context) : Context := { c with held := none }

def keepOutcome (v : Value) (c : Context) : Context := { c with held := some v }

/-- The mode of calls: without a context they are carried out at once. -/
def modeOf (current : Option Context) : Mode :=
  match current with
  | some c => c.mode
  | none => .sync

/-- The outcome in the current context. -/
def currentOutcome (current : Option Context) : Except ContextError Value :=
  match current with
  | some c => c.outcome
  | none => .error .noContext

/-- The outcome in the current context, if it is of the type asked for. -/
def currentOutcomeAs (current : Option Context) (type : ValueType) : Except ContextError Value := do
  let v ← currentOutcome current
  if v.hasType type then return v else throw (.wrongType type)

/-! ## Lemmas -/

theorem of_enter?_eq_ok {current : Option Context} {mode : Mode} {batch : Option BatchId}
    {c : Context} (h : enter? current mode batch = .ok c) :
    current = none ∧ (c.batch.isSome ↔ c.mode = .signalWithStart) ∧ c.held = none := by
  unfold enter? at h
  split at h
  · simp at h
  · split at h <;> split at h <;> simp_all <;> subst h <;> simp_all

end Context

end WorkflowDispatch
