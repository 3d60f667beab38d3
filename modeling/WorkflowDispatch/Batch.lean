import WorkflowDispatch.Guard

/-!
# Signal-with-start batches

A batch collects a start and a signal for one handle, each at most once, and sends the two in one
request.  The first half that is recorded decides the handle.

    (b.record call).1 = .ok () ↔
      (b.handle = none ∨ b.handle = some call.handle) ∧ b.hasRoomFor call = true    (record_ok_iff)
-/

namespace WorkflowDispatch

/-- What was recorded so far. -/
structure Batch where
  handle : Option HandleId
  startArgs : Option (List Value)
  /-- The name and the arguments of the signal. -/
  signal : Option (String × List Value)
  deriving DecidableEq, Repr

/-- Why a half is not recorded, or a batch not sent. -/
inductive BatchError where
  | differentHandle
  | secondStart
  | secondSignal (name : String)
  | incomplete
  deriving DecidableEq, Repr

instance : Cause BatchError where
  kind _ := .invalidState
  message
    | .differentHandle => "signal-with-start batch used with different workflow stubs"
    | .secondStart => "duplicate workflow method call in signal-with-start batch"
    | .secondSignal name => "duplicate signal call in signal-with-start batch: " ++ name
    | .incomplete =>
      "signal-with-start batch needs both a workflow method call and a signal call"

/-- The handle that a half is for. -/
def BatchCall.handle : BatchCall → HandleId
  | .start h _ => h
  | .signal h _ _ => h

/-- Why a half is not recorded a second time. -/
def BatchCall.repeated : BatchCall → BatchError
  | .start .. => .secondStart
  | .signal _ name _ => .secondSignal name

namespace Batch

def empty : Batch := ⟨none, none, none⟩

/-- The batch with the handle of its first half. -/
def bind (b : Batch) (h : HandleId) : Except BatchError Batch :=
  match b.handle with
  | none => .ok { b with handle := some h }
  | some bound => if bound = h then .ok b else .error .differentHandle

/-- Whether the half that a call would fill is still empty. -/
def hasRoomFor (b : Batch) : BatchCall → Bool
  | .start .. => b.startArgs.isNone
  | .signal .. => b.signal.isNone

/-- Fills the half that a call is for. -/
def fill (b : Batch) : BatchCall → Batch
  | .start _ args => { b with startArgs := some args }
  | .signal _ name args => { b with signal := some (name, args) }

/-- Records a half: whether it was taken, and the batch after it. -/
def record (b : Batch) (call : BatchCall) : Except BatchError Unit × Batch :=
  match b.bind call.handle with
  | .error e => (.error e, b)
  | .ok bound =>
    if bound.hasRoomFor call then (.ok (), bound.fill call) else (.error call.repeated, bound)

/-- The one request that sends both halves. -/
structure Request where
  handle : HandleId
  name : String
  signalArgs : List Value
  startArgs : List Value
  deriving DecidableEq, Repr

/-- The request of a batch with both halves. -/
def request (b : Batch) : Except BatchError Request :=
  match b.handle, b.startArgs, b.signal with
  | some h, some startArgs, some (name, signalArgs) => .ok ⟨h, name, signalArgs, startArgs⟩
  | _, _, _ => .error .incomplete

variable {σ ν α : Type}

/-- Sends the request of a batch. -/
def send (c : Collaborators σ ν) (b : Batch) : Action σ ν Execution := do
  let r ← Action.expect b.request
  Action.log .dispatch .debug ("signalWithStart '" ++ r.name ++ "'")
  Action.callHandle c r.handle (.signalWithStart r.name r.signalArgs r.startArgs)

/-- Carries an action out with its calls recorded into a batch. -/
def recording (batch : BatchId) (body : Action σ ν α) : Action σ ν α :=
  Guard.within .signalWithStart (some batch) body

/-! ## Lemmas -/

theorem bind_eq_ok_iff (b b' : Batch) (h : HandleId) :
    b.bind h = .ok b' ↔
      (b.handle = none ∨ b.handle = some h) ∧ b' = { b with handle := some h } := by
  obtain ⟨handle, startArgs, signal⟩ := b
  unfold bind
  cases handle with
  | none => simp [eq_comm]
  | some bound =>
    by_cases hh : bound = h
    · simp [hh, eq_comm]
    · simp [hh]

theorem record_ok_iff (b : Batch) (call : BatchCall) :
    (b.record call).1 = .ok () ↔
      (b.handle = none ∨ b.handle = some call.handle) ∧ b.hasRoomFor call = true := by
  have room : ({ b with handle := some call.handle } : Batch).hasRoomFor call =
      b.hasRoomFor call := by cases call <;> rfl
  unfold record
  cases hb : b.bind call.handle with
  | error e =>
    have := bind_eq_ok_iff b { b with handle := some call.handle } call.handle
    simp_all
  | ok bound =>
    obtain ⟨fits, rfl⟩ := (bind_eq_ok_iff b bound call.handle).1 hb
    cases hr : b.hasRoomFor call <;> simp [room, hr, fits]

end Batch

end WorkflowDispatch
