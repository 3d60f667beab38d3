import WorkflowDispatch.Action.Descriptor
import WorkflowDispatch.Guard
import WorkflowDispatch.Interface.StartSettings
import WorkflowDispatch.ResultFuture
import WorkflowDispatch.Routing.Router

/-!
# Stubs

A stub is a handle seen through an interface.  A typed call of a member is an untyped call,
followed by a check of the value in Sync mode; in the other modes it answers a default value, and
the outcome is read from the context.  `start` and `execute` open the context for one call and
return its outcome.
-/

namespace WorkflowDispatch

/-- A handle with the router of the interface it is seen through. -/
structure Stub where
  handle : HandleId
  router : Router
  deriving DecidableEq, Repr

/-- Why a stub cannot be made or a typed call not be answered. -/
inductive StubError where
  | noHandle
  /-- The type of the member has no default value for a call outside Sync mode. -/
  | noDefault
  | wrongType (interface : String)
  deriving DecidableEq, Repr

instance : Cause StubError where
  kind
    | .noHandle => .invalidArgument
    | .noDefault => .invalidState
    | .wrongType _ => .returnTypeMismatch
  message
    | .noHandle => "workflow stub requires a handle"
    | .noDefault =>
      "return type has no default value outside Sync mode; use start() or execute() instead"
    | .wrongType interface => "handle returned a value of the wrong type for " ++ interface

namespace Stub

variable {σ ν : Type}

/-- A stub of the interface of the given type. -/
def make (c : Collaborators σ ν) (type : InterfaceType) (handle? : Option HandleId) :
    Action σ ν Stub := do
  let cached ← Action.descriptorOf c type (some type)
  match handle? with
  | some handle => return ⟨handle, ⟨cached.descriptor⟩⟩
  | none => Action.refuse StubError.noHandle

def descriptor (stub : Stub) : Descriptor := stub.router.descriptor

/-! ## Calls -/

/-- Calls a member and gives the value as it is. -/
def untypedCall (c : Collaborators σ ν) (stub : Stub) (m : Member) (args : List Value) :
    Action σ ν Value :=
  stub.router.route c stub.handle (stub.descriptor.target m) args

/-- Whether a typed call with this type can be answered in the mode: a call that is not carried out
at once has only a default to answer. -/
def answerable (type : ValueType) (mode : Mode) : Bool :=
  mode == .sync || type.isVoid || type.default?.isSome

/-- The answer to a typed call of this type: nothing, the value itself in Sync mode, or a default.
-/
def typedAnswer (stub : Stub) (type : ValueType) (mode : Mode) (v : Value) :
    Except StubError (Option Value) :=
  if type.isVoid then .ok none
  else if mode = .sync then
    if v.hasType type then .ok (some v) else .error (.wrongType stub.descriptor.name)
  else .ok type.default?

/-- Calls a member and gives a value of the member's own type; a void member gives none. -/
def call (c : Collaborators σ ν) (stub : Stub) (m : Member) (args : List Value) :
    Action σ ν (Option Value) := do
  let mode := Context.modeOf (← Action.context)
  if answerable m.signature.returns mode then
    let v ← stub.untypedCall c m args
    Action.expect (stub.typedAnswer m.signature.returns mode v)
  else Action.refuse StubError.noDefault

/-- Answers a question about the stub. -/
def ask (c : Collaborators σ ν) (stub : Stub) (question : Reserved) : Action σ ν Value :=
  stub.router.route c stub.handle (.reserved question) []

/-! ## Calls in a context of their own -/

/-- Starts the workflow without waiting for its result. -/
def start (c : Collaborators σ ν) (stub : Stub) (m : Member) (args : List Value) :
    Action σ ν Value :=
  Guard.within .start none do
    let _ ← stub.untypedCall c m args
    Action.currentOutcomeAs .execution

/-- Starts the workflow, or attaches to it, and gives a future of its result. -/
def execute (c : Collaborators σ ν) (stub : Stub) (m : Member) (args : List Value) :
    Action σ ν ResultFuture :=
  Guard.within .execute none do
    let _ ← stub.untypedCall c m args
    match ← Action.currentOutcomeAs .future with
    | .future f => return ⟨m.signature.returns, f⟩
    | _ => return .unbound m.signature.returns

end Stub

/-- The settings with which a new execution of an interface is started. -/
def newStartSettings {σ ν : Type} (c : Collaborators σ ν) (type : InterfaceType)
    (caller : WorkflowOptions) : Action σ ν StartSettings := do
  let cached ← Action.descriptorOf c type (some type)
  Action.expect (cached.descriptor.startSettings caller)

end WorkflowDispatch
