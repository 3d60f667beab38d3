import WorkflowDispatch.Action.Context
import WorkflowDispatch.Routing.DuplicateStart
import WorkflowDispatch.Routing.Target

/-!
# Routing calls

A call of a method is carried out by the role of the method and the mode of the thread's context.

                entry point               signal            query
    Sync        start, then the result    signal            query
    Start       start                     refused           refused
    Execute     start, then a future      refused           refused
    batch       recorded                  recorded          refused

Outside a context a call is a Sync call whose outcome is not kept.  Within one, the outcome of an
earlier call is forgotten before anything else happens.
-/

namespace WorkflowDispatch

/-! ## Causes of refusal -/

/-- Why a call is not carried out. -/
inductive RoutingError where
  | noDescriptor
  | undeclared (description : String)
  | noRole (method : String)
  /-- A signal that is declared to return something. -/
  | signalReturns (method : String)
  /-- A query that is declared to return nothing. -/
  | queryReturnsNothing (method : String)
  /-- The mode takes the entry point only. -/
  | entryPointOnly (mode : Mode) (role : Role) (method : String)
  /-- A query cannot be recorded. -/
  | queryInBatch (method : String)
  deriving DecidableEq, Repr

instance : Cause RoutingError where
  kind
    | .noDescriptor => .invalidArgument
    | .undeclared _ => .invalidTarget
    | .noRole _ => .unknownMethod
    | .signalReturns _ | .queryReturnsNothing _ => .returnTypeMismatch
    | .entryPointOnly .. => .unsupportedInMode
    | .queryInBatch _ => .unsupportedInBatch
  message
    | .noDescriptor => "router requires an interface descriptor"
    | .undeclared description => description
    | .noRole method => method ++ " has no WorkflowMethod, SignalMethod or QueryMethod marker"
    | .signalReturns method => "signal method must return void: " ++ method
    | .queryReturnsNothing method => "query method cannot return void: " ++ method
    | .entryPointOnly mode role method =>
      mode.name ++ " accepts only the workflow method, not " ++ role.name ++ " " ++ method
    | .queryInBatch method =>
      "signal-with-start batch does not accept query method " ++ method

/-! ## Calls by mode -/

/-- A call on its way: the handle, the method and the arguments. -/
structure RoutedCall where
  handle : HandleId
  /-- The method with its interface, for reports. -/
  method : String
  resolved : ResolvedRole
  returns : ValueType
  args : List Value
  deriving DecidableEq, Repr

namespace RoutedCall

variable {σ ν : Type}

/-- Carries the call out and gives its value. -/
def carryOut (c : Collaborators σ ν) (r : RoutedCall) : Action σ ν Value :=
  match r.resolved.role with
  | .entryPoint => do
    let _ ← startOrAttach c r.handle r.args
    Action.callHandle c r.handle (.getResult r.returns)
  | .signal =>
    if r.returns.isVoid then do
      Action.callHandle c r.handle (.signal r.resolved.name r.args)
      return .empty
    else Action.refuse (RoutingError.signalReturns r.method)
  | .query =>
    if r.returns.isVoid then Action.refuse (RoutingError.queryReturnsNothing r.method)
    else Action.callHandle c r.handle (.query r.resolved.name r.returns r.args)

/-- Refuses every role but the entry point. -/
def onlyEntryPoint (r : RoutedCall) (mode : Mode) : Action σ ν Unit :=
  if r.resolved.role = .entryPoint then pure ()
  else Action.refuse (RoutingError.entryPointOnly mode r.resolved.role r.method)

/-- Starts the workflow and gives its execution. -/
def startOnly (c : Collaborators σ ν) (r : RoutedCall) : Action σ ν Value := do
  r.onlyEntryPoint .start
  return .execution (← Action.callHandle c r.handle (.start r.args))

/-- Starts the workflow and gives a future of its result. -/
def startForFuture (c : Collaborators σ ν) (r : RoutedCall) : Action σ ν Value := do
  r.onlyEntryPoint .execute
  let _ ← startOrAttach c r.handle r.args
  return .future (← Action.callHandle c r.handle (.getResultAsync r.returns))

/-- Records the call into the batch. -/
def recordInBatch (c : Collaborators σ ν) (r : RoutedCall) (batch? : Option BatchId) :
    Action σ ν Unit := do
  Action.require batch?.isSome "SignalWithStart context without a batch"
  if let some batch := batch? then
    match r.resolved.role with
    | .entryPoint => Action.callBatch c batch (.start r.handle r.args)
    | .signal => Action.callBatch c batch (.signal r.handle r.resolved.name r.args)
    | .query => Action.refuse (RoutingError.queryInBatch r.method)

/-- Holds the outcome in the context that the call was made in, if there was one. -/
def keep (context? : Option Context) (outcome : Value) : Action σ ν Unit :=
  if context?.isSome then Action.keepOutcome outcome else pure ()

/-- Makes the call in a context, or without one.  A Sync call gives its own value, which its context
then holds; the outcome of a call in another mode is found in the context only. -/
def make (c : Collaborators σ ν) (r : RoutedCall) (context? : Option Context) :
    Action σ ν Value :=
  match Context.modeOf context? with
  | .sync => do
    let v ← r.carryOut c
    keep context? v
    return v
  | .start => do
    keep context? (← r.startOnly c)
    return .empty
  | .execute => do
    keep context? (← r.startForFuture c)
    return .empty
  | .signalWithStart => do
    r.recordInBatch c (context?.bind Context.batch)
    return .empty

/-- What is logged of a call. -/
def summary (r : RoutedCall) (mode : Mode) : String :=
  mode.name ++ " " ++ r.resolved.role.name ++ " '" ++ r.resolved.name ++ "' (" ++ r.method ++ ")"

end RoutedCall

/-! ## Routers -/

/-- The call of the method at an index of an interface. -/
def Descriptor.routedCall (d : Descriptor) (h : HandleId) (index : Nat) (args : List Value) :
    Except WorkflowError RoutedCall :=
  match d.method index with
  | .error cause => .error (Cause.toError cause)
  | .ok entry =>
    match entry.resolved with
    | none => .error (Cause.toError (RoutingError.noRole (d.qualified entry)))
    | some resolved => .ok ⟨h, d.qualified entry, resolved, entry.returns, args⟩

/-- Turns calls of one interface into requests to handles and batches. -/
structure Router where
  descriptor : Descriptor
  deriving DecidableEq, Repr

namespace Router

variable {σ ν : Type}

/-- A router needs a descriptor. -/
def ofDescriptor? : Option Descriptor → Except RoutingError Router
  | some d => .ok ⟨d⟩
  | none => .error .noDescriptor

/-- Calls the method at an index. -/
def routeMethod (c : Collaborators σ ν) (router : Router) (h : HandleId) (index : Nat)
    (args : List Value) : Action σ ν Value := do
  let context? ← Action.context
  Action.forgetOutcome
  let r ← Action.ofResult
    ((router.descriptor.routedCall h index args).mapError WorkflowError.toFailure)
  Action.log .dispatch .debug (r.summary (Context.modeOf context?))
  r.make c context?

/-- Makes one call. -/
def route (c : Collaborators σ ν) (router : Router) (h : HandleId) (target : Target)
    (args : List Value) : Action σ ν Value :=
  match target with
  | .reserved question => pure (question.answer h)
  | .undeclared description => Action.refuse (RoutingError.undeclared description)
  | .method index => routeMethod c router h index args

end Router

end WorkflowDispatch
