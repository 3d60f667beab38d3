import WorkflowDispatch.Scenario.World

/-!
# Scripted collaborators

How the handles, batches and declarations of a scenario answer.  A request takes the first
scripted answer for its operation: the steps of that answer are carried out, then it throws,
returns what it was given, or falls back to the default answer of the operation.
-/

namespace WorkflowDispatch.Scenario

/-! ## Default answers -/

/-- A value of the type asked for; a text says what it stands for. -/
def defaultValue (type : ValueType) (text : String) : Value :=
  match type with
  | .string => .string text
  | .int => .int 42
  | .bool => .bool true
  | .long => .long 42
  | .receipt => .receipt text
  | .list => .list [text]
  | .void | .execution | .future | .handle | .interface _ => .empty

/-- The next execution that a handle answers without a script. -/
def nextExecution (h : HandleId) : Act Execution := do
  let some handle := (← world).handles[h.serial]? | malformed "a handle is not there"
  let run := handle.runs + 1
  changeWorld fun w =>
    { w with handles := w.handles.set h.serial { handle with runs := run } }
  return ⟨"wf-" ++ h.label, "run-" ++ toString run⟩

/-! ## Scripts -/

/-- The first answer for an operation, and the script without it. -/
def takeScripted (operation : Operation) (script : List Scripted) :
    Option Scripted × List Scripted :=
  (script.find? (·.operation == operation), script.eraseP (·.operation == operation))

/-- Carries out the steps of an answer and gives the reaction, if it is not to throw. -/
def react (run : List Step → Act Unit) : Option Scripted → Act Reaction
  | none => return .default
  | some (.mk _ body reaction) => do
    run body
    if let .throws f := reaction then
      Action.fail f
    return reaction

/-- The operation that a request asks for. -/
def operationOf : HandleCall → Operation
  | .start _ => .start
  | .signal .. => .signal
  | .query .. => .query
  | .getResult _ => .getResult
  | .getResultAsync _ => .getResultAsync
  | .signalWithStart .. => .signalWithStart
  | .getOptions => .getOptions

/-- Makes a future. -/
def makeFuture : FutureSource → Act FutureRef
  | .ready result => Action.newFuture (.ready result)
  | .deferred result => Action.newFuture (.deferred result)
  | .unbound => return .unbound
  | .pending label => do
    let f ← Action.newFuture .pending
    if let some cell := f.cell? then
      changeWorld fun w => { w with promises := w.promises.put label cell }
    return f

/-- The execution that a reaction gives. -/
def executionOf (h : HandleId) : Reaction → Act Execution
  | .returns (.execution e) => return e
  | .returns _ => malformed "an execution was to be returned"
  | _ => nextExecution h

/-- The value that a reaction gives. -/
def valueOf (type : ValueType) (text : String) : Reaction → Value
  | .returns v => v
  | _ => defaultValue type text

/-- The answer of a handle to a request, after the steps of its script. -/
def answerOf (h : HandleId) (reaction : Reaction) : (call : HandleCall) → Act call.Answer
  | .start _ => executionOf h reaction
  | .signal .. => return ()
  | .query name type _ => return valueOf type ("query:" ++ name) reaction
  | .getResult type => return valueOf type "result" reaction
  | .getResultAsync type =>
    match reaction with
    | .future source => makeFuture source
    | _ => makeFuture (.ready (.ok (defaultValue type "async")))
  | .signalWithStart .. => executionOf h reaction
  | .getOptions => do
    let some handle := (← world).handles[h.serial]? | malformed "a handle is not there"
    return handle.options

/-! ## Collaborators -/

/-- A handle answers a request. -/
def handleAnswers (run : List Step → Act Unit) (h : HandleId) (call : HandleCall) :
    Act call.Answer := do
  let some handle := (← world).handles[h.serial]? | malformed "a handle is not there"
  let (scripted, rest) := takeScripted (operationOf call) handle.script
  changeWorld fun w =>
    { w with handles := w.handles.set h.serial { handle with script := rest } }
  answerOf h (← react run scripted) call

/-- A batch takes one half of a request. -/
def batchTakes (run : List Step → Act Unit) (b : BatchId) (call : BatchCall) : Act Unit := do
  match (← world).batches[b.serial]? with
  | none => malformed "a batch is not there"
  | some (.collecting batch) =>
    let (taken, after) := batch.record call
    changeWorld fun w => { w with batches := w.batches.set b.serial (.collecting after) }
    Action.expect taken
  | some (.recorder script) =>
    Action.record (.note (.recorded b call))
    let operation :=
      match call with
      | .start .. => Operation.start
      | .signal .. => Operation.signal
    let (scripted, rest) := takeScripted operation script
    changeWorld fun w => { w with batches := w.batches.set b.serial (.recorder rest) }
    let _ ← react run scripted

/-- An interface that nothing was declared for has a name and no methods. -/
def bareDeclaration (type : InterfaceType) : Declaration := ⟨type.name, type, .empty, []⟩

/-- What an interface declares at present. -/
def declares (type : InterfaceType) : Act Declaration := do
  match (← world).declarations.find? type.name with
  | some declared => Action.ofResult declared
  | none => return bareDeclaration type

/-- The collaborators of a scenario; `run` carries out the steps in a script. -/
def collaborators (run : List Step → Act Unit) : Collaborators World Note where
  handle := handleAnswers run
  batch := batchTakes run
  declare := declares

end WorkflowDispatch.Scenario
