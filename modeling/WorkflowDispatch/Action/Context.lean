import WorkflowDispatch.Action.Basic

/-!
# Actions on the context

Opening and closing the context of the thread, and the outcome that it holds.  An action on a
thread of its own neither sees nor changes the context of the thread that waits for it.
-/

namespace WorkflowDispatch.Action

variable {σ ν α : Type}

/-! ## Definitions -/

/-- The context of the thread. -/
def context : Action σ ν (Option Context) := return (← get).context

def setContext (c : Option Context) : Action σ ν Unit := modify fun s => { s with context := c }

/-- Opens a context. -/
def enter (mode : Mode) (batch : Option BatchId) : Action σ ν Unit := do
  let c ← expect (Context.enter? (← context) mode batch)
  setContext (some c)
  log .context .trace ("enter " ++ mode.name)

/-- Closes the context, if one is open. -/
def exit : Action σ ν Unit := setContext none

/-- Forgets the outcome held in the context. -/
def forgetOutcome : Action σ ν Unit :=
  modify fun s => { s with context := s.context.map Context.forgetOutcome }

/-- Holds an outcome in the context. -/
def keepOutcome (v : Value) : Action σ ν Unit :=
  modify fun s => { s with context := s.context.map (Context.keepOutcome v) }

/-- The outcome held in the context. -/
def currentOutcome : Action σ ν Value := do expect (Context.currentOutcome (← context))

/-- The outcome held in the context, if it is of the type asked for. -/
def currentOutcomeAs (type : ValueType) : Action σ ν Value := do
  expect (Context.currentOutcomeAs (← context) type)

/-- Carries an action out on a thread of its own, which starts without a context. -/
def onNewThread (x : Action σ ν α) : Action σ ν α := do
  let own ← context
  setContext none
  let ending ← observe x
  setContext own
  conclude ending

/-! ## Lemmas -/

@[simp] theorem runFrom_context (s : State σ ν) :
    runFrom (context : Action σ ν (Option Context)) s = (.ok s.context, s) := rfl

@[simp] theorem runFrom_setContext (c : Option Context) (s : State σ ν) :
    runFrom (setContext c : Action σ ν Unit) s = (.ok (), { s with context := c }) := rfl

@[simp] theorem runFrom_exit (s : State σ ν) :
    runFrom (exit : Action σ ν Unit) s = (.ok (), { s with context := none }) := rfl

@[simp] theorem runFrom_forgetOutcome (s : State σ ν) :
    runFrom (forgetOutcome : Action σ ν Unit) s =
      (.ok (), { s with context := s.context.map Context.forgetOutcome }) := rfl

@[simp] theorem runFrom_keepOutcome (v : Value) (s : State σ ν) :
    runFrom (keepOutcome v : Action σ ν Unit) s =
      (.ok (), { s with context := s.context.map (Context.keepOutcome v) }) := rfl

theorem runFrom_currentOutcome (s : State σ ν) :
    runFrom (currentOutcome : Action σ ν Value) s =
      runFrom (expect (Context.currentOutcome s.context)) s := rfl

theorem runFrom_onNewThread (x : Action σ ν α) (s : State σ ν) :
    runFrom (onNewThread x) s =
      ((runFrom x { s with context := none }).1,
        { (runFrom x { s with context := none }).2 with context := s.context }) := rfl

end WorkflowDispatch.Action
