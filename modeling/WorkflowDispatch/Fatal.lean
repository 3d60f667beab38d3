import WorkflowDispatch.Stub

/-!
# Fatal ends

What stands on the error stream after a run without a sink: the lines that the build logs and, if
the run was aborted, a last line that describes why.
-/

namespace WorkflowDispatch

/-- The line that is written when everything ends; it stops at the first NUL character. -/
def WorkflowError.fatalLine (e : WorkflowError) : String :=
  "[WFROUTE][FATAL] " ++ untilNul e.describe ++ "\n"

/-- The log lines of what happened, as they stand on the error stream. -/
def errorText {ν : Type} (happened : List (Event ν)) : String :=
  String.join ((happened.filterMap Event.line?).map LogLine.render)

/-- How a run ended, and what it left on the error stream. -/
structure FatalReport where
  aborted : Bool
  errorText : String
  deriving DecidableEq, Repr

/-- Runs an action that has nothing but the error stream to report to. -/
def FatalReport.ofAction {σ ν α : Type} [LogThresholds] (outside : σ) (x : Action σ ν α) :
    FatalReport :=
  let (ending, s) := Action.runFrom x (.initial outside)
  match ending with
  | .error (.aborted e) => ⟨true, WorkflowDispatch.errorText s.emitted ++ e.fatalLine⟩
  | _ => ⟨false, WorkflowDispatch.errorText s.emitted⟩

/-- The first method of an interface, called in a context that ought to have a batch and has none.
-/
def callWithoutBatch {σ ν : Type} (c : Collaborators σ ν) (type : InterfaceType)
    (h : HandleId) : Action σ ν Value := do
  let cached ← Action.descriptorOf c type (some type)
  Action.enter .start none
  Action.setContext (some ⟨.signalWithStart, none, none⟩)
  Router.route c ⟨cached.descriptor⟩ h (.method 0) []

end WorkflowDispatch
