import WorkflowDispatch.Scenario.Perform.Batch
import WorkflowDispatch.Scenario.Perform.Cache
import WorkflowDispatch.Scenario.Perform.Context
import WorkflowDispatch.Scenario.Perform.Future
import WorkflowDispatch.Scenario.Perform.Router
import WorkflowDispatch.Scenario.Perform.Stub

/-!
# Carrying out steps

What each command and each step of a scenario does, and what it answers.
-/

namespace WorkflowDispatch.Scenario

def Command.perform (c : Collaborators World Note) : Command → Act Reply
  | .context command => command.perform
  | .guard command => command.perform
  | .batch command => command.perform c
  | .stub command => command.perform c
  | .future command => command.perform
  | .router command => command.perform c
  | .cache command => command.perform c
  | .declare type declaration => do
    changeWorld fun w =>
      { w with declarations := w.declarations.put type.name declaration }
    return .done
  | .setOptions label options => do
    let id ← lookUp World.handleIds label
    let some handle := (← world).handles[id.serial]? | malformed "a handle is not there"
    changeWorld fun w =>
      { w with handles := w.handles.set id.serial { handle with options := options } }
    return .done
  | .throwFailure f => Action.fail f

/-- Carries out a step; `run` carries out the steps inside. -/
def Step.perform (run : List Step → Act Unit) : Step → Act Reply
  | .command c => c.perform (collaborators run)
  | .handle label answers options => do
    changeWorld fun w =>
      { w with
        handles := w.handles ++ [⟨answers, options, 0⟩]
        handleIds := w.handleIds.put label ⟨w.handles.length, label⟩ }
    return .done
  | .recorder label answers => newBatch label (.recorder answers)
  | .script label more => do
    let id ← lookUp World.handleIds label
    let some scripted := (← world).handles[id.serial]? | malformed "a handle is not there"
    changeWorld fun w =>
      { w with
        handles := w.handles.set id.serial { scripted with script := scripted.script ++ more } }
    return .done
  | .thread body => do
    Action.onNewThread (run body)
    return .done
  | .add label body => do
    let _ ← collectingBatch label
    Batch.recording (← lookUp World.batchIds label) (run body)
    return .done
  | .attempt step => step.perform run

end WorkflowDispatch.Scenario
