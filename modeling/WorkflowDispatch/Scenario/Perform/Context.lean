import WorkflowDispatch.Scenario.World

/-!
# Commands on contexts and guards

Entering and leaving contexts, reading their outcomes, and the guards that hold them open.
-/

namespace WorkflowDispatch.Scenario

/-! ## Context -/

def ContextCommand.perform : ContextCommand → Act Reply
  | .enter mode batch => do
    Action.enter mode (← lookUpBatch? batch)
    return .done
  | .exit => do
    Action.exit
    return .done
  | .active => return .flag (← Action.context).isSome
  | .current => do
    match ← Action.context with
    | some c => return .context c
    | none => return .done
  | .result => do replyValue (← Action.currentOutcome)
  | .resultAs type => do replyValue (← Action.currentOutcomeAs type)
  | .keepOutcome v => do
    Action.keepOutcome v
    return .done
  | .forgetOutcome => do
    Action.forgetOutcome
    return .done

/-! ## Guards -/

/-- Puts a guard under a label, and releases the guard that was there. -/
def putGuard (label : String) (g : Guard) : Act Unit := do
  let former := (← world).guards.find? label
  changeWorld fun w => { w with guards := w.guards.put label g }
  if let some former := former then
    let _ ← former.release

def GuardCommand.perform : GuardCommand → Act Reply
  | .make label mode batch => do
    putGuard label (← Guard.enter mode (← lookUpBatch? batch))
    return .done
  | .drop label => do
    if let some g := (← world).guards.find? label then
      changeWorld fun w => { w with guards := w.guards.erase label }
      let _ ← g.release
    return .done
  | .move source target => do
    let (made, emptied) := (← lookUp World.guards source).moved
    changeWorld fun w => { w with guards := w.guards.put source emptied }
    putGuard target made
    return .done
  | .assign source target => do
    let s ← lookUp World.guards source
    let t ← lookUp World.guards target
    if source ≠ target then
      let (assigned, emptied) ← t.assign s
      changeWorld fun w =>
        { w with guards := (w.guards.put source emptied).put target assigned }
    return .done
  | .resultAs label type => do
    let _ ← lookUp World.guards label
    replyValue (← Action.currentOutcomeAs type)

end WorkflowDispatch.Scenario
