import WorkflowDispatch.Scenario.World

/-!
# Commands on batches

Making a batch, recording into it, and sending what it collected.
-/

namespace WorkflowDispatch.Scenario

/-- Makes a batch and puts it under a label. -/
def newBatch (label : String) (b : BatchObject) : Act Reply := do
  changeWorld fun w =>
    { w with
      batches := w.batches ++ [b]
      batchIds := w.batchIds.put label ⟨w.batches.length, label⟩ }
  return .done

/-- The collecting batch under a label. -/
def collectingBatch (label : String) : Act Batch := do
  let id ← lookUp World.batchIds label
  match (← world).batches[id.serial]? with
  | some (.collecting b) => return b
  | _ => malformed (label ++ " collects no request")

def BatchCommand.perform (c : Collaborators World Note) : BatchCommand → Act Reply
  | .make label => newBatch label (.collecting .empty)
  | .invoke label => do
    return .value (.value (.execution (← (← collectingBatch label).send c)))
  | .start label handle args => do
    let id ← lookUp World.batchIds label
    Action.callBatch c id (.start (← lookUp World.handleIds handle) args)
    return .done
  | .signal label handle name args => do
    let id ← lookUp World.batchIds label
    Action.callBatch c id (.signal (← lookUp World.handleIds handle) name args)
    return .done

end WorkflowDispatch.Scenario
