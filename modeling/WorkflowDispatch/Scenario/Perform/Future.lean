import WorkflowDispatch.Scenario.Collaborator

/-!
# Commands on futures

Making futures, waiting for them, and supplying their results.
-/

namespace WorkflowDispatch.Scenario

def FutureCommand.perform : FutureCommand → Act Reply
  | .make label type source => do
    let f ← makeFuture source
    changeWorld fun w => { w with futures := w.futures.put label ⟨type, f⟩ }
    return .done
  | .valid label => return .flag (← lookUp World.futures label).isValid
  | .get label => do replyTyped (← (← lookUp World.futures label).get)
  | .wait label => return .text (← (← lookUp World.futures label).status).name
  | .untyped label => do replyValue (.future (← lookUp World.futures label).future)
  | .fulfil promise result => do
    Action.setFuture (← lookUp World.promises promise) (.ready result)
    return .done

end WorkflowDispatch.Scenario
