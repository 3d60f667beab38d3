import WorkflowDispatch.Scenario.Catalogue
import WorkflowDispatch.Scenario.World

/-!
# Commands on routers

Making routers, and routing calls by index or by member.
-/

namespace WorkflowDispatch.Scenario

/-- The target that is aimed at. -/
def Aim.resolve (router : OfInterface Router) : Aim → Act Target
  | .target t => return t
  | .member reference => do
    let some m := member? router.type.name reference
      | malformed ("no member is named " ++ reference)
    return router.object.descriptor.target m

def RouterCommand.perform (c : Collaborators World Note) : RouterCommand → Act Reply
  | .make label type => do
    let cached ← type.mapM fun type => Action.descriptorOf c type (some type)
    let router ← Action.expect (Router.ofDescriptor? (cached.map CachedDescriptor.descriptor))
    if let some type := type then
      changeWorld fun w => { w with routers := w.routers.put label ⟨type, router⟩ }
    return .done
  | .target label member => do
    return .target (← (Aim.member member).resolve (← lookUp World.routers label))
  | .route label handle aim args => do
    let router ← lookUp World.routers label
    let h ← lookUp World.handleIds handle
    replyValue (← router.object.route c h (← aim.resolve router) args)
  | .attach handle args => do
    return .text (← startOrAttach c (← lookUp World.handleIds handle) args).name

end WorkflowDispatch.Scenario
