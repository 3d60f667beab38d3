import WorkflowDispatch.Scenario.Catalogue
import WorkflowDispatch.Scenario.World

/-!
# Commands on stubs

Making stubs, asking them about themselves, and calling members through them.
-/

namespace WorkflowDispatch.Scenario

/-- The stub under a label. -/
def stubNamed (label : String) : Act Stub := return (← lookUp World.stubs label).object

/-- The stub under a label, a member of its interface and the packed arguments. -/
def typedCall (label member : String) (args : List Literal) :
    Act (Stub × Member × List Value) := do
  let stub ← lookUp World.stubs label
  let some m := member? stub.type.name member | malformed ("no member is named " ++ member)
  let some args := m.signature.pack? args | malformed ("wrong arguments for " ++ member)
  return (stub.object, m, args)

def StubCommand.perform (c : Collaborators World Note) : StubCommand → Act Reply
  | .make label type handle => do
    let handle ← handle.mapM (lookUp World.handleIds)
    let stub ← Stub.make c type handle
    changeWorld fun w => { w with stubs := w.stubs.put label ⟨type, stub⟩ }
    return .done
  | .name label => do
    match ← (← stubNamed label).ask c .stubName with
    | .string s => return .text s
    | v => replyValue v
  | .untyped label => do
    match ← (← stubNamed label).ask c .untypedStub with
    | .handle h => return .text h.label
    | v => replyValue v
  | .workflowType label => do
    match (← stubNamed label).descriptor.workflowType with
    | some type => return .text type
    | none => return .done
  | .describe label => return .descriptor (← stubNamed label).descriptor
  | .call label member args => do
    let (stub, m, args) ← typedCall label member args
    replyTyped (← stub.call c m args)
  | .dispatch label member args => do
    let (stub, m, args) ← typedCall label member args
    replyValue (← stub.untypedCall c m args)
  | .start label member args => do
    let (stub, m, args) ← typedCall label member args
    replyValue (← stub.start c m args)
  | .execute label member args future => do
    let (stub, m, args) ← typedCall label member args
    let f ← stub.execute c m args
    changeWorld fun w => { w with futures := w.futures.put future f }
    replyValue (.future f.future)

end WorkflowDispatch.Scenario
