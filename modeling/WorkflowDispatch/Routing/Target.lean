import WorkflowDispatch.Interface.Descriptor

/-!
# Targets

What a call is aimed at: a question about the stub itself, a method by its index, or something that
the interface does not declare.
-/

namespace WorkflowDispatch

/-- Questions that are answered without the handle. -/
inductive Reserved where
  /-- The fixed name of every stub. -/
  | stubName
  /-- The handle behind the stub. -/
  | untypedStub
  deriving DecidableEq, Repr

/-- What a call is aimed at. -/
inductive Target where
  | reserved (question : Reserved)
  | method (index : Nat)
  | undeclared (description : String)
  deriving DecidableEq, Repr

/-- The target of a call of a member. -/
def Descriptor.target (d : Descriptor) (m : Member) : Target :=
  match d.find m with
  | some index => .method index
  | none => .undeclared (m.describeType ++ " is not declared on " ++ d.name)

/-- The name that every stub gives for itself. -/
def stubName : String := "WorkflowStub"

/-- The answer to a question about the stub of a handle. -/
def Reserved.answer (h : HandleId) : Reserved → Value
  | .stubName => .string WorkflowDispatch.stubName
  | .untypedStub => .handle ⟨some h⟩

end WorkflowDispatch
