import WorkflowDispatch.Error.Failure
import WorkflowDispatch.Interface.Declaration

/-!
# Interface descriptors

The table of a resolved interface: its methods in the order of their declaration, each with at
most one role and the name it is known by.  Dispatch looks a method up by its index, a typed call
finds the index of its member.

    d.method i = .ok e ↔ d.methods[i]? = some e        (method_eq_ok_iff)
-/

namespace WorkflowDispatch

/-- The role of a method and the name it is known by in that role. -/
structure ResolvedRole where
  role : Role
  name : String
  deriving DecidableEq, Repr

/-- A method of a resolved interface. -/
structure DescribedMethod where
  identifier : String
  member : Option Member
  returns : ValueType
  resolved : Option ResolvedRole
  deriving DecidableEq, Repr

def DescribedMethod.isEntryPoint (e : DescribedMethod) : Bool :=
  match e.resolved with
  | some r => r.role == .entryPoint
  | none => false

/-- The table of a resolved interface. -/
structure Descriptor where
  name : String
  type : InterfaceType
  methods : List DescribedMethod
  /-- The options that the interface declares for a start. -/
  declaredOptions : WorkflowOptions
  deriving DecidableEq, Repr

/-- Looking up a method that is not there. -/
inductive DescriptorError where
  | indexOutOfRange (index : Nat) (interface : String)
  deriving DecidableEq, Repr

instance : Cause DescriptorError where
  kind
    | .indexOutOfRange .. => .invalidTarget
  message
    | .indexOutOfRange index interface =>
      "method index " ++ toString index ++ " is not declared on " ++ interface

namespace Descriptor

/-- The method at an index. -/
def method (d : Descriptor) (index : Nat) : Except DescriptorError DescribedMethod :=
  match d.methods[index]? with
  | some entry => .ok entry
  | none => .error (.indexOutOfRange index d.name)

/-- The role of the method at an index, if it has one. -/
def resolved (d : Descriptor) (index : Nat) : Except DescriptorError (Option ResolvedRole) :=
  DescribedMethod.resolved <$> d.method index

/-- The method with its interface, as reports name it. -/
def qualified (d : Descriptor) (entry : DescribedMethod) : String :=
  d.name ++ "::" ++ entry.identifier

/-- The name of the method at an index in reports. -/
def qualifiedName (d : Descriptor) (index : Nat) : Except DescriptorError String :=
  d.qualified <$> d.method index

/-- The index of the method that starts the workflow. -/
def entryPoint (d : Descriptor) : Option Nat := d.methods.findIdx? DescribedMethod.isEntryPoint

/-- The name under which the workflow is started. -/
def workflowType (d : Descriptor) : Option String :=
  (d.methods.find? DescribedMethod.isEntryPoint).bind fun e => e.resolved.map ResolvedRole.name

/-- The first index whose method declares the member. -/
def find (d : Descriptor) (m : Member) : Option Nat := d.methods.findIdx? (·.member == some m)

/-! ## Lemmas -/

theorem method_eq_ok_iff (d : Descriptor) (i : Nat) (e : DescribedMethod) :
    d.method i = .ok e ↔ d.methods[i]? = some e := by
  unfold method
  split <;> simp_all

end Descriptor

end WorkflowDispatch
