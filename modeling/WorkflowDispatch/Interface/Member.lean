import WorkflowDispatch.Value

/-!
# Members

A member is the identity of one function of an interface: the interface that owns it, its name
there, and its signature.  Members of one signature are still different members.
-/

namespace WorkflowDispatch

/-- The types of a function, and whether it leaves its object unchanged. -/
structure Signature where
  returns : ValueType
  parameters : List ValueType
  isConst : Bool
  deriving DecidableEq, Repr

/-- The signature as a function of `owner`. -/
def Signature.describe (s : Signature) (owner : String) : String :=
  let parameters := ",".intercalate (s.parameters.map ValueType.name)
  owner ++ "." ++ s.returns.name ++ "(" ++ parameters ++ ")" ++ if s.isConst then " const" else ""

/-- The literals as values of the parameter types, when they fit. -/
def Signature.pack? (s : Signature) (literals : List Literal) : Option (List Value) :=
  if s.parameters.length = literals.length then
    (s.parameters.zip literals).mapM fun (t, l) => t.pack? l
  else none

/-- The identity of a member function. -/
structure Member where
  owner : String
  name : String
  signature : Signature
  deriving DecidableEq, Repr

/-- How the type of the member is printed. -/
def Member.describeType (m : Member) : String := m.signature.describe m.owner

end WorkflowDispatch
