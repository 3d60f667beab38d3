import WorkflowDispatch.Interface.Member

/-!
# The catalogue of members

The functions that every interface of a scenario has, by name.  One of them is inherited: it is the
same member in all interfaces.
-/

namespace WorkflowDispatch.Scenario

/-- The functions that each interface has for itself. -/
def ownFunctions : List (String × Signature) :=
  [("ss", ⟨.string, [.string], false⟩),
    ("ss2", ⟨.string, [.string], false⟩),
    ("s", ⟨.string, [], false⟩),
    ("v", ⟨.void, [], false⟩),
    ("v2", ⟨.void, [], false⟩),
    ("vs", ⟨.void, [.string], false⟩),
    ("vs2", ⟨.void, [.string], false⟩),
    ("vi", ⟨.void, [.int], false⟩),
    ("i", ⟨.int, [], false⟩),
    ("isi", ⟨.int, [.string, .int], false⟩),
    ("b", ⟨.bool, [.bool], false⟩),
    ("rs", ⟨.receipt, [.string], false⟩),
    ("l", ⟨.list, [], false⟩),
    ("sc", ⟨.string, [], true⟩),
    ("sc2", ⟨.string, [], true⟩),
    ("ic", ⟨.int, [.string], true⟩),
    ("vc", ⟨.void, [], true⟩),
    ("bc", ⟨.bool, [], true⟩),
    ("rc", ⟨.receipt, [], true⟩),
    ("ll", ⟨.long, [.long], false⟩)]

/-- The functions that all interfaces inherit from one base. -/
def inheritedFunctions : List (String × Signature) := [("base_v", ⟨.void, [], false⟩)]

/-- The name of the base. -/
def baseName : String := "base"

/-- The member of an interface with the given name. -/
def memberOf? (interface name : String) : Option Member :=
  match inheritedFunctions.lookup name with
  | some signature => some ⟨baseName, name, signature⟩
  | none => (ownFunctions.lookup name).map fun signature => ⟨interface, name, signature⟩

/-- The member that a reference names: a name of `interface`, or one of another interface, which
then stands in front of it with a point between. -/
def member? (interface reference : String) : Option Member :=
  match reference.splitOn "." with
  | [other, name] => memberOf? other name
  | _ => memberOf? interface reference

end WorkflowDispatch.Scenario
