import WorkflowDispatch.Interface.Descriptor

/-!
# Resolving a declaration

A declaration becomes a descriptor when each method has at most one role, no two methods share a
role and a name, and at most one method starts the workflow.  The methods are read in order, and
the first one that breaks a rule decides the error.

    resolveMethods i earlier ms = .ok entries → entries = earlier ++ ms.map DeclaredMethod.entry
                                                                    (resolveMethods_eq_ok)
-/

namespace WorkflowDispatch

/-- Why a declaration cannot be resolved. -/
inductive ResolveError where
  /-- A method has several roles. -/
  | manyRoles (method : String)
  /-- A method resolves to a name that an earlier one has in the same role. -/
  | nameTaken (method : String) (resolved : ResolvedRole)
  /-- Two methods start the workflow. -/
  | manyEntryPoints (interface first second : String)
  deriving DecidableEq, Repr

instance : Cause ResolveError where
  kind
    | .manyRoles .. | .manyEntryPoints .. => .ambiguousRole
    | .nameTaken .. => .duplicateName
  message
    | .manyRoles method =>
      method ++ " must carry at most one of WorkflowMethod, SignalMethod or QueryMethod"
    | .nameTaken method resolved =>
      method ++ " resolves to " ++ resolved.role.name ++ " name '" ++ resolved.name ++
        "' which is already taken"
    | .manyEntryPoints interface first second =>
      interface ++ " declares more than one workflow method: " ++ first ++ " and " ++ second

/-- The role that a marker gives to a method; without a name of its own it takes the identifier. -/
def RoleMark.resolve (marker : RoleMark) (identifier : String) : ResolvedRole :=
  ⟨marker.role, if marker.name.isEmpty then identifier else marker.name⟩

/-- The table entry of a method with at most one role marker. -/
def DeclaredMethod.entry (m : DeclaredMethod) : DescribedMethod where
  identifier := m.identifier
  member := m.member
  returns := m.returns
  resolved := m.roleMarks.head?.map (·.resolve m.identifier)

/-- What is wrong with a method, given the entries before it. -/
def DeclaredMethod.fault? (m : DeclaredMethod) (interface : String)
    (earlier : List DescribedMethod) : Option ResolveError :=
  match m.roleMarks with
  | [] => none
  | [mark] =>
    let resolved := mark.resolve m.identifier
    if earlier.any (·.resolved == some resolved) then
      some (.nameTaken (m.qualified interface) resolved)
    else if resolved.role = .entryPoint then
      (earlier.find? DescribedMethod.isEntryPoint).map fun first =>
        .manyEntryPoints interface first.identifier m.identifier
    else none
  | _ => some (.manyRoles (m.qualified interface))

/-- The entries of the methods after those before them, up to the first method with a fault. -/
def resolveMethods (interface : String) (earlier : List DescribedMethod) :
    List DeclaredMethod → Except ResolveError (List DescribedMethod)
  | [] => .ok earlier
  | m :: rest =>
    match m.fault? interface earlier with
    | some fault => .error fault
    | none => resolveMethods interface (earlier ++ [m.entry]) rest

/-- The descriptor of a declaration. -/
def Declaration.resolve (d : Declaration) : Except ResolveError Descriptor :=
  (resolveMethods d.name [] d.methods).map fun methods =>
    ⟨d.name, d.type, methods, d.startOptions⟩

/-! ## Lemmas -/

/-- Resolving changes neither the number nor the order of the methods. -/
theorem resolveMethods_eq_ok {interface : String} {earlier entries : List DescribedMethod}
    {methods : List DeclaredMethod}
    (h : resolveMethods interface earlier methods = .ok entries) :
    entries = earlier ++ methods.map DeclaredMethod.entry := by
  induction methods generalizing earlier with
  | nil => simpa [resolveMethods] using h.symm
  | cons m rest ih =>
    unfold resolveMethods at h
    split at h
    · exact absurd h (by simp)
    · simpa using ih h

/-! ## Report -/

/-- What is reported of a descriptor when it is resolved. -/
def Descriptor.summary (d : Descriptor) : String :=
  "resolved " ++ d.name ++ ": " ++ toString d.methods.length ++ " methods" ++
    match d.workflowType with
    | some type => ", workflow type '" ++ type ++ "'"
    | none => ", no workflow method"

end WorkflowDispatch
