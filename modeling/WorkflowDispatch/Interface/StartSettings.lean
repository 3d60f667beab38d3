import WorkflowDispatch.Interface.Descriptor

/-!
# Start settings

What a new execution is started with: the type of the workflow, and the options of the caller over
those that the interface declares.
-/

namespace WorkflowDispatch

/-- What a new execution is started with. -/
structure StartSettings where
  workflowType : String
  options : WorkflowOptions
  deriving DecidableEq, Repr

/-- An interface without a workflow method starts nothing. -/
inductive StartSettingsError where
  | noEntryPoint (interface : String)
  deriving DecidableEq, Repr

instance : Cause StartSettingsError where
  kind
    | .noEntryPoint _ => .missingEntryPoint
  message
    | .noEntryPoint interface =>
      interface ++ " has no workflow method and cannot start a workflow"

/-- The settings of a start with the options of the caller. -/
def Descriptor.startSettings (d : Descriptor) (caller : WorkflowOptions) :
    Except StartSettingsError StartSettings :=
  match d.workflowType with
  | some type => .ok ⟨type, d.declaredOptions.merge caller⟩
  | none => .error (.noEntryPoint d.name)

end WorkflowDispatch
