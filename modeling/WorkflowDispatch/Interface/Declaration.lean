import WorkflowDispatch.Interface.Member
import WorkflowDispatch.Interface.Role
import WorkflowDispatch.Options.Workflow

/-!
# Interface declarations

What an interface says about its methods.  Each method carries any number of role markers, of which
one is meant, and perhaps retry options and a schedule; the options of the whole interface stand
beneath those of its methods.
-/

namespace WorkflowDispatch

/-- A role with the name under which the method is known, or no name. -/
structure RoleMark where
  role : Role
  name : String
  deriving DecidableEq, Repr

/-- A method as an interface declares it. -/
structure DeclaredMethod where
  identifier : String
  /-- The function that the method declares, if it is known. -/
  member : Option Member
  returns : ValueType
  roleMarks : List RoleMark
  retry : Option RetryOptions
  cronSchedule : Option String
  deriving DecidableEq, Repr

/-- What an interface declares. -/
structure Declaration where
  name : String
  type : InterfaceType
  defaults : WorkflowOptions
  methods : List DeclaredMethod
  deriving DecidableEq, Repr

/-! ## Markers -/

/-- What a method can be marked with. -/
inductive Mark where
  | role (marker : RoleMark)
  | retry (options : RetryOptions)
  | cron (expression : String)
  deriving DecidableEq, Repr

/-- A role marker is added to those before it; of the other markers the last counts. -/
def DeclaredMethod.mark (m : DeclaredMethod) : Mark → DeclaredMethod
  | .role marker => { m with roleMarks := m.roleMarks ++ [marker] }
  | .retry options => { m with retry := some options }
  | .cron expression => { m with cronSchedule := some expression }

/-- A method with its markers, in the order in which they are applied. -/
def DeclaredMethod.make (identifier : String) (member : Option Member) (returns : ValueType)
    (markers : List Mark) : DeclaredMethod :=
  markers.foldl mark ⟨identifier, member, returns, [], none, none⟩

namespace DeclaredMethod

/-- The method with its interface, as reports name it. -/
def qualified (m : DeclaredMethod) (interface : String) : String :=
  interface ++ "::" ++ m.identifier

/-- The options that the markers of the method set. -/
def markedOptions (m : DeclaredMethod) : WorkflowOptions :=
  { WorkflowOptions.empty with retry := m.retry, cronSchedule := m.cronSchedule }

/-- Whether the method is marked as one that starts the workflow. -/
def startsWorkflow (m : DeclaredMethod) : Bool :=
  m.roleMarks.any (·.role == .entryPoint)

end DeclaredMethod

/-- The options declared for a start: those of the starting method over those of the interface. -/
def Declaration.startOptions (d : Declaration) : WorkflowOptions :=
  match d.methods.find? DeclaredMethod.startsWorkflow with
  | some m => d.defaults.merge m.markedOptions
  | none => d.defaults

end WorkflowDispatch
