import WorkflowDispatch.Error.Kind
import WorkflowDispatch.Error.SystemMessages

/-!
# Error codes

A code is a number within a domain: the library's own failures, those of the system, or those of
another library.  Equal numbers of different domains are different codes.

    (ofKind k).kind? = some k        (kind?_ofKind)
-/

namespace WorkflowDispatch

/-- The failures of another library. -/
structure ForeignDomain where
  name : String
  /-- The numbers that have a text of their own, with their texts. -/
  texts : List (Int × String)
  /-- The text of every other number. -/
  unlisted : String
  deriving DecidableEq, Repr

/-- Whose failures a number counts. -/
inductive ErrorDomain where
  | workflow
  | system
  | foreign (domain : ForeignDomain)
  deriving DecidableEq, Repr

/-- The name of the domain in reports. -/
def ErrorDomain.name : ErrorDomain → String
  | .workflow => "wfroute"
  | .system => "generic"
  | .foreign domain => domain.name

/-- A number within a domain. -/
structure ErrorCode where
  domain : ErrorDomain
  value : Int
  deriving DecidableEq, Repr

namespace ErrorCode

/-- The code of a kind of failure. -/
def ofKind (k : ErrorKind) : ErrorCode := ⟨.workflow, k.number⟩

/-- The library's number in the code; a code of another domain has none. -/
def workflowNumber? (c : ErrorCode) : Option Int :=
  match c.domain with
  | .workflow => some c.value
  | .system | .foreign _ => none

/-- The kind of failure that the code stands for. -/
def kind? (c : ErrorCode) : Option ErrorKind := c.workflowNumber?.bind Numbered.ofNumber?

/-- The name of the kind; a code of another domain has none. -/
def kindName? (c : ErrorCode) : Option String :=
  c.workflowNumber?.map (Numbered.nameOf ErrorKind)

/-- The text that explains the code. -/
def message (c : ErrorCode) : String :=
  match c.domain with
  | .workflow =>
    match (Numbered.ofNumber? c.value : Option ErrorKind) with
    | some k => k.message
    | none => "unrecognized wfroute error " ++ toString c.value
  | .system => systemMessage c.value
  | .foreign domain => (domain.texts.lookup c.value).getD domain.unlisted

/-- Whether the code reports a failure at all. -/
def isFailure (c : ErrorCode) : Bool := c.value != 0

/-! ## Lemmas -/

theorem kind?_ofKind (k : ErrorKind) : (ofKind k).kind? = some k :=
  Numbered.ofNumber?_number k

@[simp] theorem message_ofKind (k : ErrorKind) : (ofKind k).message = k.message := by
  cases k <;> rfl

end ErrorCode

end WorkflowDispatch
