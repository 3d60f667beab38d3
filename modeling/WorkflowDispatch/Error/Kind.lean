import WorkflowDispatch.Numbered

/-!
# Kinds of failure

The sixteen outcomes that the library itself reports, each with its number, its name and the text
that explains it.
-/

namespace WorkflowDispatch

/-- What kind of thing went wrong, if anything did. -/
inductive ErrorKind where
  | success
  | unknown
  | invalidArgument
  | invalidState
  | ambiguousRole
  | duplicateName
  | missingEntryPoint
  | invalidTarget
  | unknownMethod
  | returnTypeMismatch
  | unsupportedInMode
  | unsupportedInBatch
  | reentrancy
  | noActiveContext
  | duplicateWorkflow
  | configurationError
  deriving DecidableEq, Repr

namespace ErrorKind

/-- All kinds in the order of their numbers. -/
def all : List ErrorKind :=
  [success, unknown, invalidArgument, invalidState, ambiguousRole, duplicateName,
    missingEntryPoint, invalidTarget, unknownMethod, returnTypeMismatch, unsupportedInMode,
    unsupportedInBatch, reentrancy, noActiveContext, duplicateWorkflow, configurationError]

def number : ErrorKind → Int
  | success => 0
  | unknown => 1
  | invalidArgument => 2
  | invalidState => 3
  | ambiguousRole => 4
  | duplicateName => 5
  | missingEntryPoint => 6
  | invalidTarget => 7
  | unknownMethod => 8
  | returnTypeMismatch => 9
  | unsupportedInMode => 10
  | unsupportedInBatch => 11
  | reentrancy => 12
  | noActiveContext => 13
  | duplicateWorkflow => 14
  | configurationError => 15

def name : ErrorKind → String
  | success => "Success"
  | unknown => "Unknown"
  | invalidArgument => "InvalidArgument"
  | invalidState => "InvalidState"
  | ambiguousRole => "AmbiguousRole"
  | duplicateName => "DuplicateName"
  | missingEntryPoint => "MissingEntryPoint"
  | invalidTarget => "InvalidTarget"
  | unknownMethod => "UnknownMethod"
  | returnTypeMismatch => "ReturnTypeMismatch"
  | unsupportedInMode => "UnsupportedInMode"
  | unsupportedInBatch => "UnsupportedInBatch"
  | reentrancy => "Reentrancy"
  | noActiveContext => "NoActiveContext"
  | duplicateWorkflow => "DuplicateWorkflow"
  | configurationError => "ConfigurationError"

/-- The explanation that comes with every failure of this kind. -/
def message : ErrorKind → String
  | success => "success"
  | unknown => "unknown error"
  | invalidArgument => "invalid argument"
  | invalidState => "invalid state"
  | ambiguousRole => "ambiguous method role"
  | duplicateName => "duplicate resolved name"
  | missingEntryPoint => "missing workflow method"
  | invalidTarget => "invalid dispatch target"
  | unknownMethod => "method has no role"
  | returnTypeMismatch => "return type mismatch"
  | unsupportedInMode => "role not supported in invocation mode"
  | unsupportedInBatch => "role not supported in signal-with-start batch"
  | reentrancy => "invocation context already active"
  | noActiveContext => "no active invocation context"
  | duplicateWorkflow => "workflow already started"
  | configurationError => "configuration error"

instance : Numbered ErrorKind := ⟨all, number, name, "Unrecognized"⟩

instance : LawfulNumbered ErrorKind where
  mem_all a := by cases a <;> decide
  number_inj a b h := by cases a <;> cases b <;> first | rfl | exact absurd h (by decide)

end ErrorKind

end WorkflowDispatch
