import WorkflowDispatch.Options.Coefficient

/-!
# Retry options

How a failed attempt is repeated.  Two sets of options are merged field by field: the higher layer
wins wherever it says something, and an empty list of failures says nothing.
-/

namespace WorkflowDispatch

/-- Retry options; times are in milliseconds. -/
structure RetryOptions where
  initialInterval : Option Int
  backoffCoefficient : Option Coefficient
  maximumInterval : Option Int
  maximumAttempts : Option Int
  /-- Failures that are not retried. -/
  doNotRetry : List String
  deriving DecidableEq, Repr

/-- Equality of optional values under a given equality of values. -/
def equalBy {α : Type} (eq : α → α → Bool) : Option α → Option α → Bool
  | some a, some b => eq a b
  | none, none => true
  | _, _ => false

/-- The higher value when there is one. -/
def layered {α : Type} (lower higher : Option α) : Option α := higher.or lower

/-- The higher list when it says something. -/
def layeredList {α : Type} (lower higher : List α) : List α :=
  if higher.isEmpty then lower else higher

namespace RetryOptions

def empty : RetryOptions := ⟨none, none, none, none, []⟩

/-- `higher` over `lower`. -/
def merge (lower higher : RetryOptions) : RetryOptions where
  initialInterval := layered lower.initialInterval higher.initialInterval
  backoffCoefficient := layered lower.backoffCoefficient higher.backoffCoefficient
  maximumInterval := layered lower.maximumInterval higher.maximumInterval
  maximumAttempts := layered lower.maximumAttempts higher.maximumAttempts
  doNotRetry := layeredList lower.doNotRetry higher.doNotRetry

/-- Field by field, with the coefficient compared as a number. -/
def equals (a b : RetryOptions) : Bool :=
  a.initialInterval == b.initialInterval &&
    equalBy Coefficient.equals a.backoffCoefficient b.backoffCoefficient &&
    a.maximumInterval == b.maximumInterval &&
    a.maximumAttempts == b.maximumAttempts &&
    a.doNotRetry == b.doNotRetry

end RetryOptions

end WorkflowDispatch
