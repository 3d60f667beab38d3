import WorkflowDispatch.Error.Failure

/-!
# Captured outcomes

An outcome is a value or an error.  `capture` turns what a computation threw into an error, `unwrap`
throws the error again.  A bare number is not captured.

    capture (unwrap (.ok v)) = .ok (.ok v)        (capture_unwrap_ok)
-/

namespace WorkflowDispatch

/-! ## Capturing and unwrapping -/

/-- A value, or the error that stands in its place. -/
abbrev Outcome (α : Type) := Except WorkflowError α

namespace Outcome

variable {α : Type}

/-- The cause of asking a success for its error. -/
inductive Misuse where
  | holdsValue
  deriving DecidableEq, Repr

instance : Cause Misuse where
  kind _ := .invalidState
  message _ := "result holds a value, not an error"

/-- Keeps the code of a coded failure and the visible text; a failure without a code is unknown. -/
def capture : Except Failure α → Except Failure (Outcome α)
  | .ok v => .ok (.ok v)
  | .error (.coded code text) => .ok (.error ⟨code, untilNul text⟩)
  | .error (.runtime text) | .error (.logic text) =>
    .ok (.error (.ofKind .unknown (untilNul text)))
  | .error (.number n) => .error (.number n)

/-- The value, or the error thrown. -/
def unwrap (o : Outcome α) : Except Failure α := o.mapError WorkflowError.toFailure

/-- The error; a success has none. -/
def failure (o : Outcome α) : Except Failure WorkflowError :=
  match o with
  | .ok _ => .error (Cause.toFailure Misuse.holdsValue)
  | .error e => .ok e

/-- Unwraps and captures again, `n` times. -/
def rounds : Nat → Outcome α → Except Failure (Outcome α)
  | 0, o => .ok o
  | n + 1, o => capture (unwrap o) >>= rounds n

/-! ## Access -/

/-- A way of looking at an outcome or of changing its value in place. -/
inductive Access (α : Type) where
  | hasValue
  | hasError
  | value
  | failure
  | valueOr (fallback : α)
  | replace (value : α)

/-- What an access answers. -/
inductive Answer (α : Type) where
  | flag (b : Bool)
  | value (v : α)
  | failure (e : WorkflowError)

/-- The answer of an access, and the outcome after it: only a replaced value changes. -/
def access (o : Outcome α) : Access α → Except Failure (Answer α) × Outcome α
  | .hasValue => (.ok (.flag o.isOk), o)
  | .hasError => (.ok (.flag !o.isOk), o)
  | .value => (.value <$> o.unwrap, o)
  | .failure => (.failure <$> o.failure, o)
  | .valueOr fallback => (.ok (.value (o.toOption.getD fallback)), o)
  | .replace v =>
    match o with
    | .ok _ => (.ok (.value v), .ok v)
    | .error e => (.error e.toFailure, .error e)

/-- The answers of several accesses in a row. -/
def accessAll : Outcome α → List (Access α) → List (Except Failure (Answer α))
  | _, [] => []
  | o, a :: rest => (o.access a).1 :: accessAll (o.access a).2 rest

/-! ## Lemmas -/

@[simp] theorem capture_unwrap_ok (v : α) : capture (unwrap (.ok v)) = .ok (.ok v) := rfl

@[simp] theorem capture_unwrap_error (e : WorkflowError) :
    capture (unwrap (.error e : Outcome α)) =
      .ok (.error ⟨e.code, untilNul (e.describe ++ ": " ++ e.code.message)⟩) := rfl

end Outcome

end WorkflowDispatch
