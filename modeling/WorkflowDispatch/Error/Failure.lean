import WorkflowDispatch.Error.Code

/-!
# Errors and thrown failures

An error is a code with a message of its own.  Throwing it makes a failure whose text is the
description of the error followed by the text of its code.  Other failures carry a text and no code,
or only a number.  The text a catcher sees ends before the first NUL character.

    e.toFailure.code? = some e.code        (code?_toFailure)
-/

namespace WorkflowDispatch

/-! ## Errors -/

/-- A code with the circumstances in words. -/
structure WorkflowError where
  code : ErrorCode
  message : String
  deriving DecidableEq, Repr

namespace WorkflowError

/-- An error of one of the library's kinds. -/
def ofKind (k : ErrorKind) (message : String) : WorkflowError := ⟨.ofKind k, message⟩

/-- The number of the error's kind; an error of another domain counts as unknown. -/
def kindNumber (e : WorkflowError) : Int := e.code.workflowNumber?.getD ErrorKind.unknown.number

/-- The name of the error's kind. -/
def kindName (e : WorkflowError) : String := Numbered.nameOf ErrorKind e.kindNumber

/-- The text of the code, the name of the kind in brackets, and the message if there is one. -/
def describe (e : WorkflowError) : String :=
  let named :=
    match e.code.kindName? with
    | some name => e.code.message ++ " [" ++ name ++ "]"
    | none => e.code.message
  if e.message.isEmpty then named else named ++ ": " ++ e.message

end WorkflowError

/-- The part of a text before its first NUL character. -/
def untilNul (s : String) : String := String.ofList (s.toList.takeWhile (· != '\x00'))

/-! ## Failures -/

/-- What can be thrown. -/
inductive Failure where
  /-- A failure with a code; `text` ends with the text of the code. -/
  | coded (code : ErrorCode) (text : String)
  /-- A failure found while running, with a text only. -/
  | runtime (text : String)
  /-- A broken precondition, with a text only. -/
  | logic (text : String)
  /-- A bare number. -/
  | number (value : Int)
  deriving DecidableEq, Repr

namespace Failure

/-- Throwing a code, with or without a message in front of the text of the code. -/
def ofCode (code : ErrorCode) (message? : Option String) : Failure :=
  match message? with
  | some m => .coded code (m ++ ": " ++ code.message)
  | none => .coded code code.message

def code? : Failure → Option ErrorCode
  | .coded code _ => some code
  | _ => none

/-- The text that a catcher sees; a bare number has none. -/
def visible? : Failure → Option String
  | .coded _ text | .runtime text | .logic text => some (untilNul text)
  | .number _ => none

/-- Whether the failure carries the code of the kind `k`. -/
def isOfKind (k : ErrorKind) (f : Failure) : Bool := f.code? == some (.ofKind k)

end Failure

/-- Throwing an error. -/
def WorkflowError.toFailure (e : WorkflowError) : Failure := .ofCode e.code (some e.describe)

@[simp] theorem Failure.code?_ofCode (code : ErrorCode) (message? : Option String) :
    (Failure.ofCode code message?).code? = some code := by
  cases message? <;> rfl

theorem WorkflowError.code?_toFailure (e : WorkflowError) : e.toFailure.code? = some e.code :=
  Failure.code?_ofCode e.code (some e.describe)

/-! ## Causes -/

/-- A type of causes says of each which kind of failure it is and how it is worded. -/
class Cause (ε : Type) where
  kind : ε → ErrorKind
  message : ε → String

/-- The error that reports a cause. -/
def Cause.toError {ε : Type} [Cause ε] (cause : ε) : WorkflowError :=
  .ofKind (Cause.kind cause) (Cause.message cause)

/-- The failure that reports a cause. -/
def Cause.toFailure {ε : Type} [Cause ε] (cause : ε) : Failure := (Cause.toError cause).toFailure

theorem Cause.isOfKind_toFailure {ε : Type} [Cause ε] (cause : ε) :
    (Cause.toFailure cause).isOfKind (Cause.kind cause) = true := by
  have code : (Cause.toFailure cause).code? = some (.ofKind (Cause.kind cause)) :=
    WorkflowError.code?_toFailure _
  unfold Failure.isOfKind
  rw [code]
  exact beq_self_eq_true _

end WorkflowDispatch
