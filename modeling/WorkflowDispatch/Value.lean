/-!
# Values

The values that are passed to a workflow and come back from it, tagged with their type.  A value
is of a type when its tag is exactly that type: a 32-bit number is not a 64-bit one.  The empty
value has no type.

    v.type? = some t ↔ v.hasType t = true        (hasType_iff)
-/

namespace WorkflowDispatch

/-! ## Types -/

/-- The type of a workflow interface, known by its name. -/
structure InterfaceType where
  name : String
  deriving DecidableEq, Repr

/-- What a method can be declared to return. -/
inductive ValueType where
  | void
  | string
  /-- A 32-bit number. -/
  | int
  | bool
  /-- A 64-bit number. -/
  | long
  /-- An identifier without a default. -/
  | receipt
  | list
  | execution
  | future
  | handle
  | interface (type : InterfaceType)
  deriving DecidableEq, Repr

def ValueType.name : ValueType → String
  | .void => "void"
  | .string => "string"
  | .int => "int"
  | .bool => "bool"
  | .long => "long"
  | .receipt => "receipt"
  | .list => "list"
  | .execution => "execution"
  | .future => "future"
  | .handle => "handle"
  | .interface type => type.name

def ValueType.isVoid (t : ValueType) : Bool := t == .void

/-! ## Values -/

/-- One run of a workflow. -/
structure Execution where
  workflowId : String
  runId : String
  deriving DecidableEq, Repr

/-- Which workflow handle; the label is for reports. -/
structure HandleId where
  serial : Nat
  label : String
  deriving DecidableEq, Repr

/-- A reference to a workflow handle; the null reference is to none. -/
structure HandleRef where
  handle? : Option HandleId
  deriving DecidableEq, Repr

def HandleRef.null : HandleRef := ⟨none⟩

/-- The label of the handle that is referred to. -/
def HandleRef.label (r : HandleRef) : String := (r.handle?.map HandleId.label).getD "null"

/-- Which shared future; one that was never bound to a result has no number. -/
structure FutureRef where
  cell? : Option Nat
  deriving DecidableEq, Repr

/-- A future that is bound to no result. -/
def FutureRef.unbound : FutureRef := ⟨none⟩

def FutureRef.isBound (f : FutureRef) : Bool := f.cell?.isSome

/-- A value with the tag of its type. -/
inductive Value where
  | empty
  | string (s : String)
  | int (n : Int)
  | bool (b : Bool)
  | long (n : Int)
  | receipt (id : String)
  | list (items : List String)
  | execution (e : Execution)
  | future (f : FutureRef)
  | handle (h : HandleRef)
  deriving DecidableEq, Repr

namespace Value

/-- The type of a value; the empty value has none. -/
def type? : Value → Option ValueType
  | empty => none
  | string _ => some .string
  | int _ => some .int
  | bool _ => some .bool
  | long _ => some .long
  | receipt _ => some .receipt
  | list _ => some .list
  | execution _ => some .execution
  | future _ => some .future
  | handle _ => some .handle

/-- Whether the value is of exactly this type. -/
def hasType (v : Value) (t : ValueType) : Bool := v.type? == some t

theorem hasType_iff (v : Value) (t : ValueType) : v.hasType t = true ↔ v.type? = some t := by
  simp [hasType]

end Value

/-- The default value of a type, if it has one. -/
def ValueType.default? : ValueType → Option Value
  | .string => some (.string "")
  | .int => some (.int 0)
  | .bool => some (.bool false)
  | .long => some (.long 0)
  | .list => some (.list [])
  | .execution => some (.execution ⟨"", ""⟩)
  | .future => some (.future .unbound)
  | .handle => some (.handle .null)
  | .void | .receipt | .interface _ => none

theorem ValueType.hasType_default {t : ValueType} {v : Value} (h : t.default? = some v) :
    v.hasType t = true := by
  cases t <;> simp [default?] at h <;> subst h <;> rfl

/-! ## Literals -/

/-- An argument as it is written, before it takes the type of its parameter. -/
inductive Literal where
  | text (s : String)
  | number (n : Int)
  deriving DecidableEq, Repr

/-- The literal as a value of the parameter's type: numbers wrap to the parameter's width, and any
number but zero is true. -/
def ValueType.pack? : ValueType → Literal → Option Value
  | .string, .text s => some (.string s)
  | .int, .number n => some (.int (n.bmod (Nat.pow 2 32)))
  | .bool, .number n => some (.bool (n != 0))
  | .long, .number n => some (.long (n.bmod (Nat.pow 2 64)))
  | _, _ => none

end WorkflowDispatch
