import WorkflowDispatch.Log.Statement

/-!
# Log sinks

One sink is registered at a time, together with a context that it is given back with every line.
Without a sink a line goes to the error stream.
-/

namespace WorkflowDispatch

/-- A sink, or none, and the context that was given with it. -/
structure Registration where
  sink : Option String
  context : String
  deriving DecidableEq, Repr

/-- Where a line goes. -/
inductive Destination where
  | sink (name context : String)
  | errorStream
  deriving DecidableEq, Repr

/-- A line with the place it was delivered to. -/
structure Delivery where
  destination : Destination
  line : LogLine
  deriving DecidableEq, Repr

namespace Registration

/-- What stands after a reset. -/
def absent : Registration := ⟨none, ""⟩

/-- The registered sink with its context, else the error stream. -/
def destination (r : Registration) : Destination :=
  match r.sink with
  | some name => .sink name r.context
  | none => .errorStream

end Registration

/-! ## Statements, counted -/

/-- What one statement did: how often each of its parts ran, and what it delivered. -/
structure Tally where
  conditions : Nat
  messages : Nat
  delivered : List Delivery
  deriving DecidableEq, Repr

namespace Tally

/-- Nothing has run and nothing was delivered. -/
def zero : Tally := ⟨0, 0, []⟩

/-- A condition that counts how often it runs. -/
def condition (b : Bool) : StateM Tally Bool := do
  modify fun t => { t with conditions := t.conditions + 1 }
  return b

/-- A message that counts how often it is built. -/
def message (text : String) : StateM Tally String := do
  modify fun t => { t with messages := t.messages + 1 }
  return text

/-- Delivers a line under a registration. -/
def deliver (r : Registration) (line : LogLine) : StateM Tally Unit :=
  modify fun t => { t with delivered := t.delivered ++ [⟨r.destination, line⟩] }

/-- The text that was written to the error stream. -/
def errorText (t : Tally) : String :=
  String.join <| t.delivered.map fun d =>
    match d.destination with
    | .errorStream => d.line.render
    | .sink .. => ""

/-- The lines that were handed to a sink, with the context the sink was given. -/
def sinkLines (t : Tally) : List (String × LogLine) :=
  t.delivered.filterMap fun d =>
    match d.destination with
    | .sink _ context => some (context, d.line)
    | .errorStream => none

end Tally

variable [LogThresholds]

/-- What a statement does under a registration; one without a condition is logged in any case. -/
def Registration.emit (r : Registration) (category : LogCategory) (level : LogLevel)
    (condition? : Option Bool) (message : String) : Tally :=
  let statement :=
    match condition? with
    | some b => logIf (Tally.deliver r) category level (Tally.condition b) (Tally.message message)
    | none => logAlways (Tally.deliver r) category level (Tally.message message)
  (statement.run .zero).2

/-! ## Lemmas -/

theorem Registration.emit_of_not_enabled (r : Registration) {category : LogCategory}
    {level : LogLevel} (h : level.enabledFor category = false) (condition? : Option Bool)
    (message : String) : r.emit category level condition? message = .zero := by
  cases condition? <;> simp [emit, logAlways, logIf, h] <;> rfl

theorem Registration.emit_of_enabled (r : Registration) {category : LogCategory}
    {level : LogLevel} (h : level.enabledFor category = true) (message : String) :
    r.emit category level none message = ⟨0, 1, [⟨r.destination, ⟨category, level, message⟩⟩]⟩ := by
  simp only [emit, logAlways, logIf, h]
  rfl

end WorkflowDispatch
