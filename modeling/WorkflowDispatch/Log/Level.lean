import WorkflowDispatch.Numbered

/-!
# Log levels and categories

Six levels in rising order and a seventh that is never logged; five categories.  The library is
built with thresholds: one for all categories, and one of its own for each category that is to
differ.

    level.enabledFor category = true ↔ level ≠ .off ∧ category.minimum ≤ level.number
                                                                    (enabledFor_iff)
-/

namespace WorkflowDispatch

/-! ## Levels -/

/-- How grave a line is; the last level is never logged. -/
inductive LogLevel where
  | trace
  | debug
  | info
  | warn
  | error
  | critical
  | off
  deriving DecidableEq, Repr

namespace LogLevel

def all : List LogLevel := [trace, debug, info, warn, error, critical, off]

def number : LogLevel → Int
  | trace => 0
  | debug => 1
  | info => 2
  | warn => 3
  | error => 4
  | critical => 5
  | off => 6

def name : LogLevel → String
  | trace => "TRACE"
  | debug => "DEBUG"
  | info => "INFO"
  | warn => "WARN"
  | error => "ERROR"
  | critical => "CRITICAL"
  | off => "OFF"

instance : Numbered LogLevel := ⟨all, number, name, "?"⟩

instance : LawfulNumbered LogLevel where
  mem_all a := by cases a <;> decide
  number_inj a b h := by cases a <;> cases b <;> first | rfl | exact absurd h (by decide)

end LogLevel

/-! ## Categories -/

/-- The part of the library that a line comes from. -/
inductive LogCategory where
  | core
  | resolver
  | context
  | dispatch
  | config
  deriving DecidableEq, Repr

namespace LogCategory

def all : List LogCategory := [core, resolver, context, dispatch, config]

def number : LogCategory → Int
  | core => 0
  | resolver => 1
  | context => 2
  | dispatch => 3
  | config => 4

def name : LogCategory → String
  | core => "core"
  | resolver => "resolver"
  | context => "context"
  | dispatch => "dispatch"
  | config => "config"

instance : Numbered LogCategory := ⟨all, number, name, "?"⟩

instance : LawfulNumbered LogCategory where
  mem_all a := by cases a <;> decide
  number_inj a b h := by cases a <;> cases b <;> first | rfl | exact absurd h (by decide)

end LogCategory

/-! ## Thresholds -/

/-- The thresholds that the library is built with.  A build that says nothing logs nothing, and a
category that is not mentioned follows the others. -/
class LogThresholds where
  /-- The number of the lowest level that is logged. -/
  overall : Int := LogLevel.off.number
  /-- The same for one category alone. -/
  own : LogCategory → Option Int := fun _ => none

variable [LogThresholds]

namespace LogCategory

/-- The number of the lowest level at which the category is logged. -/
def minimum (category : LogCategory) : Int :=
  (LogThresholds.own category).getD LogThresholds.overall

/-- The number of the lowest logged level for the category numbered `n`. -/
def threshold (n : Int) : Int :=
  match (Numbered.ofNumber? n : Option LogCategory) with
  | some category => category.minimum
  | none => LogThresholds.overall

end LogCategory

/-! ## Enabled statements -/

/-- A statement is logged when its level counts and reaches the category's threshold. -/
def LogLevel.enabledFor (level : LogLevel) (category : LogCategory) : Bool :=
  level != .off && decide (category.minimum ≤ level.number)

theorem LogLevel.enabledFor_iff (level : LogLevel) (category : LogCategory) :
    level.enabledFor category = true ↔ level ≠ .off ∧ category.minimum ≤ level.number := by
  simp [enabledFor]

end WorkflowDispatch
