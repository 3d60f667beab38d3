import WorkflowDispatch.Log.Level

/-!
# Log statements

A statement has a category, a level, perhaps a condition, and a message.  Condition and message are
actions: a disabled statement runs neither, an enabled one runs its condition once and its message
only when the condition holds.
-/

namespace WorkflowDispatch

/-- A message on its way to its destination. -/
structure LogLine where
  category : LogCategory
  level : LogLevel
  message : String
  deriving DecidableEq, Repr

/-- The line as it is written to the error stream. -/
def LogLine.render (line : LogLine) : String :=
  "[WFROUTE][" ++ line.category.name ++ "][" ++ line.level.name ++ "] " ++ line.message ++ "\n"

variable {m : Type → Type} [Monad m] [LogThresholds]

/-- Delivers a message when the statement is enabled and the condition holds. -/
def logIf (deliver : LogLine → m Unit) (category : LogCategory) (level : LogLevel)
    (condition : m Bool) (message : m String) : m Unit := do
  if level.enabledFor category then
    if ← condition then
      deliver ⟨category, level, ← message⟩

/-- Delivers a message when the statement is enabled. -/
def logAlways (deliver : LogLine → m Unit) (category : LogCategory) (level : LogLevel)
    (message : m String) : m Unit :=
  logIf deliver category level (pure true) message

end WorkflowDispatch
