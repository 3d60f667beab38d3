import WorkflowDispatch.Numbered

/-!
# Invocation modes

What a typed call means on the thread that makes it.
-/

namespace WorkflowDispatch

/-- The meaning of a typed call. -/
inductive Mode where
  /-- The call is carried out and its value returned. -/
  | sync
  /-- The workflow is started; the outcome is its execution. -/
  | start
  /-- The workflow is started; the outcome is a future of its result. -/
  | execute
  /-- The call is recorded into a batch of a start and a signal. -/
  | signalWithStart
  deriving DecidableEq, Repr

namespace Mode

def all : List Mode := [sync, start, execute, signalWithStart]

def number : Mode → Int
  | sync => 0
  | start => 1
  | execute => 2
  | signalWithStart => 3

def name : Mode → String
  | sync => "Sync"
  | start => "Start"
  | execute => "Execute"
  | signalWithStart => "SignalWithStart"

instance : Numbered Mode := ⟨all, number, name, "Unknown"⟩

instance : LawfulNumbered Mode where
  mem_all a := by cases a <;> decide
  number_inj a b h := by cases a <;> cases b <;> first | rfl | exact absurd h (by decide)

end Mode

end WorkflowDispatch
