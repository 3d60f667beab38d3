import WorkflowDispatch.Numbered

/-!
# Method roles

What a method of a workflow interface is for: it starts the workflow, notifies a running workflow,
or reads its state.
-/

namespace WorkflowDispatch

/-- What a method is for. -/
inductive Role where
  /-- Starts the workflow and names its type. -/
  | entryPoint
  /-- Notifies a running workflow. -/
  | signal
  /-- Reads the state of a running workflow. -/
  | query
  deriving DecidableEq, Repr

namespace Role

def all : List Role := [entryPoint, signal, query]

def number : Role → Int
  | entryPoint => 0
  | signal => 1
  | query => 2

def name : Role → String
  | entryPoint => "EntryPoint"
  | signal => "Signal"
  | query => "Query"

instance : Numbered Role := ⟨all, number, name, "Unknown"⟩

instance : LawfulNumbered Role where
  mem_all a := by cases a <;> decide
  number_inj a b h := by cases a <;> cases b <;> first | rfl | exact absurd h (by decide)

end Role

end WorkflowDispatch
