/-!
# Reuse of workflow ids

What a start does when its workflow id was used before.  A policy is kept as its number, so that one
from a newer peer passes through unharmed; three numbers have a name.

    ofName? p.name = some p for each named p        (ofName?_name)
-/

namespace WorkflowDispatch

/-- What a start does about a workflow id that was used before. -/
structure ReusePolicy where
  number : Int
  deriving DecidableEq, Repr

namespace ReusePolicy

/-- The id may be used again only after a failed run. -/
def allowDuplicateFailedOnly : ReusePolicy := ⟨0⟩

/-- The id may be used again. -/
def allowDuplicate : ReusePolicy := ⟨1⟩

/-- The id may not be used again. -/
def rejectDuplicate : ReusePolicy := ⟨2⟩

/-- The named policies. -/
def named : List (ReusePolicy × String) :=
  [(allowDuplicateFailedOnly, "AllowDuplicateFailedOnly"), (allowDuplicate, "AllowDuplicate"),
    (rejectDuplicate, "RejectDuplicate")]

/-- The name of a policy. -/
def name (p : ReusePolicy) : String := (named.lookup p).getD "Unknown"

/-- The policy with exactly this name. -/
def ofName? (s : String) : Option ReusePolicy := (named.find? (·.2 == s)).map (·.1)

theorem ofName?_name (p : ReusePolicy) (h : p ∈ named.map (·.1)) : ofName? p.name = some p := by
  simp only [named, List.map_cons, List.map_nil, List.mem_cons, List.not_mem_nil, or_false] at h
  rcases h with rfl | rfl | rfl <;> decide

end ReusePolicy

end WorkflowDispatch
