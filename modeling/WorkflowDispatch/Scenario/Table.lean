/-!
# Tables

Objects under labels, in the order in which the labels were first used.

    (t.put l a).find? l = some a        (find?_put)
-/

namespace WorkflowDispatch.Scenario

/-- Objects by label. -/
structure Table (α : Type) where
  entries : List (String × α)

namespace Table

variable {α : Type}

def empty : Table α := ⟨[]⟩

def find? (t : Table α) (label : String) : Option α := t.entries.lookup label

/-- The entries with `a` under the label, in the label's place if it was used before. -/
def putIn (label : String) (a : α) : List (String × α) → List (String × α)
  | [] => [(label, a)]
  | (l, b) :: rest => if label = l then (label, a) :: rest else (l, b) :: putIn label a rest

/-- Puts an object under a label. -/
def put (t : Table α) (label : String) (a : α) : Table α := ⟨putIn label a t.entries⟩

def erase (t : Table α) (label : String) : Table α := ⟨t.entries.filter (·.1 != label)⟩

theorem find?_put (t : Table α) (label : String) (a : α) :
    (t.put label a).find? label = some a := by
  unfold put find?
  induction t.entries with
  | nil => simp [putIn]
  | cons e rest ih =>
    obtain ⟨l, b⟩ := e
    by_cases h : label = l
    · simp [putIn, h]
    · have other : (label == l) = false := by simpa using h
      rw [putIn, if_neg h, List.lookup_cons, other]
      exact ih

end Table

end WorkflowDispatch.Scenario
