import WorkflowDispatch.Action.Context

/-!
# Guards

A guard opens a context when it is made and closes it when it is dropped.  Moving a guard hands
the duty to close over to another guard.  `within` holds a guard for exactly one action, however
that ends.

    g.moved = (made, emptied) → made.active = g.active ∧ emptied.active = false    (active_moved)
    runFrom (assign target source) s =
      (.ok source.moved, { s with context := target.leaves s.context })           (runFrom_assign)
-/

namespace WorkflowDispatch

/-- An active guard has a context to close. -/
structure Guard where
  active : Bool
  deriving DecidableEq, Repr

namespace Guard

variable {σ ν α : Type}

/-- A guard with nothing to close. -/
def inactive : Guard := ⟨false⟩

/-- Opens a context and guards it. -/
def enter (mode : Mode) (batch : Option BatchId) : Action σ ν Guard := do
  Action.enter mode batch
  return ⟨true⟩

/-- Closes the context, if it is this guard's to close. -/
def release (g : Guard) : Action σ ν Guard := do
  if g.active then
    Action.exit
  return inactive

/-- The new guard, and the one it was moved from. -/
def moved (g : Guard) : Guard × Guard := (g, inactive)

/-- Moves `source` over `target`, which is released first: the target and the source after it. -/
def assign (target source : Guard) : Action σ ν (Guard × Guard) := do
  let _ ← target.release
  return source.moved

/-- Carries an action out in a context of its own. -/
def within (mode : Mode) (batch : Option BatchId) (body : Action σ ν α) : Action σ ν α := do
  let guard ← enter mode batch
  let ending ← Action.observe body
  let _ ← guard.release
  Action.conclude ending

/-! ## Lemmas -/

/-- What a guard that is released leaves of the context. -/
def leaves (g : Guard) (context : Option Context) : Option Context :=
  if g.active then none else context

theorem runFrom_release (g : Guard) (s : State σ ν) :
    Action.runFrom g.release s = (.ok inactive, { s with context := g.leaves s.context }) := by
  obtain ⟨active⟩ := g
  cases active <;> rfl

/-- The new guard has to close what the other one had to, and that has nothing left. -/
theorem active_moved (g : Guard) :
    g.moved.1.active = g.active ∧ g.moved.2.active = false := ⟨rfl, rfl⟩

/-- A guard that is moved over another one does the same, once the other is released. -/
theorem runFrom_assign (target source : Guard) (s : State σ ν) :
    Action.runFrom (assign target source) s =
      (.ok source.moved, { s with context := target.leaves s.context }) := by
  unfold assign
  rw [Action.runFrom_bind, runFrom_release]
  rfl

end Guard

end WorkflowDispatch
