import WorkflowDispatch.Log.Registration

/-!
# Runs of registrations and statements

Sinks are registered and reset, scopes are opened and ended, and statements are made in between.
A scope registers a sink when it opens; its end falls back to the error stream, whatever was
registered before it or during it.
-/

namespace WorkflowDispatch

/-- One step of a run. -/
inductive LogStep where
  | register (registration : Registration)
  | reset
  | openScope (registration : Registration)
  /-- Ends an open scope, if there is one. -/
  | endScope
  | statement (category : LogCategory) (level : LogLevel) (condition? : Option Bool)
      (message : String)
  deriving DecidableEq, Repr

/-- What is registered, and how many scopes are open. -/
structure LogState where
  current : Registration
  scopes : Nat
  deriving DecidableEq, Repr

namespace LogState

/-- Nothing is registered at the start. -/
def initial : LogState := ⟨.absent, 0⟩

/-- The state after a step. -/
def next (s : LogState) : LogStep → LogState
  | .register r => { s with current := r }
  | .reset => { s with current := .absent }
  | .openScope r => ⟨r, s.scopes + 1⟩
  | .endScope => if s.scopes = 0 then s else ⟨.absent, s.scopes - 1⟩
  | .statement .. => s

/-- What a step does: only statements deliver. -/
def tally [LogThresholds] (s : LogState) : LogStep → Tally
  | .statement category level condition? message =>
    s.current.emit category level condition? message
  | _ => .zero

/-- What each step of a run did. -/
def run [LogThresholds] (s : LogState) : List LogStep → List Tally
  | [] => []
  | step :: rest => s.tally step :: run (s.next step) rest

end LogState

end WorkflowDispatch
