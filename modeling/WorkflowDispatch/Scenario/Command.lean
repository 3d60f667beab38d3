import WorkflowDispatch.Action.Basic
import WorkflowDispatch.Routing.Target

/-!
# Scenario commands

A command drives one thread: it makes an object, or does something with objects that are named by
labels.  Commands are grouped by what they concern.
-/

namespace WorkflowDispatch.Scenario

/-- How a future is made. -/
inductive FutureSource where
  | ready (result : Except Failure Value)
  /-- The result is supplied later, under this label. -/
  | pending (label : String)
  | deferred (result : Except Failure Value)
  /-- The future is bound to no result. -/
  | unbound

/-! ## Commands -/

/-- Commands on the context of the thread. -/
inductive ContextCommand where
  | enter (mode : Mode) (batch : Option String)
  | exit
  | active
  | current
  | result
  | resultAs (type : ValueType)
  | keepOutcome (v : Value)
  | forgetOutcome

/-- Commands on guards. -/
inductive GuardCommand where
  | make (label : String) (mode : Mode) (batch : Option String)
  | drop (label : String)
  | move (source target : String)
  | assign (source target : String)
  | resultAs (label : String) (type : ValueType)

/-- Commands on batches. -/
inductive BatchCommand where
  | make (label : String)
  | invoke (label : String)
  | start (label handle : String) (args : List Value)
  | signal (label handle name : String) (args : List Value)

/-- Commands on stubs, and the calls made through them. -/
inductive StubCommand where
  | make (label : String) (type : InterfaceType) (handle : Option String)
  | name (label : String)
  | untyped (label : String)
  | workflowType (label : String)
  | describe (label : String)
  | call (label member : String) (args : List Literal)
  | dispatch (label member : String) (args : List Literal)
  | start (label member : String) (args : List Literal)
  | execute (label member : String) (args : List Literal) (future : String)

/-- Commands on futures and on the promises behind them. -/
inductive FutureCommand where
  | make (label : String) (type : ValueType) (source : FutureSource)
  | valid (label : String)
  | get (label : String)
  | wait (label : String)
  | untyped (label : String)
  | fulfil (promise : String) (result : Except Failure Value)

/-- A target, by index or by member. -/
inductive Aim where
  | target (t : Target)
  | member (reference : String)

/-- Commands on routers. -/
inductive RouterCommand where
  | make (label : String) (type : Option InterfaceType)
  | target (label member : String)
  | route (label handle : String) (aim : Aim) (args : List Value)
  | attach (handle : String) (args : List Value)

/-- Commands on the cache and on what is found through it. -/
inductive CacheCommand where
  | fetch (label : String) (type : InterfaceType)
  | describe (label : String)
  | resolve (type : InterfaceType) (declaring : Option InterfaceType)
  | contains (type : InterfaceType)
  | size
  | clear
  | race (type : InterfaceType) (threads : Nat)
  | configure (type : InterfaceType) (caller : WorkflowOptions)

/-- A step without steps inside. -/
inductive Command where
  | context (c : ContextCommand)
  | guard (c : GuardCommand)
  | batch (c : BatchCommand)
  | stub (c : StubCommand)
  | future (c : FutureCommand)
  | router (c : RouterCommand)
  | cache (c : CacheCommand)
  /-- What an interface declares from now on, or what its declaration throws. -/
  | declare (type : InterfaceType) (declaration : Except Failure Declaration)
  | setOptions (handle : String) (options : Option WorkflowOptions)
  | throwFailure (f : Failure)

/-! ## Labels of commands -/

def ContextCommand.label : ContextCommand → String
  | .enter .. => "enter"
  | .exit => "exit"
  | .active => "active"
  | .current => "current"
  | .result => "result"
  | .resultAs _ => "result_as"
  | .keepOutcome _ => "set_result"
  | .forgetOutcome => "clear_result"

def GuardCommand.label : GuardCommand → String
  | .make .. => "guard"
  | .drop _ => "guard_drop"
  | .move .. => "guard_move"
  | .assign .. => "guard_assign"
  | .resultAs .. => "guard_result"

def BatchCommand.label : BatchCommand → String
  | .make _ => "batch"
  | .invoke _ => "invoke"
  | .start .. => "batch_start"
  | .signal .. => "batch_signal"

def StubCommand.label : StubCommand → String
  | .make .. => "stub"
  | .name _ => "to_string"
  | .untyped _ => "untyped"
  | .workflowType _ => "workflow_type"
  | .describe _ => "describe"
  | .call .. => "call"
  | .dispatch .. => "dispatch"
  | .start .. => "start"
  | .execute .. => "execute"

def FutureCommand.label : FutureCommand → String
  | .make .. => "future"
  | .valid _ => "future_valid"
  | .get _ => "future_get"
  | .wait _ => "future_wait"
  | .untyped _ => "future_untyped"
  | .fulfil .. => "fulfil"

def RouterCommand.label : RouterCommand → String
  | .make .. => "router"
  | .target .. => "target"
  | .route .. => "route"
  | .attach .. => "policy_start"

def CacheCommand.label : CacheCommand → String
  | .fetch .. => "cache_get"
  | .describe _ => "cache_describe"
  | .resolve .. => "cache_resolve"
  | .contains _ => "cache_contains"
  | .size => "cache_size"
  | .clear => "cache_clear"
  | .race .. => "cache_race"
  | .configure .. => "config"

def Command.label : Command → String
  | .context c => c.label
  | .guard c => c.label
  | .batch c => c.label
  | .stub c => c.label
  | .future c => c.label
  | .router c => c.label
  | .cache c => c.label
  | .declare .. => "declare"
  | .setOptions .. => "set_options"
  | .throwFailure _ => "throw"

end WorkflowDispatch.Scenario
