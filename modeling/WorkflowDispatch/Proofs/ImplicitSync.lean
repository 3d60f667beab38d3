import Mathlib.Data.List.Forall2
import WorkflowDispatch.Proofs.CacheHistory
import WorkflowDispatch.Proofs.Conduct
import WorkflowDispatch.Proofs.EarlierOutcome
import WorkflowDispatch.Proofs.Nesting
import WorkflowDispatch.Proofs.TwoRuns

/-!
# Calls without a context

A call without a context is made as one in a Sync context is, but on its own: each call, nested or
not, has its outcome for itself, while in a context all calls share one place for it.  As long as
nobody reads that place the two cannot be told apart.  Two runs are followed side by side: the one
has no context, the other a Sync context holding whatever it may hold, and all else is the same.

    Beside base base' s s' → runs of x from s and s' end alike and are beside each other again
                                                                               (CallsOnly.agree)
-/

namespace WorkflowDispatch

open WorkflowDispatch.Action

variable {σ ν α β : Type}

/-! ## Definitions -/

/-- Looks at the context without drawing conclusions. -/
def Action.peek : Action σ Moment Unit := do let _ ← look

/-- What only calls are made of.  A handle may make further calls while it answers, of stubs that it
has or makes; it opens and closes no context, and what it sees of the context it ignores. -/
inductive CallsOnly : {α : Type} → Action σ Moment α → Prop
  | pure {α : Type} (v : α) : CallsOnly (pure v)
  | bind {α β : Type} {x : Action σ Moment α} {f : α → Action σ Moment β} (first : CallsOnly x)
      (next : ∀ v, CallsOnly (f v)) : CallsOnly (x >>= f)
  | stop {α : Type} (stop : Stop) : CallsOnly (throw stop : Action σ Moment α)
  | attempt {α : Type} {x : Action σ Moment α} (body : CallsOnly x) : CallsOnly (Action.attempt x)
  | outside {α : Type} (f : σ → α × σ) : CallsOnly (Action.outside f)
  | futures {α : Type} (f : List FutureState → α × List FutureState) :
      CallsOnly (Action.onFutures f)
  | peek : CallsOnly Action.peek
  | stub {c : Collaborators σ Moment} (declares : ∀ type, CallsOnly (c.declare type))
      (type : InterfaceType) (handle? : Option HandleId) : CallsOnly (Stub.make c type handle?)
  | route {c : Collaborators σ Moment} (handles : ∀ h call, CallsOnly (c.handle h call))
      (router : Router) (h : HandleId) (target : Target) (args : List Value) :
      CallsOnly (router.route c h target args)
  | call {c : Collaborators σ Moment} (handles : ∀ h call, CallsOnly (c.handle h call))
      (stub : Stub) (m : Member) (args : List Value) : CallsOnly (stub.call c m args)

/-- A call of a stub, of a member or of any target. -/
inductive StubCall where
  | typed (stub : Stub) (m : Member) (args : List Value)
  | untyped (stub : Stub) (target : Target) (args : List Value)

def StubCall.make (c : Collaborators σ ν) : StubCall → Action σ ν (Option Value)
  | typed stub m args => stub.call c m args
  | untyped stub target args => do return some (← stub.router.route c stub.handle target args)

/-- Makes the calls one after another, whether they fail or not, and looks at the context after
each. -/
def makeCalls (c : Collaborators σ Moment) :
    List StubCall → Action σ Moment (List (Except Failure (Option Value)))
  | [] => pure []
  | call :: rest => do
    let outcome ← attempt (call.make c)
    peek
    return outcome :: (← makeCalls c rest)

/-- The same event of two runs: where the one sees no context the other sees a Sync context. -/
inductive SameEvent : Event Moment → Event Moment → Prop where
  | same {e : Event Moment} (unseen : ∀ found, e ≠ .note (.seen found)) : SameEvent e e
  | seen (held : Option Value) :
      SameEvent (.note (.seen none)) (.note (.seen (some ⟨.sync, none, held⟩)))

/-- A run without a context beside one in a Sync context.  After what happened before, the same
events happened in both. -/
structure Beside (before before' : List (Event Moment)) (s s' : State σ Moment) : Prop where
  closed : s.context = none
  opened : ∃ held, s'.context = some ⟨.sync, none, held⟩
  cache_eq : s'.cache = s.cache
  futures_eq : s'.futures = s.futures
  outside_eq : s'.outside = s.outside
  events : ∃ events events', s.trace = before ++ events ∧ s'.trace = before' ++ events' ∧
    List.Forall₂ SameEvent events events'

/-! ## Side by side -/

namespace Beside

variable {before before' : List (Event Moment)} {s s' : State σ Moment}

theorem traced (beside : Beside before before' s s') {e e' : Event Moment}
    (same : SameEvent e e') :
    Beside before before' { s with trace := s.trace ++ [e] }
      { s' with trace := s'.trace ++ [e'] } := by
  obtain ⟨events, events', run, run', alike⟩ := beside.events
  refine { beside with events := ⟨events ++ [e], events' ++ [e'], ?_, ?_, ?_⟩ }
  · show s.trace ++ [e] = _
    rw [run, List.append_assoc]
  · show s'.trace ++ [e'] = _
    rw [run', List.append_assoc]
  · exact List.rel_append alike (.cons same .nil)

/-- It does not matter what the Sync context holds. -/
theorem holding (beside : Beside before before' s s') (held : Option Value) :
    Beside before before' s { s' with context := some ⟨.sync, none, held⟩ } :=
  { beside with opened := ⟨held, rfl⟩ }

theorem forgotten (beside : Beside before before' s s') :
    Beside before before' s.forgotten s'.forgotten := by
  obtain ⟨held, opened⟩ := beside.opened
  refine { beside with closed := ?_, opened := ⟨none, ?_⟩ }
  · show s.context.map _ = none
    rw [beside.closed]
    rfl
  · show s'.context.map _ = _
    rw [opened]
    rfl

theorem modeOf_eq (beside : Beside before before' s s') : Context.modeOf s.context = .sync := by
  rw [beside.closed]
  rfl

theorem modeOf_eq' (beside : Beside before before' s s') :
    Context.modeOf s'.context = .sync := by
  obtain ⟨held, opened⟩ := beside.opened
  rw [opened]
  rfl

/-- The same is logged of a call. -/
theorem begun (beside : Beside before before' s s') (r : RoutedCall) :
    Beside before before' (r.begun s) (r.begun s') := by
  have summary : r.summary (Context.modeOf s'.context) = r.summary (Context.modeOf s.context) := by
    rw [beside.modeOf_eq, beside.modeOf_eq']
  unfold RoutedCall.begun
  rw [summary]
  exact beside.forgotten.traced (.same fun _ same => by cases same)

theorem parallel : Parallel (Beside (σ := σ) before before') where
  logged beside line := beside.traced (.same fun _ same => by cases same)
  called beside call := beside.traced (.same fun _ same => by cases call <;> cases same)
  outside_eq beside := beside.outside_eq
  outside_set beside _ := { beside with outside_eq := rfl }
  futures_eq beside := beside.futures_eq
  futures_set beside _ := { beside with futures_eq := rfl }

end Beside

/-! ## What the library does -/

namespace Action.Agree

variable {before before' : List (Event Moment)}

theorem record {e : Event Moment} (unseen : ∀ found, e ≠ .note (.seen found)) :
    Agree (Beside before before') (Action.record e : Action σ Moment Unit) (Action.record e) :=
  fun _ _ beside => ⟨rfl, beside.traced (.same unseen)⟩

/-- Here the two runs differ, in what they see and in nothing else. -/
theorem peek : Agree (Beside before before') (Action.peek : Action σ Moment Unit) Action.peek := by
  intro s s' beside
  obtain ⟨held, opened⟩ := beside.opened
  have seen : SameEvent (.note (.seen s.context)) (.note (.seen s'.context)) := by
    rw [beside.closed, opened]
    exact .seen held
  exact ⟨rfl, beside.traced seen⟩

/-- A call holds its outcome in the Sync context only. -/
theorem keep (held : Option Value) (v : Value) :
    Agree (Beside before before') (RoutedCall.keep none v : Action σ Moment Unit)
      (RoutedCall.keep (some ⟨.sync, none, held⟩) v) := by
  intro s s' beside
  obtain ⟨earlier, opened⟩ := beside.opened
  refine ⟨rfl, ?_⟩
  show Beside before before' s { s' with context := s'.context.map (Context.keepOutcome v) }
  rw [opened]
  exact beside.holding (some v)

section

variable {c : Collaborators σ Moment}

theorem resolve (d : Declaration) :
    Agree (Beside before before') (Action.resolve d : Action σ Moment Descriptor)
      (Action.resolve d) :=
  bind (expect d.resolve) fun _ => bind (Beside.parallel.log _ _ _) fun _ => pure _

theorem storeDescriptor (type : InterfaceType) (d : Descriptor) :
    Agree (Beside before before') (Action.storeDescriptor type d : Action σ Moment _)
      (Action.storeDescriptor type d) := by
  intro s s' beside
  show Except.ok (s.cache.insert type d).2 = .ok (s'.cache.insert type d).2 ∧ _
  rw [beside.cache_eq]
  exact ⟨rfl, { beside with cache_eq := congrArg (fun c => (c.insert type d).1) beside.cache_eq }⟩

section

variable (declares : ∀ type, Agree (Beside before before') (c.declare type) (c.declare type))

include declares

theorem descriptorOf (type name : InterfaceType) :
    Agree (Beside before before') (Action.descriptorOf c type (some name))
      (Action.descriptorOf c type (some name)) := by
  intro s s' beside
  cases found : s.cache.find? type with
  | some cached =>
    have found' : s'.cache.find? type = some cached := by rw [beside.cache_eq, found]
    rw [runFrom_descriptorOf_hit c found, runFrom_descriptorOf_hit c found']
    exact ⟨rfl, beside.traced (.same fun _ same => by cases same)⟩
  | none =>
    have found' : s'.cache.find? type = none := by rw [beside.cache_eq, found]
    let store (descriptor : Descriptor) : Action σ Moment CachedDescriptor :=
      if descriptor.type = type then Action.storeDescriptor type descriptor
      else Action.refuse (CacheError.foreignType descriptor.name)
    have stored (descriptor : Descriptor) :
        Agree (Beside before before') (store descriptor) (store descriptor) := by
      unfold store
      by_cases own : descriptor.type = type
      · rw [if_pos own]
        exact storeDescriptor type descriptor
      · rw [if_neg own]
        exact stop _
    have asked : Agree (Beside before before') (askDeclaration c name) (askDeclaration c name) :=
      bind (record fun _ same => by cases same) fun _ => declares name
    rw [runFrom_descriptorOf_miss c found, runFrom_descriptorOf_miss c found']
    exact bind asked (fun d => bind (resolve d) stored) _ _
      (beside.traced (.same fun _ same => by cases same))

theorem stub (type : InterfaceType) (handle? : Option HandleId) :
    Agree (Beside before before') (Stub.make c type handle?) (Stub.make c type handle?) := by
  refine bind (descriptorOf declares type type) fun cached => ?_
  cases handle? with
  | some handle => exact pure _
  | none => exact stop _

end

section

variable (handles : ∀ h call, Agree (Beside before before') (c.handle h call) (c.handle h call))

include handles

/-- A call is made alike without a context and in a Sync context. -/
theorem make (r : RoutedCall) (held : Option Value) :
    Agree (Beside before before') (r.make c none) (r.make c (some ⟨.sync, none, held⟩)) :=
  bind (Beside.parallel.carryOut handles r) fun v => bind (keep held v) fun _ => pure v

theorem route (router : Router) (h : HandleId) (target : Target) (args : List Value) :
    Agree (Beside before before') (router.route c h target args)
      (router.route c h target args) := by
  cases target with
  | reserved question => exact pure _
  | undeclared description => exact stop _
  | method i =>
    intro s s' beside
    cases routed : router.descriptor.routedCall h i args with
    | error e =>
      rw [runFrom_route_error c routed, runFrom_route_error c routed]
      exact ⟨rfl, beside.forgotten⟩
    | ok r =>
      obtain ⟨held, opened⟩ := beside.opened
      rw [runFrom_route_ok c routed, runFrom_route_ok c routed, beside.closed, opened]
      exact make handles r held _ _ (beside.begun r)

theorem call (stub : Stub) (m : Member) (args : List Value) :
    Agree (Beside before before') (stub.call c m args) (stub.call c m args) := by
  intro s s' beside
  have answered : Agree (Beside before before')
      (stub.untypedCall c m args >>= fun v =>
        Action.expect (stub.typedAnswer m.signature.returns .sync v))
      (stub.untypedCall c m args >>= fun v =>
        Action.expect (stub.typedAnswer m.signature.returns .sync v)) :=
    bind (route handles stub.router stub.handle _ args) fun v => expect _
  have answerable : Stub.answerable m.signature.returns .sync = true := rfl
  rw [runFrom_call, runFrom_call, beside.modeOf_eq, beside.modeOf_eq', if_pos answerable,
    if_pos answerable]
  exact answered s s' beside

end

end

end Action.Agree

/-! ## Calls -/

/-- Calls, and what handles make of calls while they answer, go alike in the two runs. -/
theorem CallsOnly.agree {x : Action σ Moment α} (only : CallsOnly x)
    (before before' : List (Event Moment)) : Agree (Beside before before') x x := by
  -- The handles of a nested call are among its premises: their answers agree by induction.
  induction only with
  | pure v => exact .pure v
  | bind _ _ first next => exact .bind first next
  | stop e => exact .stop e
  | attempt _ body => exact .attempt body
  | outside f => exact Beside.parallel.outside f
  | futures f => exact Beside.parallel.futures f
  | peek => exact .peek
  | stub _ type handle? declares => exact .stub declares type handle?
  | route _ router h target args handles => exact .route handles router h target args
  | call _ stub m args handles => exact .call handles stub m args

theorem StubCall.callsOnly {c : Collaborators σ Moment}
    (handles : ∀ h call, CallsOnly (c.handle h call)) (call : StubCall) :
    CallsOnly (call.make c) := by
  cases call with
  | typed stub m args => exact .call handles stub m args
  | untyped stub target args =>
    exact .bind (.route handles stub.router stub.handle target args) fun _ => .pure _

theorem makeCalls_callsOnly {c : Collaborators σ Moment}
    (handles : ∀ h call, CallsOnly (c.handle h call)) (calls : List StubCall) :
    CallsOnly (makeCalls c calls) := by
  induction calls with
  | nil => exact .pure _
  | cons call rest ih =>
    exact .bind (.attempt (call.callsOnly handles)) fun outcome => .bind .peek fun _ =>
      .bind ih fun outcomes => .pure _

/-- Where the one run sees a context, the other sees none. -/
theorem unseen_of_sameEvents {events events' : List (Event Moment)}
    (alike : List.Forall₂ SameEvent events events') {found : Option Context}
    (seen : .note (.seen found) ∈ events) : found = none := by
  induction alike with
  | nil => cases seen
  | cons same _ ih =>
    rcases List.mem_cons.1 seen with rfl | later
    · cases same with
      | same unseen => exact absurd rfl (unseen found)
      | seen => rfl
    · exact ih later

/-! ## A handle that confers -/

/-- Handles that look at the context before they tell how far the workflow is. -/
def peeking : Collaborators Unit Moment where
  handle _
    | .query .. => do
      peek
      return .string "RUNNING"
    | _ => throw (.thrown (.logic "not expected"))
  batch _ _ := pure ()
  declare type := pure ⟨type.name, type, .empty, []⟩

/-- Handles that ask another workflow for its status before they give a result. -/
def conferring : Collaborators Unit Moment where
  handle h
    | .start _ => pure ⟨"greeter-1", "run-1"⟩
    | .getResult _ => do
      let _ ← attempt (bob.call peeking ⟨"Greeter", "status", .string, [], true⟩ [])
      peek
      return .string "Hello Ann"
    | call => peeking.handle h call
  batch := peeking.batch
  declare := peeking.declare

theorem peeking_callsOnly (h : HandleId) (call : HandleCall) :
    CallsOnly (peeking.handle h call) := by
  cases call with
  | query => exact .bind .peek fun _ => .pure _
  | start | signal | getResult | getResultAsync | signalWithStart | getOptions => exact .stop _

theorem conferring_callsOnly (h : HandleId) (call : HandleCall) :
    CallsOnly (conferring.handle h call) := by
  cases call with
  | start => exact .pure _
  | getResult =>
    exact .bind (.attempt (.call peeking_callsOnly bob _ _)) fun _ => .bind .peek fun _ => .pure _
  | query name type args => exact peeking_callsOnly h (.query name type args)
  | signal | getResultAsync | signalWithStart | getOptions => exact .stop _

/-! ## Top theorem -/

/-- **A call without a context is a Sync call on its own.**  Calls are made one after another, and
the handles make further calls while they answer, to any depth.  Without a context they end as they
do in a Sync context: each call gives the same value or throws the same failure.  The same handles
are called with the same arguments and the same is logged, in the same order.  Without a context
nobody ever sees one, and no outcome can be read afterwards. -/
theorem calls_without_context_are_sync {c : Collaborators σ Moment}
    (handles : ∀ h call, CallsOnly (c.handle h call)) (calls : List StubCall)
    {s : State σ Moment} (closed : s.context = none) :
    let plain := runFrom (makeCalls c calls) s
    let sync := runFrom (do Action.enter .sync none; makeCalls c calls) s
    let enters : Event Moment := .log ⟨.context, .trace, "enter Sync"⟩
    plain.1 = sync.1 ∧
      (∃ events events', plain.2.trace = s.trace ++ events ∧
        sync.2.trace = s.trace ++ enters :: events' ∧ List.Forall₂ SameEvent events events' ∧
        ∀ found, .note (.seen found) ∈ events → found = none) ∧
      sync.2.outside = plain.2.outside ∧ sync.2.futures = plain.2.futures ∧
      sync.2.cache = plain.2.cache ∧
      plain.2.context = none ∧
      runFrom Action.currentOutcome plain.2 =
        (.error (.thrown (Cause.toFailure ContextError.noContext)), plain.2) := by
  intro plain sync enters
  let opened : State σ Moment :=
    { s with context := some ⟨.sync, none, none⟩, trace := s.trace ++ [enters] }
  have entered : runFrom (Action.enter .sync none) s = (.ok (), opened) := by
    rw [runFrom_enter, closed]
    rfl
  have sync_eq : sync = runFrom (makeCalls c calls) opened := by
    show runFrom (Action.enter .sync none >>= fun _ => makeCalls c calls) s = _
    rw [runFrom_bind, entered]
  have start : Beside s.trace (s.trace ++ [enters]) s opened :=
    ⟨closed, ⟨none, rfl⟩, rfl, rfl, rfl, [], [], by simp, by simp [opened], .nil⟩
  obtain ⟨same, beside⟩ := (makeCalls_callsOnly handles calls).agree _ _ s opened start
  rw [← sync_eq] at same beside
  obtain ⟨events, events', happened, happened', alike⟩ := beside.events
  refine ⟨same, ⟨events, events', happened, ?_, alike, fun found seen => ?_⟩, beside.outside_eq,
    beside.futures_eq, beside.cache_eq, beside.closed, ?_⟩
  · rw [happened', List.append_assoc]
    rfl
  · exact unseen_of_sameEvents alike seen
  · rw [runFrom_currentOutcome, show plain.2.context = none from beside.closed]
    rfl

/-- The status that is asked for within the greeting, and the one after it, go through the one
place that the Sync context has for outcomes; without a context the calls give the same. -/
theorem conferring_answers_alike :
    let ann : Stub := ⟨⟨1, "ann"⟩, ⟨greeter⟩⟩
    let calls : List StubCall :=
      [.typed ann ⟨"Greeter", "greet", .string, [.string], false⟩ [.string "Ann"],
        .untyped ann (.method 2) []]
    let s : State Unit Moment := .initial ()
    let plain := runFrom (makeCalls conferring calls) s
    let sync := runFrom (do Action.enter .sync none; makeCalls conferring calls) s
    let bobs : Call := .handle ⟨2, "bob"⟩ (.query "status" .string [])
    plain.1 = .ok [.ok (some (.string "Hello Ann")), .ok (some (.string "RUNNING"))] ∧
      sync.1 = plain.1 ∧ bobs ∈ plain.2.calls ∧
      sync.2.context = some ⟨.sync, none, some (.string "RUNNING")⟩ ∧
      runFrom Action.currentOutcome plain.2 =
        (.error (.thrown (Cause.toFailure ContextError.noContext)), plain.2) := by
  intro ann calls s plain sync bobs
  obtain ⟨same, -, -, -, -, -, unreadable⟩ :=
    calls_without_context_are_sync conferring_callsOnly calls (s := s) rfl
  exact ⟨rfl, same.symm, by decide, rfl, unreadable⟩

end WorkflowDispatch
