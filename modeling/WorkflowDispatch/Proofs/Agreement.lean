import WorkflowDispatch.Proofs.EarlierOutcome
import WorkflowDispatch.Proofs.Nesting

/-!
# Waiting now or later

A workflow can be called, which waits for its result, or executed, which gives a future that is
waited for afterwards.  The two go through different modes, hold the result in different places and
check its type each in a way of its own.  They agree all the same: two handles that answer alike are
asked alike, and the two runs end alike.

    Alike B c h c' h' → B s s' → startOrAttach ends alike and B holds again   (Alike.attaching)
    (runFrom (r.make c none) s).1 = the answer to getResult, after the start     (runFrom_make_sync)
-/

namespace WorkflowDispatch

open WorkflowDispatch.Action

variable {σ σ' ν ν' : Type}

/-! ## Definitions -/

/-- The future is bound to a result that is there, or is computed when it is asked for. -/
def FutureRef.Yields (f : FutureRef) (result : Except Failure Value)
    (futures : List FutureState) : Prop :=
  ∃ cell, f.cell? = some cell ∧
    (futures[cell]? = some (.ready result) ∨ futures[cell]? = some (.deferred result))

/-- Two handles that answer alike.  `B` says when the two worlds are alike: the first while a call
without a context is carried out, the second while a call in a context of its own is, which the
handle leaves open.  It does not matter what is logged. -/
structure Alike (B : State σ ν → State σ' ν' → Prop) (c : Collaborators σ ν) (h : HandleId)
    (c' : Collaborators σ' ν') (h' : HandleId) : Prop where
  opened : ∀ {s s'}, B s s' → ∃ held, s'.context = some ⟨.execute, none, held⟩
  logged : ∀ {s s'} line, B s s' → B { s with trace := s.trace ++ [.log line] } s'
  logged' : ∀ {s s'} line, B s s' → B s { s' with trace := s'.trace ++ [.log line] }
  /-- What the first handle answers to a start, the second one does, -/
  start : ∀ {args s s' answer t}, B s s' →
    runFrom (callHandle c h (.start args)) s = (answer, t) →
      ∃ t', runFrom (callHandle c' h' (.start args)) s' = (answer, t') ∧ B t t'
  /-- and so it is with the question for the options. -/
  options : ∀ {s s' answer t}, B s s' → runFrom (callHandle c h .getOptions) s = (answer, t) →
    ∃ t', runFrom (callHandle c' h' .getOptions) s' = (answer, t') ∧ B t t'
  /-- What the first handle gives or throws as the result, the future of the second one yields. -/
  result : ∀ {type s s' answer t}, B s s' →
    runFrom (callHandle c h (.getResult type)) s = (answer, t) →
      ∃ result f t', answer = result.mapError .thrown ∧
        runFrom (callHandle c' h' (.getResultAsync type)) s' = (.ok f, t') ∧
        f.Yields result t'.futures ∧ B t t'

/-- How a call ends that asks for a result of some type. -/
def ValueType.settle (type : ValueType) (mismatch : Failure) :
    Ending Value → Ending (Option Value)
  | .error stop => .error stop
  | .ok v =>
    if type.isVoid then .ok none
    else if v.hasType type then .ok (some v)
    else .error (.thrown mismatch)

/-- Both runs end as the same result is settled, each with a mismatch of its own. -/
structure ValueType.SettlesAlike (type : ValueType) (result : Ending Value)
    (ending ending' : Ending (Option Value)) : Prop where
  now : ∃ mismatch, mismatch.isOfKind .returnTypeMismatch = true ∧
    ending = type.settle mismatch result
  later : ∃ mismatch, mismatch.isOfKind .returnTypeMismatch = true ∧
    ending' = type.settle mismatch result

/-- A run from `s` to `last` carries the call out, for which it talks from `begun` on.  It puts
these questions to the handle, as the protocol of the mode has it, and no more calls are made in
it if the world is quiet. -/
structure RoutedCall.Enacted (c : Collaborators σ ν) (r : RoutedCall) (mode : Mode)
    (s begun last : State σ ν) (asked : List HandleCall) (outcome : Ending Value) : Prop where
  talked : ∃ turns t, Protocol r none mode .entryPoint turns outcome ∧ Talk c begun turns t ∧
    callsOf turns = asked.map (.handle r.handle)
  quietly : c.Quiet → last.calls = s.calls ++ asked.map (.handle r.handle)

/-! ## Waiting -/

theorem runFrom_await {f : FutureRef} {result : Except Failure Value} {s : State σ ν}
    (yields : f.Yields result s.futures) :
    ∃ t, runFrom (await f) s = (result.mapError .thrown, t) ∧ t.calls = s.calls := by
  obtain ⟨cell, bound, there | put_off⟩ := yields
  · have found : runFrom (futureState f : Action σ ν _) s = (.ok (some (.ready result)), s) := by
      show (Except.ok (f.cell?.bind _), s) = _
      rw [bound]
      exact congrArg (fun state => (Except.ok state, s)) there
    refine ⟨s, ?_, rfl⟩
    unfold await
    rw [runFrom_bind, found]
    cases result <;> rfl
  · have found : runFrom (futureState f : Action σ ν _) s = (.ok (some (.deferred result)), s) := by
      show (Except.ok (f.cell?.bind _), s) = _
      rw [bound]
      exact congrArg (fun state => (Except.ok state, s)) put_off
    let computed : State σ ν :=
      { s with trace := s.trace ++ [.deferred], futures := s.futures.set cell (.ready result) }
    refine ⟨computed, ?_, (calls_traced s .deferred).trans (List.append_nil _)⟩
    unfold await
    rw [runFrom_bind, found]
    simp only [bound]
    cases result <;> rfl

/-- A check of the type ends the call as it is settled. -/
theorem runFrom_expect_typed {ε : Type} [Cause ε] (type : ValueType) (mismatch : ε) (v : Value)
    (s : State σ ν) :
    runFrom (expect (if type.isVoid then .ok none
        else if v.hasType type then .ok (some v) else .error mismatch)) s =
      (type.settle (Cause.toFailure mismatch) (.ok v), s) := by
  have settled : type.settle (Cause.toFailure mismatch) (.ok v) =
      if type.isVoid then .ok none
      else if v.hasType type then .ok (some v)
      else .error (.thrown (Cause.toFailure mismatch)) := rfl
  rw [settled]
  cases type.isVoid with
  | true => rfl
  | false =>
    cases v.hasType type with
    | true => rfl
    | false => rfl

/-- The type of the result is checked when the future is waited for. -/
theorem ResultFuture.runFrom_get (type : ValueType) {f : FutureRef}
    {result : Except Failure Value} {s : State σ ν} (yields : f.Yields result s.futures) :
    ∃ t, runFrom (ResultFuture.get ⟨type, f⟩) s =
        (type.settle (Cause.toFailure (ResultFutureError.wrongType type)) (result.mapError .thrown),
          t) ∧
      t.calls = s.calls := by
  obtain ⟨t, awaited, same⟩ := runFrom_await yields
  have valid : ResultFuture.isValid ⟨type, f⟩ = true := by
    obtain ⟨cell, bound, -⟩ := yields
    show f.cell?.isSome = true
    rw [bound]
    rfl
  refine ⟨t, ?_, same⟩
  unfold get
  rw [if_pos valid, runFrom_bind, awaited]
  cases result with
  | error failure => rfl
  | ok v => exact runFrom_expect_typed type (ResultFutureError.wrongType type) v t

/-- A call without a context checks the type at once. -/
theorem Stub.runFrom_typedAnswer (stub : Stub) (type : ValueType) (v : Value) (s : State σ ν) :
    runFrom (expect (stub.typedAnswer type .sync v) : Action σ ν (Option Value)) s =
      (type.settle (Cause.toFailure (StubError.wrongType stub.descriptor.name)) (.ok v), s) :=
  runFrom_expect_typed type (StubError.wrongType stub.descriptor.name) v s

/-! ## Asking for the result -/

/-- A call of an entry point without a context starts, and asks for the result. -/
theorem RoutedCall.runFrom_make_sync (c : Collaborators σ ν) {r : RoutedCall}
    (role : r.resolved.role = .entryPoint) (s : State σ ν) :
    runFrom (r.make c none) s = runFrom (do
      let _ ← startOrAttach c r.handle r.args
      callHandle c r.handle (.getResult r.returns)) s := by
  have carried : r.carryOut c = (do
      let _ ← startOrAttach c r.handle r.args
      callHandle c r.handle (.getResult r.returns)) := by
    unfold carryOut
    rw [role]
  have nowhere (t : State σ ν) (outcome : Ending Value) : t.holding none outcome = t := by
    cases outcome <;> rfl
  have plain : Context.modeOf none ≠ .signalWithStart := nofun
  have run : runFrom (r.make c none) s = _ := runFrom_then_keep plain (r.carryOut c) id s
  rw [run, Except.map_id, nowhere, carried]
  rfl

/-- In Execute mode it asks for a future instead. -/
theorem RoutedCall.runFrom_startForFuture (c : Collaborators σ ν) {r : RoutedCall}
    (role : r.resolved.role = .entryPoint) (s : State σ ν) :
    runFrom (r.startForFuture c) s = runFrom (do
      let _ ← startOrAttach c r.handle r.args
      return Value.future (← callHandle c r.handle (.getResultAsync r.returns))) s := by
  unfold startForFuture onlyEntryPoint
  rw [if_pos role]
  rfl

/-! ## Starting alike -/

section

variable {B : State σ ν → State σ' ν' → Prop} {c : Collaborators σ ν} {h : HandleId}
  {c' : Collaborators σ' ν'} {h' : HandleId} (alike : Alike B c h c' h') {args : List Value}
  {s t : State σ ν} {s' : State σ' ν'}

include alike

/-- A start that is followed by the question for the options. -/
theorem Alike.start_then_options {started : Ending Execution}
    {answered : Ending HandleCall.getOptions.Answer} (related : B s s')
    (talk : Talk c s
      [.asked (.handle h (.start args)) started, .asked (.handle h .getOptions) answered] t) :
    ∃ t', Talk c' s'
        [.asked (.handle h' (.start args)) started, .asked (.handle h' .getOptions) answered] t' ∧
      B t t' := by
  obtain ⟨u, start, rest⟩ := talk.of_asked
  obtain ⟨u', start', between⟩ := alike.start related start
  obtain ⟨t', options', after⟩ := alike.options between rest.of_single
  have second : Talk c' u' [.asked (.handle h' .getOptions) answered] t' := .single options'
  exact ⟨t', .asked (.handle h' (.start args)) _ start' second, after⟩

/-- Handles that answer alike are asked the same questions, and their starts are settled alike. -/
theorem Alike.attaching {turns : List Turn} {ending : Ending StartResult} (related : B s s')
    (attaching : Attaching h args turns ending) (talk : Talk c s turns t) :
    ∃ (asked : List HandleCall) (turns' : List Turn) (t' : State σ' ν'),
      callsOf turns = asked.map (.handle h) ∧ callsOf turns' = asked.map (.handle h') ∧
      Attaching h' args turns' ending ∧ Talk c' s' turns' t' ∧ B t t' := by
  cases attaching with
  | started e =>
    obtain ⟨t', start', after⟩ := alike.start related talk.of_single
    exact ⟨[.start args], _, t', rfl, rfl, .started e, .single start', after⟩
  | failed other =>
    obtain ⟨t', start', after⟩ := alike.start related talk.of_single
    exact ⟨[.start args], _, t', rfl, rfl, .failed other, .single start', after⟩
  | undecided duplicate =>
    obtain ⟨t', talk', after⟩ := alike.start_then_options related talk
    exact ⟨[.start args, .getOptions], _, t', rfl, rfl, .undecided duplicate, talk', after⟩
  | refused duplicate permits =>
    obtain ⟨t', talk', after⟩ := alike.start_then_options related talk
    exact ⟨[.start args, .getOptions], _, t', rfl, rfl, .refused duplicate permits, talk', after⟩
  | @attached failure _ duplicate forbids =>
    have talk : Talk c s ([_, _] ++ [.logged (suppressedLine failure)]) t := talk
    obtain ⟨u, asking, last⟩ := talk.of_append
    obtain rfl := last.of_logged
    obtain ⟨u', asking', after⟩ := alike.start_then_options related asking
    have talk' := asking'.append (.logged (suppressedLine failure) (.done _))
    exact ⟨[.start args, .getOptions], _, _, rfl, rfl, .attached duplicate forbids, talk',
      alike.logged' _ (alike.logged _ after)⟩

end

/-! ## The two ways -/

/-- Calls of the member are calls of a method that starts the workflow. -/
structure Stub.Starts (stub : Stub) (m : Member) (args : List Value) (r : RoutedCall) : Prop where
  routed : ∃ i, stub.descriptor.find m = some i ∧
    stub.descriptor.routedCall stub.handle i args = .ok r
  role : r.resolved.role = .entryPoint

/-- The thread has entered a context for one execution. -/
def State.executing (s : State σ ν) : State σ ν :=
  { s with
    context := some ⟨.execute, none, none⟩
    trace := s.trace ++ [.log ⟨.context, .trace, "enter Execute"⟩] }

section

variable (c : Collaborators σ ν) {stub : Stub} {m : Member} {args : List Value} {r : RoutedCall}
  {s : State σ ν}

theorem Stub.Starts.runFrom_untypedCall (starts : stub.Starts m args r) (s : State σ ν) :
    runFrom (stub.untypedCall c m args) s = runFrom (r.make c s.context) (r.begun s) := by
  obtain ⟨i, found, routed⟩ := starts.routed
  rw [Stub.untypedCall_of_find c found]
  exact runFrom_route_ok c routed s

@[simp] theorem State.calls_executing (s : State σ ν) : s.executing.calls = s.calls :=
  calls_logged { s with context := some ⟨.execute, none, none⟩ } _

/-- The call is carried out by its talk, after which nothing is asked any more. -/
theorem RoutedCall.Enacted.of_talk {c : Collaborators σ ν} {r : RoutedCall} {mode : Mode}
    {s begun t last : State σ ν} {asked : List HandleCall} {outcome : Ending Value}
    {turns : List Turn} (before : begun.calls = s.calls)
    (protocol : Protocol r none mode .entryPoint turns outcome) (talk : Talk c begun turns t)
    (asks : callsOf turns = asked.map (.handle r.handle)) (after : last.calls = t.calls) :
    r.Enacted c mode s begun last asked outcome where
  talked := ⟨turns, t, protocol, talk, asks⟩
  quietly quiet := by rw [after, talk.calls_eq quiet, before, asks]

/-- A call without a context ends as the result is settled for which it asks. -/
theorem Stub.Starts.runFrom_call (starts : stub.Starts m args r) (closed : s.context = none)
    {result : Ending Value} {t : State σ ν}
    (ran : runFrom (do
        let _ ← startOrAttach c r.handle r.args
        callHandle c r.handle (.getResult r.returns)) (r.begun s) = (result, t)) :
    runFrom (stub.call c m args) s =
      (m.signature.returns.settle
        (Cause.toFailure (StubError.wrongType stub.descriptor.name)) result, t) := by
  have mode : Context.modeOf s.context = .sync := by
    rw [closed]
    rfl
  have untyped : runFrom (stub.untypedCall c m args) s = (result, t) := by
    rw [starts.runFrom_untypedCall, closed, RoutedCall.runFrom_make_sync c starts.role, ran]
  have answerable : Stub.answerable m.signature.returns .sync = true := rfl
  rw [WorkflowDispatch.runFrom_call, mode, if_pos answerable, runFrom_bind, untyped]
  cases result with
  | error stop => rfl
  | ok v => exact stub.runFrom_typedAnswer _ v t

/-- It fails as its start does. -/
theorem Stub.Starts.runFrom_call_failed (starts : stub.Starts m args r)
    (closed : s.context = none) {stop : Stop} {t : State σ ν}
    (failed : runFrom (startOrAttach c r.handle r.args) (r.begun s) = (.error stop, t)) :
    runFrom (stub.call c m args) s = (.error stop, t) := by
  have ran : runFrom (do
      let _ ← startOrAttach c r.handle r.args
      callHandle c r.handle (.getResult r.returns)) (r.begun s) = (.error stop, t) := by
    rw [runFrom_bind, failed]
  exact starts.runFrom_call c closed ran

/-- After the start it asks for the result. -/
theorem Stub.Starts.runFrom_call_ok (starts : stub.Starts m args r) (closed : s.context = none)
    {start : StartResult} {result : Ending Value} {t u : State σ ν}
    (started : runFrom (startOrAttach c r.handle r.args) (r.begun s) = (.ok start, t))
    (answered : runFrom (callHandle c r.handle (.getResult r.returns)) t = (result, u)) :
    runFrom (stub.call c m args) s =
      (m.signature.returns.settle
        (Cause.toFailure (StubError.wrongType stub.descriptor.name)) result, u) := by
  refine starts.runFrom_call c closed ?_
  rw [runFrom_bind, started]
  exact answered

theorem runFrom_enter_execute (closed : s.context = none) :
    runFrom (Action.enter .execute none) s = (.ok (), s.executing) := by
  rw [runFrom_enter, closed]
  exact runFrom_log ..

/-- The call of an execution holds the future in the context of the execution. -/
theorem RoutedCall.runFrom_make_executing (r : RoutedCall) (s t : State σ ν) :
    runFrom (r.make c s.executing.context) t =
      ((runFrom (r.startForFuture c) t).1.map fun _ => .empty,
        (runFrom (r.startForFuture c) t).2.holding s.executing.context
          (runFrom (r.startForFuture c) t).1) := by
  have plain : Context.modeOf s.executing.context ≠ .signalWithStart := nofun
  exact runFrom_then_keep plain (r.startForFuture c) (fun _ => .empty) t

/-- An execution fails as its start does. -/
theorem Stub.Starts.runFrom_execute_failed (starts : stub.Starts m args r)
    (closed : s.context = none) {stop : Stop} {t : State σ ν}
    (failed : runFrom (startOrAttach c r.handle r.args) (r.begun s.executing) =
      (.error stop, t)) :
    runFrom (stub.execute c m args) s = (.error stop, { t with context := none }) := by
  have future : runFrom (r.startForFuture c) (r.begun s.executing) = (.error stop, t) := by
    rw [RoutedCall.runFrom_startForFuture c starts.role, runFrom_bind, failed]
  have untyped : runFrom (stub.untypedCall c m args) s.executing = (.error stop, t) := by
    rw [starts.runFrom_untypedCall, r.runFrom_make_executing, future]
    rfl
  unfold Stub.execute
  rw [runFrom_within, runFrom_enter_execute closed]
  show (_, _) = _
  rw [runFrom_bind, untyped]

/-- An execution that starts gives the future that it was answered. -/
theorem Stub.Starts.runFrom_execute_ok (starts : stub.Starts m args r)
    (closed : s.context = none) {start : StartResult} {f : FutureRef} {t u : State σ ν}
    (started : runFrom (startOrAttach c r.handle r.args) (r.begun s.executing) = (.ok start, t))
    (answered : runFrom (callHandle c r.handle (.getResultAsync r.returns)) t = (.ok f, u))
    {held : Option Value} (opened : u.context = some ⟨.execute, none, held⟩) :
    runFrom (stub.execute c m args) s =
      (.ok ⟨m.signature.returns, f⟩, { u with context := none }) := by
  have future : runFrom (r.startForFuture c) (r.begun s.executing) = (.ok (.future f), u) := by
    rw [RoutedCall.runFrom_startForFuture c starts.role, runFrom_bind, started]
    show runFrom (callHandle c r.handle (.getResultAsync r.returns) >>= _) t = _
    rw [runFrom_bind, answered]
    rfl
  have untyped : runFrom (stub.untypedCall c m args) s.executing =
      (.ok .empty, { u with context := some ⟨.execute, none, some (.future f)⟩ }) := by
    rw [starts.runFrom_untypedCall, r.runFrom_make_executing, future]
    show (_, { u with context := u.context.map _ }) = _
    rw [opened]
    rfl
  unfold Stub.execute
  rw [runFrom_within, runFrom_enter_execute closed]
  show (_, _) = _
  rw [runFrom_bind, untyped]
  rfl

/-- To wait for the future ends as the result is settled that it yields. -/
theorem Stub.Starts.runFrom_get_ok (starts : stub.Starts m args r) (closed : s.context = none)
    {start : StartResult} {f : FutureRef} {t u : State σ ν}
    (started : runFrom (startOrAttach c r.handle r.args) (r.begun s.executing) = (.ok start, t))
    (answered : runFrom (callHandle c r.handle (.getResultAsync r.returns)) t = (.ok f, u))
    {held : Option Value} (opened : u.context = some ⟨.execute, none, held⟩)
    {result : Except Failure Value} (yields : f.Yields result u.futures) :
    ∃ w, runFrom (stub.execute c m args >>= ResultFuture.get) s =
        (m.signature.returns.settle
          (Cause.toFailure (ResultFutureError.wrongType m.signature.returns))
          (result.mapError .thrown), w) ∧
      w.calls = u.calls := by
  have executed := starts.runFrom_execute_ok c closed started answered opened
  obtain ⟨w, got, same⟩ :=
    ResultFuture.runFrom_get m.signature.returns (s := { u with context := none }) yields
  refine ⟨w, ?_, same⟩
  rw [runFrom_bind, executed]
  exact got

end

/-- The worlds are still alike when the two calls begin to talk. -/
theorem Alike.begun {B : State σ ν → State σ' ν' → Prop} {c : Collaborators σ ν}
    {h : HandleId} {c' : Collaborators σ' ν'} {h' : HandleId} (alike : Alike B c h c' h')
    (r r' : RoutedCall) {s : State σ ν} {s' : State σ' ν'} (closed : s.context = none)
    (related : B s { s' with context := some ⟨.execute, none, none⟩ }) :
    B (r.begun s) (r'.begun s'.executing) := by
  have first : r.begun s =
      { s with trace := s.trace ++ [.log ⟨.dispatch, .debug, r.summary .sync⟩] } := by
    unfold RoutedCall.begun State.forgotten
    rw [closed]
    rfl
  rw [first]
  -- In both worlds the call is logged, in the second one the context as well.
  have called := alike.logged ⟨.dispatch, .debug, r.summary .sync⟩ related
  have entered := alike.logged' ⟨.context, .trace, "enter Execute"⟩ called
  exact alike.logged' ⟨.dispatch, .debug, r'.summary .execute⟩ entered

/-- A value that one run ends with, the other one ends with too. -/
theorem ValueType.SettlesAlike.later_ok {type : ValueType} {result : Ending Value}
    {ending ending' : Ending (Option Value)} (alike : type.SettlesAlike result ending ending')
    {answer : Option Value} (answered : ending = .ok answer) : ending' = .ok answer := by
  obtain ⟨mismatch, -, rfl⟩ := alike.now
  obtain ⟨mismatch', -, rfl⟩ := alike.later
  cases result with
  | error stop => cases answered
  | ok v =>
    unfold settle at answered ⊢
    by_cases void : type.isVoid = true
    · simpa only [void, if_true] using answered
    · by_cases fits : v.hasType type = true
      · simpa only [void, fits, if_true] using answered
      · simp [void, fits] at answered

/-! ## A workflow that runs already, twice -/

/-- The handles of workflows that run already, with futures of their results. -/
def promising : Collaborators Unit Unit where
  handle
    | _, .getResultAsync _ => newFuture (.deferred (.ok (.string "Hello Ann")))
    | h, call => running.handle h call
  batch := running.batch
  declare := running.declare

/-- The second world is in the context of an execution; nothing else matters. -/
def Executing (_ s' : State Unit Unit) : Prop := ∃ held, s'.context = some ⟨.execute, none, held⟩

theorem promising_alike (h h' : HandleId) : Alike Executing running h promising h' where
  opened executing := executing
  logged _ executing := executing
  logged' _ executing := executing
  start {args s s' answer t} executing ran := by
    obtain rfl : _ = answer := congrArg Prod.fst ran
    obtain rfl : _ = t := congrArg Prod.snd ran
    exact ⟨_, rfl, executing⟩
  options {s s' answer t} executing ran := by
    obtain rfl : _ = answer := congrArg Prod.fst ran
    obtain rfl : _ = t := congrArg Prod.snd ran
    exact ⟨_, rfl, executing⟩
  result {type s s' answer t} executing ran := by
    obtain rfl : _ = answer := congrArg Prod.fst ran
    refine ⟨.ok (.string "Hello Ann"), ⟨some s'.futures.length⟩, _, rfl, rfl, ?_, executing⟩
    exact ⟨s'.futures.length, rfl, .inr (by simp)⟩

/-! ## Top theorem -/

/-- **To wait now and to wait later is the same.**  No context is active, and the member starts the
workflow.  A call through one handle, and an execution through another one that answers alike and
whose future is waited for, put the same questions up to the result, which both ask for with the
same declared type or not at all.  They end with the same value of the member's type, with the same
failure, or each with a mismatch of types. -/
theorem call_agrees_execute {B : State σ ν → State σ' ν' → Prop} {c : Collaborators σ ν}
    {c' : Collaborators σ' ν'} (stub : Stub) {h' : HandleId} (alike : Alike B c stub.handle c' h')
    (m : Member) (args : List Value) {i : Nat} {entry : DescribedMethod} {resolved : ResolvedRole}
    (found : stub.descriptor.find m = some i)
    (declared : stub.descriptor.methods[i]? = some entry) (role : entry.resolved = some resolved)
    (entryPoint : resolved.role = .entryPoint) {s : State σ ν} {s' : State σ' ν'}
    (closed : s.context = none) (closed' : s'.context = none)
    (related : B s { s' with context := some ⟨.execute, none, none⟩ }) :
    let other : Stub := { stub with handle := h' }
    let r : RoutedCall :=
      ⟨stub.handle, stub.descriptor.qualified entry, resolved, entry.returns, args⟩
    let r' : RoutedCall := { r with handle := h' }
    let run := runFrom (stub.call c m args) s
    let run' := runFrom (other.execute c' m args >>= ResultFuture.get) s'
    ∃ (asked : List HandleCall) (waits : Bool) (result outcome' : Ending Value),
      r.Enacted c .sync s (r.begun s) run.2
        (asked ++ if waits then [.getResult entry.returns] else []) result ∧
      r'.Enacted c' .execute s' (r'.begun s'.executing) run'.2
        (asked ++ if waits then [.getResultAsync entry.returns] else []) outcome' ∧
      m.signature.returns.SettlesAlike result run.1 run'.1 := by
  intro other r r' run run'
  let mismatch := Cause.toFailure (StubError.wrongType stub.descriptor.name)
  let mismatch' := Cause.toFailure (ResultFutureError.wrongType m.signature.returns)
  have kind : mismatch.isOfKind .returnTypeMismatch = true := Cause.isOfKind_toFailure _
  have kind' : mismatch'.isOfKind .returnTypeMismatch = true := Cause.isOfKind_toFailure _
  have starts : stub.Starts m args r :=
    ⟨⟨i, found, routedCall_of_resolved declared role stub.handle args⟩, entryPoint⟩
  have starts' : other.Starts m args r' :=
    ⟨⟨i, found, routedCall_of_resolved declared role h' args⟩, entryPoint⟩
  have begun : B (r.begun s) (r'.begun s'.executing) := alike.begun r r' closed related
  have calls : (r.begun s).calls = s.calls := r.calls_begun s
  have calls' : (r'.begun s'.executing).calls = s'.calls :=
    (r'.calls_begun _).trans s'.calls_executing
  obtain ⟨turns, attaching, talk⟩ := startOrAttach_talk c stub.handle args (r.begun s)
  rcases began : runFrom (startOrAttach c stub.handle args) (r.begun s) with ⟨stop | start, t⟩ <;>
    rw [began] at attaching talk <;>
    obtain ⟨asked, turns', t', asks, asks', attaching', talk', between⟩ :=
      alike.attaching begun attaching talk <;>
    have began' := attaching'.runFrom_eq talk'
  · have ran : run = (.error stop, t) := starts.runFrom_call_failed c closed began
    have ran' : run' = (.error stop, { t' with context := none }) := by
      show runFrom (_ >>= _) s' = _
      rw [runFrom_bind, starts'.runFrom_execute_failed c' closed' began']
    rw [ran, ran']
    refine ⟨asked, false, .error stop, .error stop, ?_, ?_, ⟨mismatch, kind, rfl⟩,
      ⟨mismatch', kind', rfl⟩⟩
    · exact .of_talk calls (.noResult attaching) talk (by simpa using asks) rfl
    · exact .of_talk calls' (.noFuture attaching') talk' (by simpa using asks') rfl
  · rcases retrieved : runFrom (callHandle c stub.handle (.getResult entry.returns)) t with
      ⟨answer, u⟩
    obtain ⟨result, f, u', rfl, promised, yields, after⟩ := alike.result between retrieved
    obtain ⟨held, opened⟩ := alike.opened after
    have ran : run = (m.signature.returns.settle mismatch (result.mapError .thrown), u) :=
      starts.runFrom_call_ok c closed began retrieved
    obtain ⟨w, ran', same⟩ := starts'.runFrom_get_ok c' closed' began' promised opened yields
    have last : Talk c t [.asked (.handle stub.handle (.getResult entry.returns)) _] u :=
      .single retrieved
    have last' : Talk c' t' [.asked (.handle h' (.getResultAsync entry.returns)) _] u' :=
      .single promised
    rw [ran, show run' = _ from ran']
    refine ⟨asked, true, _, .ok (.future f), ?_, ?_, ⟨mismatch, kind, rfl⟩,
      ⟨mismatch', kind', rfl⟩⟩
    · refine .of_talk calls (.result _ attaching) (talk.append last) ?_ rfl
      rw [callsOf_append, asks, List.map_append]
      rfl
    · refine .of_talk calls' (.future (.ok f) attaching') (talk'.append last') ?_ same
      rw [callsOf_append, asks', List.map_append]
      rfl

/-- A greeting that is waited for at once, and one whose future is waited for. -/
theorem greetings_agree :
    let greet : Member := ⟨"Greeter", "greet", .string, [.string], false⟩
    let ann : Stub := ⟨⟨1, "ann"⟩, ⟨greeter⟩⟩
    let bob : Stub := ⟨⟨2, "bob"⟩, ⟨greeter⟩⟩
    (runFrom (ann.call running greet [.string "Ann"]) (State.initial ())).1 =
        .ok (some (.string "Hello Ann")) ∧
      (runFrom (bob.execute promising greet [.string "Ann"] >>= ResultFuture.get)
        (State.initial ())).1 = .ok (some (.string "Hello Ann")) := by
  intro greet ann bob
  have waited : (runFrom (ann.call running greet [.string "Ann"]) (State.initial ())).1 =
      .ok (some (.string "Hello Ann")) := rfl
  have closed : (State.initial () : State Unit Unit).context = none := rfl
  obtain ⟨asked, waits, result, outcome', now, later, settled⟩ :=
    call_agrees_execute ann (promising_alike ann.handle bob.handle) greet [.string "Ann"] (i := 0)
      rfl rfl rfl rfl closed closed ⟨none, rfl⟩
  exact ⟨waited, settled.later_ok waited⟩

end WorkflowDispatch
