import WorkflowDispatch.Proofs.Attaching
import WorkflowDispatch.Routing.Router

/-!
# The protocol of a call

What a call of a method asks of the handle and of the batch, in each mode and for each role, and
what becomes of the answers.  `Protocol r batch mode role turns outcome` lists the talks that are
allowed, with the outcome that each of them gives the call.  A call that its mode does not accept
asks nothing.

    accepted → ∃ turns outcome t, Protocol … turns outcome ∧ Talk c s turns t ∧
      runFrom (r.make c context?) s = (mode.returned outcome, t.holding context? outcome)
                                                                                (make_talk)
-/

namespace WorkflowDispatch

open WorkflowDispatch.Action

variable {σ ν : Type}

/-! ## Definitions -/

/-- Which calls a mode carries out, by the role of the method and its declared type. -/
def Mode.accepts : Mode → Role → ValueType → Bool
  | .sync, .entryPoint, _ => true
  | .sync, .signal, returns => returns.isVoid
  | .sync, .query, returns => !returns.isVoid
  | .start, role, _ | .execute, role, _ => role == .entryPoint
  | .signalWithStart, role, _ => role != .query

/-- The talks of a call in each mode, for each role, and the outcome that each talk has. -/
inductive Protocol (r : RoutedCall) (batch : Option BatchId) :
    Mode → Role → List Turn → Ending Value → Prop where
  | result {turns : List Turn} {start : StartResult} (answer : Ending Value)
      (attaching : Attaching r.handle r.args turns (.ok start)) :
      Protocol r batch .sync .entryPoint
        (turns ++ [.asked (.handle r.handle (.getResult r.returns)) answer]) answer
  | noResult {turns : List Turn} {stop : Stop}
      (attaching : Attaching r.handle r.args turns (.error stop)) :
      Protocol r batch .sync .entryPoint turns (.error stop)
  | signal (answer : Ending Unit) :
      Protocol r batch .sync .signal
        [.asked (.handle r.handle (.signal r.resolved.name r.args)) answer]
        (answer.map fun _ => .empty)
  | query (answer : Ending Value) :
      Protocol r batch .sync .query
        [.asked (.handle r.handle (.query r.resolved.name r.returns r.args)) answer] answer
  | start (answer : Ending Execution) :
      Protocol r batch .start .entryPoint
        [.asked (.handle r.handle (.start r.args)) answer] (answer.map .execution)
  | future {turns : List Turn} {start : StartResult} (answer : Ending FutureRef)
      (attaching : Attaching r.handle r.args turns (.ok start)) :
      Protocol r batch .execute .entryPoint
        (turns ++ [.asked (.handle r.handle (.getResultAsync r.returns)) answer])
        (answer.map .future)
  | noFuture {turns : List Turn} {stop : Stop}
      (attaching : Attaching r.handle r.args turns (.error stop)) :
      Protocol r batch .execute .entryPoint turns (.error stop)
  | recordStart {b : BatchId} (given : batch = some b) (answer : Ending Unit) :
      Protocol r batch .signalWithStart .entryPoint
        [.asked (.batch b (.start r.handle r.args)) answer] (answer.map fun _ => .empty)
  | recordSignal {b : BatchId} (given : batch = some b) (answer : Ending Unit) :
      Protocol r batch .signalWithStart .signal
        [.asked (.batch b (.signal r.handle r.resolved.name r.args)) answer]
        (answer.map fun _ => .empty)

/-- What the caller gets from a call with this outcome: the outcome itself in Sync mode only. -/
def Mode.returned (mode : Mode) (outcome : Ending Value) : Ending Value :=
  if mode = .sync then outcome else outcome.map fun _ => .empty

/-- A context that was entered; since then it may have held outcomes. -/
def Context.Entered (c : Context) : Prop :=
  ∃ mode batch opened, enter? none mode batch = .ok opened ∧ c = { opened with held := c.held }

/-- Whether outcomes of calls in the context are held there. -/
def Context.holdsOutcomes : Option Context → Bool
  | some c => c.mode != .signalWithStart
  | none => false

/-- What a call with this outcome leaves in the context that it was made in. -/
def Context.after (c : Context) (outcome : Ending Value) : Context :=
  { c with held := if holdsOutcomes (some c) then outcome.toOption else none }

/-- The state in which the outcome of a call made in `context?` is held. -/
def State.holding (s : State σ ν) (context? : Option Context) (outcome : Ending Value) :
    State σ ν :=
  match outcome with
  | .ok v =>
    if Context.holdsOutcomes context? then
      { s with context := s.context.map (Context.keepOutcome v) }
    else s
  | .error _ => s

/-- The state without the outcome of an earlier call. -/
def State.forgotten (s : State σ ν) : State σ ν :=
  { s with context := s.context.map Context.forgetOutcome }

/-- The state in which a call begins to talk: an earlier outcome is forgotten and the call is
logged. -/
def RoutedCall.begun (r : RoutedCall) (s : State σ ν) : State σ ν :=
  { s.forgotten with
    trace := s.trace ++ [.log ⟨.dispatch, .debug, r.summary (Context.modeOf s.context)⟩] }

theorem Context.holdsOutcomes_eq (context? : Option Context) :
    holdsOutcomes context? = (context?.isSome && modeOf context? != .signalWithStart) := by
  cases context? <;> rfl

@[simp] theorem Mode.returned_error (mode : Mode) (stop : Stop) :
    mode.returned (.error stop) = .error stop := by
  unfold returned
  split <;> rfl

theorem Mode.returned_ok (mode : Mode) (v : Value) :
    mode.returned (.ok v) = .ok (if mode = .sync then v else .empty) := by
  unfold returned
  split <;> rfl

/-! ## Calls by mode -/

/-- An action that only reshapes the value of another one. -/
theorem runFrom_bind_pure {α β : Type} (x : Action σ ν α) (f : α → β) (s : State σ ν) :
    runFrom (x >>= fun v => pure (f v)) s = ((runFrom x s).1.map f, (runFrom x s).2) := by
  rw [runFrom_bind]
  rcases runFrom x s with ⟨stop | v, t⟩ <;> rfl

/-- What follows a start runs only when the start went well. -/
theorem startOrAttach_then_talk {α : Type} (c : Collaborators σ ν) (h : HandleId)
    (args : List Value) (next : Action σ ν α) (s : State σ ν) :
    (∃ turns stop t, Attaching h args turns (.error stop) ∧ Talk c s turns t ∧
        runFrom (startOrAttach c h args >>= fun _ => next) s = (.error stop, t)) ∨
      ∃ turns start t, Attaching h args turns (.ok start) ∧ Talk c s turns t ∧
        runFrom (startOrAttach c h args >>= fun _ => next) s = runFrom next t := by
  obtain ⟨turns, attaching, talk⟩ := startOrAttach_talk c h args s
  rw [runFrom_bind]
  rcases attach : runFrom (startOrAttach c h args) s with ⟨stop | start, t⟩
  · rw [attach] at attaching talk
    exact .inl ⟨turns, stop, t, attaching, talk, rfl⟩
  · rw [attach] at attaching talk
    exact .inr ⟨turns, start, t, attaching, talk, rfl⟩

namespace RoutedCall

variable (c : Collaborators σ ν) (r : RoutedCall)

theorem carryOut_talk (batch : Option BatchId)
    (accepted : Mode.sync.accepts r.resolved.role r.returns = true) (s : State σ ν) :
    ∃ turns, Protocol r batch .sync r.resolved.role turns (runFrom (r.carryOut c) s).1 ∧
      Talk c s turns (runFrom (r.carryOut c) s).2 := by
  unfold carryOut
  cases role : r.resolved.role with
  | entryPoint =>
    obtain ⟨turns, stop, t, attaching, talk, run⟩ | ⟨turns, start, t, attaching, talk, run⟩ :=
      startOrAttach_then_talk c r.handle r.args (callHandle c r.handle (.getResult r.returns)) s
    · rw [run]
      exact ⟨turns, .noResult attaching, talk⟩
    · rw [run]
      exact ⟨_, .result _ attaching, talk.append (.single rfl)⟩
  | signal =>
    have void : r.returns.isVoid = true := by simpa [role, Mode.accepts] using accepted
    simp only [void, if_true, runFrom_bind_pure]
    exact ⟨_, .signal _, .single rfl⟩
  | query =>
    have nonvoid : r.returns.isVoid = false := by simpa [role, Mode.accepts] using accepted
    simp only [nonvoid, Bool.false_eq_true, if_false]
    exact ⟨_, .query _, .single rfl⟩

theorem startOnly_talk (batch : Option BatchId)
    (accepted : Mode.start.accepts r.resolved.role r.returns = true) (s : State σ ν) :
    ∃ turns, Protocol r batch .start r.resolved.role turns (runFrom (r.startOnly c) s).1 ∧
      Talk c s turns (runFrom (r.startOnly c) s).2 := by
  have role : r.resolved.role = .entryPoint := by simpa [Mode.accepts] using accepted
  have whole : runFrom (r.startOnly c) s =
      runFrom (do return .execution (← callHandle c r.handle (.start r.args))) s := by
    simp [startOnly, onlyEntryPoint, role]
  rw [whole, runFrom_bind_pure, role]
  exact ⟨_, .start _, .single rfl⟩

theorem startForFuture_talk (batch : Option BatchId)
    (accepted : Mode.execute.accepts r.resolved.role r.returns = true) (s : State σ ν) :
    ∃ turns, Protocol r batch .execute r.resolved.role turns (runFrom (r.startForFuture c) s).1 ∧
      Talk c s turns (runFrom (r.startForFuture c) s).2 := by
  have role : r.resolved.role = .entryPoint := by simpa [Mode.accepts] using accepted
  have whole : runFrom (r.startForFuture c) s =
      runFrom (do
        let _ ← startOrAttach c r.handle r.args
        return .future (← callHandle c r.handle (.getResultAsync r.returns))) s := by
    simp [startForFuture, onlyEntryPoint, role]
  rw [whole, role]
  obtain ⟨turns, stop, t, attaching, talk, run⟩ | ⟨turns, start, t, attaching, talk, run⟩ :=
    startOrAttach_then_talk c r.handle r.args
      (do return Value.future (← callHandle c r.handle (.getResultAsync r.returns))) s
  · rw [run]
    exact ⟨turns, .noFuture attaching, talk⟩
  · rw [run, runFrom_bind_pure]
    exact ⟨_, .future _ attaching, talk.append (.single rfl)⟩

theorem recordInBatch_talk (batch : BatchId)
    (accepted : Mode.signalWithStart.accepts r.resolved.role r.returns = true) (s : State σ ν) :
    ∃ turns, Protocol r (some batch) .signalWithStart r.resolved.role turns
        ((runFrom (r.recordInBatch c (some batch)) s).1.map fun _ => .empty) ∧
      Talk c s turns (runFrom (r.recordInBatch c (some batch)) s).2 := by
  cases role : r.resolved.role with
  | entryPoint =>
    have whole : runFrom (r.recordInBatch c (some batch)) s =
        runFrom (callBatch c batch (.start r.handle r.args)) s := by
      simp only [recordInBatch, role]
      rfl
    rw [whole]
    exact ⟨_, .recordStart rfl _, .single rfl⟩
  | signal =>
    have whole : runFrom (r.recordInBatch c (some batch)) s =
        runFrom (callBatch c batch (.signal r.handle r.resolved.name r.args)) s := by
      simp only [recordInBatch, role]
      rfl
    rw [whole]
    exact ⟨_, .recordSignal rfl _, .single rfl⟩
  | query => simp [role, Mode.accepts] at accepted

theorem runFrom_keep (context? : Option Context) (v : Value) (s : State σ ν) :
    runFrom (keep context? v) s =
      (.ok (), if context?.isSome then
        { s with context := s.context.map (Context.keepOutcome v) } else s) := by
  unfold keep
  cases context? <;> rfl

/-- Outside a batch the outcome is held whenever there is a context to hold it. -/
theorem runFrom_then_keep {context? : Option Context}
    (plain : Context.modeOf context? ≠ .signalWithStart) (x : Action σ ν Value)
    (f : Value → Value) (s : State σ ν) :
    runFrom (do
        let v ← x
        keep context? v
        return f v) s =
      ((runFrom x s).1.map f, (runFrom x s).2.holding context? (runFrom x s).1) := by
  have holds : Context.holdsOutcomes context? = context?.isSome := by
    simp [Context.holdsOutcomes_eq, plain]
  rw [runFrom_bind]
  rcases runFrom x s with ⟨stop | v, t⟩
  · rfl
  · simp only [runFrom_bind_pure, runFrom_keep, State.holding, holds]
    rfl

/-- An accepted call keeps to the protocol. -/
theorem make_talk {context? : Option Context}
    (accepted : (Context.modeOf context?).accepts r.resolved.role r.returns = true)
    (batched : Context.modeOf context? = .signalWithStart →
      (context?.bind Context.batch).isSome = true) (s : State σ ν) :
    ∃ turns outcome t,
      Protocol r (context?.bind Context.batch) (Context.modeOf context?) r.resolved.role turns
        outcome ∧
      Talk c s turns t ∧
      runFrom (r.make c context?) s =
        ((Context.modeOf context?).returned outcome, t.holding context? outcome) := by
  unfold make
  cases mode : Context.modeOf context? with
  | sync =>
    rw [mode] at accepted
    obtain ⟨turns, protocol, talk⟩ := r.carryOut_talk c (context?.bind Context.batch) accepted s
    have run := runFrom_then_keep (by rw [mode]; decide) (r.carryOut c) id s
    rw [Except.map_id] at run
    exact ⟨turns, _, _, protocol, talk, run⟩
  | start =>
    rw [mode] at accepted
    obtain ⟨turns, protocol, talk⟩ := r.startOnly_talk c (context?.bind Context.batch) accepted s
    have run := runFrom_then_keep (by rw [mode]; decide) (r.startOnly c) (fun _ => .empty) s
    exact ⟨turns, _, _, protocol, talk, run⟩
  | execute =>
    rw [mode] at accepted
    obtain ⟨turns, protocol, talk⟩ :=
      r.startForFuture_talk c (context?.bind Context.batch) accepted s
    have run := runFrom_then_keep (by rw [mode]; decide) (r.startForFuture c) (fun _ => .empty) s
    exact ⟨turns, _, _, protocol, talk, run⟩
  | signalWithStart =>
    rw [mode] at accepted
    obtain ⟨batch, given⟩ := Option.isSome_iff_exists.1 (batched mode)
    rw [given]
    obtain ⟨turns, protocol, talk⟩ := r.recordInBatch_talk c batch accepted s
    refine ⟨turns, _, _, protocol, talk, ?_⟩
    have none_held : Context.holdsOutcomes context? = false := by
      simp [Context.holdsOutcomes_eq, mode]
    rw [runFrom_bind_pure]
    rcases runFrom (r.recordInBatch c (some batch)) s with ⟨stop | v, t⟩
    · rfl
    · simp only [Except.map, State.holding, none_held]
      rfl

end RoutedCall

/-! ## Calls of a method -/

section

variable (c : Collaborators σ ν) {router : Router} {h : HandleId} {i : Nat} {args : List Value}

theorem runFrom_route_error {e : WorkflowError}
    (refused : router.descriptor.routedCall h i args = .error e) (s : State σ ν) :
    runFrom (router.route c h (.method i) args) s =
      (.error (.thrown e.toFailure), s.forgotten) := by
  show runFrom (router.routeMethod c h i args) s = _
  unfold Router.routeMethod
  rw [refused]
  rfl

theorem runFrom_route_ok {r : RoutedCall} (routed : router.descriptor.routedCall h i args = .ok r)
    (s : State σ ν) :
    runFrom (router.route c h (.method i) args) s = runFrom (r.make c s.context) (r.begun s) := by
  show runFrom (router.routeMethod c h i args) s = _
  unfold Router.routeMethod
  rw [routed]
  rfl

end

theorem routedCall_of_resolved {d : Descriptor} {i : Nat} {entry : DescribedMethod}
    {resolved : ResolvedRole} (declared : d.methods[i]? = some entry)
    (role : entry.resolved = some resolved) (h : HandleId) (args : List Value) :
    d.routedCall h i args = .ok ⟨h, d.qualified entry, resolved, entry.returns, args⟩ := by
  unfold Descriptor.routedCall
  rw [(d.method_eq_ok_iff i entry).2 declared]
  simp only [role]

/-- A call that finds its method is the call of an entry with a role. -/
theorem of_routedCall_eq_ok {d : Descriptor} {h : HandleId} {i : Nat} {args : List Value}
    {r : RoutedCall} (routed : d.routedCall h i args = .ok r) :
    ∃ entry resolved, d.methods[i]? = some entry ∧ entry.resolved = some resolved ∧
      r = ⟨h, d.qualified entry, resolved, entry.returns, args⟩ := by
  unfold Descriptor.routedCall Descriptor.method at routed
  cases declared : d.methods[i]? with
  | none => simp [declared] at routed
  | some entry =>
    simp only [declared] at routed
    cases role : entry.resolved with
    | none => simp [role] at routed
    | some resolved =>
      simp only [role] at routed
      exact ⟨entry, resolved, rfl, role, (Except.ok.inj routed).symm⟩

@[simp] theorem State.calls_holding (s : State σ ν) (context? : Option Context)
    (outcome : Ending Value) : (s.holding context? outcome).calls = s.calls := by
  unfold holding
  cases outcome with
  | error => rfl
  | ok v =>
    show State.calls (if _ then _ else _) = _
    split <;> rfl

@[simp] theorem RoutedCall.calls_begun (r : RoutedCall) (s : State σ ν) :
    (r.begun s).calls = s.calls := calls_logged s.forgotten _

/-- An entered context has a batch exactly when its mode asks for one. -/
theorem Context.entered_iff (c : Context) :
    c.Entered ↔ (c.batch.isSome = true ↔ c.mode = .signalWithStart) := by
  constructor
  · rintro ⟨mode, batch, opened, entered, same⟩
    rw [same]
    exact (of_enter?_eq_ok entered).2.1
  · intro fits
    refine ⟨c.mode, c.batch, { c with held := none }, ?_, rfl⟩
    unfold enter?
    by_cases mode : c.mode = .signalWithStart
    · simp [mode, fits.2 mode]
    · have unbatched : c.batch = none := by simpa [mode] using fits
      simp [mode, unbatched]

theorem Context.batch_of_entered {context? : Option Context}
    (entered : ∀ ctx ∈ context?, ctx.Entered) (mode : modeOf context? = .signalWithStart) :
    (context?.bind batch).isSome = true := by
  cases context? with
  | none => cases mode
  | some ctx => exact (ctx.entered_iff.1 (entered ctx rfl)).2 mode

/-- A call of a method with a role keeps to the protocol, whatever the collaborators do. -/
theorem route_talk (c : Collaborators σ ν) {router : Router} {h : HandleId} {i : Nat}
    {args : List Value} {r : RoutedCall} (routed : router.descriptor.routedCall h i args = .ok r)
    {s : State σ ν}
    (accepted : (Context.modeOf s.context).accepts r.resolved.role r.returns = true)
    (batched : Context.modeOf s.context = .signalWithStart →
      (s.context.bind Context.batch).isSome = true) :
    ∃ turns outcome t,
      Protocol r (s.context.bind Context.batch) (Context.modeOf s.context) r.resolved.role turns
        outcome ∧
      Talk c (r.begun s) turns t ∧
      runFrom (router.route c h (.method i) args) s =
        ((Context.modeOf s.context).returned outcome, t.holding s.context outcome) := by
  rw [runFrom_route_ok c routed]
  exact r.make_talk c accepted batched (r.begun s)

/-- With quiet collaborators the context holds the outcome of the call, and is else as it was. -/
theorem context_holding {c : Collaborators σ ν} (quiet : c.Quiet) {r : RoutedCall} {s t : State σ ν}
    {turns : List Turn} (talk : Talk c (r.begun s) turns t) (outcome : Ending Value) :
    (t.holding s.context outcome).context = s.context.map (·.after outcome) := by
  have kept : t.context = s.context.map Context.forgetOutcome := talk.context_eq quiet
  cases context : s.context with
  | none =>
    rw [context] at kept
    cases outcome <;> simp [State.holding, Context.holdsOutcomes, kept]
  | some ctx =>
    rw [context] at kept
    cases outcome with
    | error stop =>
      simp [State.holding, Context.after, Context.forgetOutcome, Except.toOption, kept]
    | ok v =>
      by_cases held : Context.holdsOutcomes (some ctx) = true
      · simp [State.holding, Context.after, Context.keepOutcome, Context.forgetOutcome,
          Except.toOption, held, kept]
      · simp [State.holding, Context.after, Context.forgetOutcome, held, kept]

/-! ## A workflow that runs already -/

/-- An interface with a method for each role. -/
def greeter : Descriptor where
  name := "Greeter"
  type := ⟨"Greeter"⟩
  methods :=
    [⟨"greet", some ⟨"Greeter", "greet", .string, [.string], false⟩, .string,
        some ⟨.entryPoint, "Greet"⟩⟩,
      ⟨"cancel", some ⟨"Greeter", "cancel", .void, [], false⟩, .void, some ⟨.signal, "Cancel"⟩⟩,
      ⟨"status", some ⟨"Greeter", "status", .string, [], true⟩, .string, some ⟨.query, "status"⟩⟩]
  declaredOptions := .empty

/-- Handles of workflows that run already, and batches that take whatever they are given. -/
def running : Collaborators Unit Unit where
  handle _
    | .start _ => fail (WorkflowError.ofKind .duplicateWorkflow "already running").toFailure
    | .signal .. => pure ()
    | .query .. => pure (.string "RUNNING")
    | .getResult _ => pure (.string "Hello Ann")
    | .getResultAsync _ => pure .unbound
    | .signalWithStart .. => pure ⟨"greeter-1", "run-1"⟩
    | .getOptions => pure none
  batch _ _ := pure ()
  declare type := pure ⟨type.name, type, .empty, []⟩

theorem running_quiet : running.Quiet where
  handle h call s := by cases call <;> exact ⟨rfl, rfl⟩
  batch b call s := ⟨rfl, rfl⟩

/-- The state in which a context was just entered. -/
def justEntered (mode : Mode) (batch : Option BatchId) : State Unit Unit :=
  { State.initial () with context := some ⟨mode, batch, none⟩ }

theorem entered_justEntered (mode : Mode) (batch : Option BatchId)
    (fits : batch.isSome = true ↔ mode = .signalWithStart) :
    ∀ ctx ∈ (justEntered mode batch).context, ctx.Entered := by
  intro ctx active
  obtain rfl := Option.some.inj active
  exact (Context.entered_iff _).2 fits

/-! ## Top theorem -/

/-- **A call of a method is carried out by its protocol.** -/
theorem route_follows_protocol {c : Collaborators σ ν} (quiet : c.Quiet) (router : Router)
    (h : HandleId) (args : List Value) {i : Nat} {entry : DescribedMethod}
    {resolved : ResolvedRole} (declared : router.descriptor.methods[i]? = some entry)
    (role : entry.resolved = some resolved) {s : State σ ν}
    (entered : ∀ ctx ∈ s.context, ctx.Entered)
    (accepted : (Context.modeOf s.context).accepts resolved.role entry.returns = true) :
    let r : RoutedCall := ⟨h, router.descriptor.qualified entry, resolved, entry.returns, args⟩
    let (ending, s') := runFrom (router.route c h (.method i) args) s
    ∃ turns outcome t,
      Protocol r (s.context.bind Context.batch) (Context.modeOf s.context) resolved.role turns
        outcome ∧
      Talk c (r.begun s) turns t ∧
      ending = (Context.modeOf s.context).returned outcome ∧
      s'.calls = s.calls ++ callsOf turns ∧
      s'.context = s.context.map (·.after outcome) := by
  have routed := routedCall_of_resolved declared role h args
  obtain ⟨turns, outcome, t, protocol, talk, run⟩ :=
    route_talk c routed accepted (Context.batch_of_entered entered)
  rw [run]
  refine ⟨turns, outcome, t, protocol, talk, rfl, ?_, context_holding quiet talk outcome⟩
  rw [State.calls_holding, talk.calls_eq quiet, RoutedCall.calls_begun]

/-- A greeting in Execute mode attaches to the workflow that runs already. -/
theorem greet_follows_protocol :
    let h : HandleId := ⟨1, "ann"⟩
    let args : List Value := [.string "Ann"]
    let r : RoutedCall := ⟨h, "Greeter::greet", ⟨.entryPoint, "Greet"⟩, .string, args⟩
    let s := justEntered .execute none
    let (ending, s') := runFrom (Router.route running ⟨greeter⟩ h (.method 0) args) s
    s'.calls = [.handle h (.start args), .handle h .getOptions,
        .handle h (.getResultAsync .string)] ∧
      ∃ turns outcome t, Protocol r none .execute .entryPoint turns outcome ∧
        Talk running (r.begun s) turns t ∧
        ending = Mode.execute.returned outcome ∧
        s'.calls = s.calls ++ callsOf turns ∧
        s'.context = s.context.map (·.after outcome) := by
  refine ⟨rfl, ?_⟩
  exact route_follows_protocol running_quiet ⟨greeter⟩ _ _ (i := 0) rfl rfl
    (entered_justEntered .execute none (by decide)) rfl

end WorkflowDispatch
