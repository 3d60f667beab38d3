import WorkflowDispatch.Proofs.Agreement
import WorkflowDispatch.Proofs.Nesting

/-!
# Calls in a context of their own

`start` and `execute` open a context for one call, and a batch opens one for what is recorded into
it.  Where a context is active this fails, and nothing else happens.  Otherwise the context is
closed again, however the call ends.  The outcome that is read before that is the call's own: the
handle may call the library while it answers, but what it does there is forgotten when its answer is
held.

    s.context = none → runFrom (Guard.within mode batch x) s =
      ((runFrom x (s.entered mode batch)).1, (runFrom x (s.entered mode batch)).2.left)
                                                                             (runFrom_within_closed)
    dispatch = (.ok v, t') → t'.context = some ⟨mode, none, some own⟩       (Stub.of_untypedCall_ok)
-/

namespace WorkflowDispatch

open WorkflowDispatch.Action

variable {σ ν α β : Type}

/-! ## Definitions -/

/-- The state after a context was entered where none was active. -/
def State.entered (s : State σ ν) (mode : Mode) (batch : Option BatchId) : State σ ν :=
  { s with
    context := some ⟨mode, batch, none⟩
    trace := s.trace ++ [.log ⟨.context, .trace, "enter " ++ mode.name⟩] }

/-- The state after the context was closed. -/
def State.left (s : State σ ν) : State σ ν := { s with context := none }

/-- The action would enter a context, but another one is active: it fails, and that is all. -/
def Action.FailsToEnter (mode : Mode) (active : Context) (x : Action σ ν α) (s : State σ ν) :
    Prop :=
  runFrom x s = (.error (.thrown (WorkflowError.ofKind .reentrancy
    ("cannot enter " ++ mode.name ++ ": a " ++ active.mode.name ++
      " context is already active on this thread")).toFailure), s)

/-- The one goes well when the other does, and else fails with the same failure. -/
structure EndsAs (ending : Ending α) (dispatch : Ending β) : Prop where
  ok_iff : (∃ v, ending = .ok v) ↔ ∃ v, dispatch = .ok v
  error_iff : ∀ stop, ending = .error stop ↔ dispatch = .error stop

/-- Nobody but this handle is called. -/
def AsksOnly (h : HandleId) (turns : List Turn) : Prop :=
  ∀ call ∈ callsOf turns, ∃ asked, call = .handle h asked

/-! ## Talks with one handle -/

theorem Attaching.asksOnly {h : HandleId} {args : List Value} {turns : List Turn}
    {ending : Ending StartResult} (attaching : Attaching h args turns ending) :
    AsksOnly h turns := by
  cases attaching <;> simp [AsksOnly]

/-- Only a recorded call asks somebody else than its handle. -/
theorem Protocol.asksOnly {r : RoutedCall} {batch : Option BatchId} {mode : Mode} {role : Role}
    {turns : List Turn} {outcome : Ending Value}
    (protocol : Protocol r batch mode role turns outcome) (plain : mode ≠ .signalWithStart) :
    AsksOnly r.handle turns := by
  cases protocol with
  | result _ attaching | future _ attaching =>
    intro call asked
    rw [callsOf_append, List.mem_append] at asked
    rcases asked with asked | asked
    · exact attaching.asksOnly call asked
    · exact ⟨_, List.mem_singleton.1 asked⟩
  | noResult attaching | noFuture attaching => exact attaching.asksOnly
  | signal | query | start =>
    intro call asked
    exact ⟨_, List.mem_singleton.1 asked⟩
  | recordStart | recordSignal => exact absurd rfl plain

/-- The entry point alone is called to start and to execute. -/
theorem Protocol.role_eq {r : RoutedCall} {batch : Option BatchId} {mode : Mode} {role : Role}
    {turns : List Turn} {outcome : Ending Value}
    (protocol : Protocol r batch mode role turns outcome)
    (launches : mode = .start ∨ mode = .execute) : role = .entryPoint := by
  cases protocol with
  | result | noResult | start | future | noFuture | recordStart => rfl
  | signal | query | recordSignal => simp at launches

/-- What the answers of the only handle respect, the talk respects. -/
theorem Talk.keeps_of_asksOnly {R : State σ ν → State σ ν → Prop} (frame : Frame R)
    {c : Collaborators σ ν} {h : HandleId} (answers : ∀ call, (c.handle h call).Keeps R)
    {s s' : State σ ν} {turns : List Turn} (talk : Talk c s turns s')
    (only : AsksOnly h turns) : R s s' := by
  induction talk with
  | done s => exact frame.refl s
  | logged line _ ih => exact frame.trans (frame.traced _ (.log line)) (ih only)
  | @asked s t s' turns call ending answered rest ih =>
    obtain ⟨asked, rfl⟩ := only call (List.mem_cons_self ..)
    have answer : R { s with trace := s.trace ++ [.handleCall h asked] } t := by
      have reached := answers asked { s with trace := s.trace ++ [.handleCall h asked] }
      rw [← runFrom_callHandle] at reached
      rw [show runFrom (callHandle c h asked) s = (ending, t) from answered] at reached
      exact reached
    have later : R t s' := ih fun call among => only call (List.mem_cons_of_mem _ among)
    exact frame.trans (frame.traced s _) (frame.trans answer later)

/-! ## Scopes -/

theorem EndsAs.error (stop : Stop) :
    EndsAs (.error stop : Ending α) (.error stop : Ending β) where
  ok_iff := by simp
  error_iff _ := by simp

theorem EndsAs.ok (v : α) (w : β) : EndsAs (.ok v : Ending α) (.ok w : Ending β) where
  ok_iff := ⟨fun _ => ⟨w, rfl⟩, fun _ => ⟨v, rfl⟩⟩
  error_iff _ := by simp

theorem State.left_holding (s : State σ ν) (context? : Option Context) (outcome : Ending Value) :
    (s.holding context? outcome).left = s.left := by
  unfold State.holding
  cases outcome with
  | error => rfl
  | ok v =>
    show State.left (if _ then _ else _) = _
    split <;> rfl

section

variable {s : State σ ν} {mode : Mode} {batch : Option BatchId}

/-- Nothing is done in a scope that cannot be entered. -/
theorem within_failsToEnter {active : Context} (opened : s.context = some active)
    (x : Action σ ν α) : (Guard.within mode batch x).FailsToEnter mode active s := by
  unfold FailsToEnter
  rw [runFrom_within, runFrom_enter, opened]
  rfl

/-- The context of a scope is closed, however the action in it ends. -/
theorem runFrom_within_closed (closed : s.context = none)
    (fits : batch.isSome = true ↔ mode = .signalWithStart) (x : Action σ ν α) :
    runFrom (Guard.within mode batch x) s =
      ((runFrom x (s.entered mode batch)).1, (runFrom x (s.entered mode batch)).2.left) := by
  have entering : Context.enter? none mode batch = .ok ⟨mode, batch, none⟩ := by
    unfold Context.enter?
    by_cases batched : mode = .signalWithStart
    · simp [batched, fits.2 batched]
    · have unbatched : batch = none := by simpa [batched] using fits
      simp [batched, unbatched]
  have entered : runFrom (Action.enter mode batch) s = (.ok (), s.entered mode batch) := by
    rw [runFrom_enter, closed, entering]
    exact runFrom_log ..
  rw [runFrom_within, entered]
  rfl

end

/-! ## Calls in a scope -/

section

variable {c : Collaborators σ ν} {stub : Stub} {m : Member} {args : List Value} {s : State σ ν}

/-- A call that goes well in its scope leaves its own outcome there, whatever the handle did while
it answered. -/
theorem Stub.of_untypedCall_ok (opens : ∀ call, (c.handle stub.handle call).Keeps StaysOpen)
    {mode : Mode} (launches : mode = .start ∨ mode = .execute) {v : Value} {t' : State σ ν}
    (ran : runFrom (stub.untypedCall c m args) (s.entered mode none) = (.ok v, t')) :
    ∃ r turns own t, stub.Starts m args r ∧ Protocol r none mode .entryPoint turns (.ok own) ∧
      Talk c (r.begun (s.entered mode none)) turns t ∧
      t'.context = some ⟨mode, none, some own⟩ ∧ t'.left = t.left := by
  have plain : Context.modeOf (s.entered mode none).context ≠ .signalWithStart := by
    show mode ≠ .signalWithStart
    rcases launches with rfl | rfl <;> decide
  obtain ⟨i, found, method_ran⟩ := method_of_untypedCall_ok ran
  obtain ⟨r, turns, own, t, routed, protocol, talk, -, rfl⟩ := talk_of_route_ok method_ran plain
  have role := protocol.role_eq launches
  have only : AsksOnly stub.handle turns := by
    rw [← handle_of_routedCall routed]
    exact protocol.asksOnly plain
  -- The handle may have held other outcomes meanwhile, but it left the context open, and the
  -- outcome of this call is held after all of them.
  have still : StaysOpen (s.entered mode none) t :=
    staysOpen.trans (r.staysOpen_begun _) (talk.keeps_of_asksOnly staysOpen.toFrame opens only)
  refine ⟨r, turns, own, t, ⟨⟨i, found, routed⟩, role⟩, role ▸ protocol, talk, ?_,
    t.left_holding _ _⟩
  exact context_holding_own still plain own _ rfl

/-- The outcome that is held is read without fail, if it is of the type asked for. -/
theorem runFrom_currentOutcomeAs {mode : Mode} (plain : mode ≠ .signalWithStart) {v : Value}
    {type : ValueType} (typed : v.hasType type = true)
    (held : s.context = some ⟨mode, none, some v⟩) :
    runFrom (currentOutcomeAs type) s = (.ok v, s) := by
  have outcome : Context.currentOutcome s.context = .ok v := by
    have plain : (⟨mode, none, none⟩ : Context).mode ≠ .signalWithStart := plain
    rw [held]
    exact Context.currentOutcome_keepOutcome plain v
  unfold currentOutcomeAs Context.currentOutcomeAs
  rw [runFrom_bind, runFrom_context]
  simp only [outcome, bind, Except.bind, typed]
  rfl

/-- All that `start` can do where no context is active. -/
theorem Stub.start_cases (opens : ∀ call, (c.handle stub.handle call).Keeps StaysOpen)
    (m : Member) (args : List Value) (closed : s.context = none) :
    (∃ stop t, runFrom (stub.untypedCall c m args) (s.entered .start none) = (.error stop, t) ∧
        runFrom (stub.start c m args) s = (.error stop, t.left)) ∨
      ∃ v t' r e t, runFrom (stub.untypedCall c m args) (s.entered .start none) = (.ok v, t') ∧
        stub.Starts m args r ∧
        Talk c (r.begun (s.entered .start none))
          [.asked (.handle stub.handle (.start args)) (.ok e)] t ∧
        runFrom (stub.start c m args) s = (.ok (.execution e), t.left) := by
  have whole : runFrom (stub.start c m args) s = _ := runFrom_within_closed closed (by decide) _
  rw [runFrom_bind] at whole
  rcases ran : runFrom (stub.untypedCall c m args) (s.entered .start none) with ⟨stop | v, t'⟩
  · rw [ran] at whole
    exact .inl ⟨stop, t', rfl, whole⟩
  · obtain ⟨r, turns, own, t, starts, protocol, talk, held, left⟩ :=
      Stub.of_untypedCall_ok opens (.inl rfl) ran
    obtain ⟨i, -, routed⟩ := starts.routed
    obtain ⟨entry, resolved, -, -, rfl⟩ := of_routedCall_eq_ok routed
    -- In Start mode the only talk that goes well is a start that was answered.
    generalize outcome : Except.ok own = ending at protocol
    cases protocol with
    | start answer =>
      cases answer with
      | error stop => cases outcome
      | ok e =>
        obtain rfl := Except.ok.inj outcome
        refine .inr ⟨v, t', _, e, t, rfl, starts, talk, ?_⟩
        rw [ran] at whole
        have read : runFrom (currentOutcomeAs .execution) t' = (.ok (.execution e), t') :=
          runFrom_currentOutcomeAs (by decide) rfl held
        simp only [read, left] at whole
        exact whole

/-- All that `execute` can do where no context is active. -/
theorem Stub.execute_cases (opens : ∀ call, (c.handle stub.handle call).Keeps StaysOpen)
    (m : Member) (args : List Value) (closed : s.context = none) :
    (∃ stop t, runFrom (stub.untypedCall c m args) (s.entered .execute none) = (.error stop, t) ∧
        runFrom (stub.execute c m args) s = (.error stop, t.left)) ∨
      ∃ v t' r before start g t,
        runFrom (stub.untypedCall c m args) (s.entered .execute none) = (.ok v, t') ∧
        stub.Starts m args r ∧ Attaching stub.handle args before (.ok start) ∧
        Talk c (r.begun (s.entered .execute none))
          (before ++ [.asked (.handle stub.handle (.getResultAsync r.returns)) (.ok g)]) t ∧
        runFrom (stub.execute c m args) s = (.ok ⟨m.signature.returns, g⟩, t.left) := by
  have whole : runFrom (stub.execute c m args) s = _ := runFrom_within_closed closed (by decide) _
  rw [runFrom_bind] at whole
  rcases ran : runFrom (stub.untypedCall c m args) (s.entered .execute none) with ⟨stop | v, t'⟩
  · rw [ran] at whole
    exact .inl ⟨stop, t', rfl, whole⟩
  · obtain ⟨r, turns, own, t, starts, protocol, talk, held, left⟩ :=
      Stub.of_untypedCall_ok opens (.inr rfl) ran
    obtain ⟨i, -, routed⟩ := starts.routed
    obtain ⟨entry, resolved, -, -, rfl⟩ := of_routedCall_eq_ok routed
    generalize outcome : Except.ok own = ending at protocol
    cases protocol with
    | noFuture => cases outcome
    | @future before start answer attaching =>
      cases answer with
      | error stop => cases outcome
      | ok g =>
        obtain rfl := Except.ok.inj outcome
        refine .inr ⟨v, t', _, before, start, g, t, rfl, starts, attaching, talk, ?_⟩
        rw [ran] at whole
        have read : runFrom (currentOutcomeAs .future) t' = (.ok (.future g), t') :=
          runFrom_currentOutcomeAs (by decide) rfl held
        simp only [runFrom_bind, read, runFrom_pure, left] at whole
        exact whole

end

/-! ## A workflow that greets another one -/

/-- Handles of workflows that do not run yet. -/
def idle : Collaborators Unit Unit where
  handle
    | h, .start _ => return ⟨h.label, "run-1"⟩
    | h, call => running.handle h call
  batch := running.batch
  declare := running.declare

/-- Handles that greet another workflow before they start: first in a context of its own, which is
refused, then in that of the call. -/
def sociable : Collaborators Unit Unit where
  handle
    | h, .start args => do
      let _ ← observe (Action.enter .start none)
      let _ ← bob.call idle ⟨"Greeter", "greet", .string, [.string], false⟩ args
      idle.handle h (.start args)
    | h, call => idle.handle h call
  batch := idle.batch
  declare := idle.declare

theorem idle_callBack : idle.CallBack where
  handle h call := by
    cases call with
    | start => exact .pure _
    | signal | query | getResult | getResultAsync | signalWithStart | getOptions =>
      exact running_callBack.handle h _
  batch := running_callBack.batch

theorem sociable_callback (h : HandleId) (call : HandleCall) :
    Callback (sociable.handle h call) := by
  cases call with
  | start args =>
    exact .bind (.observe (.enter .start none)) fun _ =>
      .bind (.call idle_callBack.handle idle_callBack.batch bob _ args) fun _ => .pure _
  | signal | query | getResult | getResultAsync | signalWithStart | getOptions =>
    exact idle_callBack.handle h _

/-! ## Top theorem -/

/-- **Calls in a context of their own return their own outcome.**  The handle may do anything while
it answers but close the context that is active then.  Where a context is active, `start`, `execute`
and recording into a batch fail, and nothing else happens.  Where none is, none is active
afterwards; `start` and `execute` end as their call does and return the execution, or the future,
that its own start, or request for a future, was answered with; recording ends as what is
recorded. -/
theorem scopes_return_own_outcome {c : Collaborators σ ν} {stub : Stub}
    (opens : ∀ call, (c.handle stub.handle call).Keeps StaysOpen) (m : Member) (args : List Value)
    (batch : BatchId) (body : Action σ ν α) (s : State σ ν) :
    let start := stub.start c m args
    let execute := stub.execute c m args
    let add := Batch.recording batch body
    let call := stub.untypedCall c m args
    (∀ active, s.context = some active →
        start.FailsToEnter .start active s ∧ execute.FailsToEnter .execute active s ∧
          add.FailsToEnter .signalWithStart active s) ∧
      (s.context = none →
        ((runFrom start s).2.context = none ∧
          EndsAs (runFrom start s).1 (runFrom call (s.entered .start none)).1 ∧
          ∀ v, (runFrom start s).1 = .ok v → ∃ r e t, stub.Starts m args r ∧
            Talk c (r.begun (s.entered .start none))
              [.asked (.handle stub.handle (.start args)) (.ok e)] t ∧
            v = .execution e ∧ (runFrom start s).2 = t.left) ∧
        ((runFrom execute s).2.context = none ∧
          EndsAs (runFrom execute s).1 (runFrom call (s.entered .execute none)).1 ∧
          ∀ f, (runFrom execute s).1 = .ok f → ∃ r before how g t, stub.Starts m args r ∧
            Attaching stub.handle args before (.ok how) ∧
            Talk c (r.begun (s.entered .execute none))
              (before ++ [.asked (.handle stub.handle (.getResultAsync r.returns)) (.ok g)]) t ∧
            f = ⟨m.signature.returns, g⟩ ∧ (runFrom execute s).2 = t.left) ∧
        ((runFrom add s).2.context = none ∧
          (runFrom add s).1 = (runFrom body (s.entered .signalWithStart batch)).1 ∧
          (runFrom add s).2 = (runFrom body (s.entered .signalWithStart batch)).2.left)) := by
  intro start execute add call
  refine ⟨fun active opened => ?_, fun closed => ⟨?_, ?_, ?_⟩⟩
  · exact ⟨within_failsToEnter opened _, within_failsToEnter opened _,
      within_failsToEnter opened _⟩
  · obtain ⟨stop, t, ran, ended⟩ | ⟨v, t', r, e, t, ran, starts, talk, ended⟩ :=
      Stub.start_cases opens m args closed
    · rw [show runFrom start s = _ from ended, show runFrom call _ = _ from ran]
      exact ⟨rfl, .error stop, fun _ returned => by cases returned⟩
    · rw [show runFrom start s = _ from ended, show runFrom call _ = _ from ran]
      refine ⟨rfl, .ok _ _, fun v returned => ⟨r, e, t, starts, talk, ?_, rfl⟩⟩
      exact (Except.ok.inj returned).symm
  · obtain ⟨stop, t, ran, ended⟩ |
      ⟨v, t', r, before, how, g, t, ran, starts, attaching, talk, ended⟩ :=
        Stub.execute_cases opens m args closed
    · rw [show runFrom execute s = _ from ended, show runFrom call _ = _ from ran]
      exact ⟨rfl, .error stop, fun _ returned => by cases returned⟩
    · rw [show runFrom execute s = _ from ended, show runFrom call _ = _ from ran]
      refine ⟨rfl, .ok _ _, fun f returned =>
        ⟨r, before, how, g, t, starts, attaching, talk, ?_, rfl⟩⟩
      exact (Except.ok.inj returned).symm
  · rw [show runFrom add s = _ from runFrom_within_closed closed (by simp) body]
    exact ⟨rfl, rfl, rfl⟩

/-- The other greeting starts in the same context, and its execution is not returned. -/
theorem sociable_greeting_starts_itself :
    let greet : Member := ⟨"Greeter", "greet", .string, [.string], false⟩
    let ann : Stub := ⟨⟨1, "ann"⟩, ⟨greeter⟩⟩
    let run := runFrom (ann.start sociable greet [.string "Ann"]) (State.initial ())
    run.1 = .ok (.execution ⟨"ann", "run-1"⟩) ∧
      (∃ (r : RoutedCall) (t : State Unit Unit),
        Talk sociable (r.begun (State.entered (.initial ()) .start none))
          [.asked (.handle ann.handle (.start [.string "Ann"])) (.ok ⟨"ann", "run-1"⟩)] t) ∧
      run.2.context = none ∧
      run.2.calls = [.handle ⟨1, "ann"⟩ (.start [.string "Ann"]),
        .handle ⟨2, "bob"⟩ (.start [.string "Ann"])] := by
  intro greet ann run
  have opens (call : HandleCall) : (sociable.handle ann.handle call).Keeps StaysOpen :=
    (sociable_callback ann.handle call).keeps staysOpen
  obtain ⟨-, closed⟩ := scopes_return_own_outcome opens greet [.string "Ann"] ⟨1, "batch"⟩
    (pure () : Action Unit Unit Unit) (State.initial ())
  obtain ⟨⟨left, -, own⟩, -⟩ := closed rfl
  obtain ⟨r, e, t, -, talk, returned, -⟩ := own _ rfl
  obtain rfl := Value.execution.inj returned
  exact ⟨rfl, ⟨r, t, talk⟩, left, rfl⟩

end WorkflowDispatch
