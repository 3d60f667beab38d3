import WorkflowDispatch.Proofs.Reachable

/-!
# Misdeclared signals and queries

A signal gives no answer and a query gives one, but an interface may declare a signal that returns
something or a query that returns nothing.  Such a method is refused before anybody hears of it in
every mode but one: a batch takes a signal whatever type it is declared to have, and sends it with
the start later on.

    Misdeclared role returns → mode.catches role = true →
      mode.objection? method role returns = some (.ofKind mode.refusal …)
                                                              (Mode.objection?_of_misdeclared)
-/

namespace WorkflowDispatch

open WorkflowDispatch.Action

variable {σ ν : Type}

/-! ## Definitions -/

/-- The declared type does not fit the role. -/
def Misdeclared (role : Role) (returns : ValueType) : Prop :=
  role = .signal ∧ returns ≠ .void ∨ role = .query ∧ returns = .void

/-- Whether a misdeclared method is refused in the mode. -/
def Mode.catches (mode : Mode) (role : Role) : Bool :=
  !(mode == .signalWithStart && role == .signal)

/-- As what a misdeclared method is refused in the mode. -/
def Mode.refusal : Mode → ErrorKind
  | .sync => .returnTypeMismatch
  | .start | .execute => .unsupportedInMode
  | .signalWithStart => .unsupportedInBatch

/-! ## Lemmas -/

theorem Mode.objection?_of_misdeclared {mode : Mode} {role : Role} {returns : ValueType}
    (misdeclared : Misdeclared role returns) (catches : mode.catches role = true)
    (method : String) :
    ∃ message, mode.objection? method role returns = some (.ofKind mode.refusal message) := by
  obtain ⟨rfl, value⟩ | ⟨rfl, rfl⟩ := misdeclared
  · cases mode with
    | sync => exact ⟨_, by simp [objection?, value]; rfl⟩
    | start | execute => exact ⟨_, rfl⟩
    | signalWithStart => cases catches
  · cases mode with
    | sync | start | execute | signalWithStart => exact ⟨_, rfl⟩

/-- A batch takes a signal of any type. -/
theorem Mode.accepts_of_not_catches {mode : Mode} {role : Role}
    (slips : mode.catches role = false) (returns : ValueType) :
    mode.accepts role returns = true := by
  obtain ⟨rfl, rfl⟩ : mode = .signalWithStart ∧ role = .signal := by
    simpa [catches] using slips
  rfl

/-- A call that is recorded in a batch ends as the recording does. -/
theorem route_recorded (c : Collaborators σ ν) {router : Router} {h : HandleId} {i : Nat}
    {args : List Value} {r : RoutedCall} (routed : router.descriptor.routedCall h i args = .ok r)
    {s : State σ ν} (entered : ∀ ctx ∈ s.context, ctx.Entered)
    (batched : Context.modeOf s.context = .signalWithStart) (signal : r.resolved.role = .signal) :
    ∃ b answer t, s.context.bind Context.batch = some b ∧
      runFrom (callBatch c b (.signal r.handle r.resolved.name r.args)) (r.begun s) =
        (answer, t) ∧
      runFrom (router.route c h (.method i) args) s = (answer.map fun _ => .empty, t) := by
  have accepted : (Context.modeOf s.context).accepts r.resolved.role r.returns = true := by
    rw [batched, signal]
    rfl
  obtain ⟨turns, outcome, t, protocol, talk, run⟩ :=
    route_talk c routed accepted (Context.batch_of_entered entered)
  have nothing_held : t.holding s.context outcome = t := by
    cases outcome with
    | error stop => rfl
    | ok v => simp [State.holding, Context.holdsOutcomes_eq, batched]
  rw [nothing_held] at run
  rw [batched, signal] at protocol
  cases protocol with
  | @recordSignal b given answer =>
    refine ⟨b, answer, t, given, talk.of_single, ?_⟩
    rw [run, batched]
    cases answer with
    | error stop => rfl
    | ok done => rfl

/-! ## A batch that is collected -/

/-- A declaration with a signal that returns something. -/
def answeringDeclaration : Declaration where
  name := "Greeter"
  type := ⟨"Greeter"⟩
  defaults := .empty
  methods :=
    [.make "greet" (some ⟨"Greeter", "greet", .string, [.string], false⟩) .string
        [.role ⟨.entryPoint, "Greet"⟩],
      .make "cancel" (some ⟨"Greeter", "cancel", .string, [], false⟩) .string
        [.role ⟨.signal, "Cancel"⟩]]

/-- The interface that is declared so: nothing is wrong with it as far as resolving goes. -/
def answering : Descriptor where
  name := "Greeter"
  type := ⟨"Greeter"⟩
  methods :=
    [⟨"greet", some ⟨"Greeter", "greet", .string, [.string], false⟩, .string,
        some ⟨.entryPoint, "Greet"⟩⟩,
      ⟨"cancel", some ⟨"Greeter", "cancel", .string, [], false⟩, .string,
        some ⟨.signal, "Cancel"⟩⟩]
  declaredOptions := .empty

theorem answering_resolves : answeringDeclaration.resolve = .ok answering := rfl

/-- Handles that take what is sent to them, and one batch that collects. -/
def collecting : Collaborators Batch ν where
  handle _
    | .start _ | .signalWithStart .. => pure ⟨"greeter-1", "run-1"⟩
    | .signal .. => pure ()
    | .query .. | .getResult _ => pure .empty
    | .getResultAsync _ => pure .unbound
    | .getOptions => pure none
  batch _ call := do expect (← outside fun batch => batch.record call)
  declare type := pure ⟨type.name, type, .empty, []⟩

theorem collecting_growing : (collecting (ν := ν)).Keep CallsGrow where
  handle h call := by
    cases call with
    | start | signal | query | getResult | getResultAsync | signalWithStart | getOptions =>
      exact .pure callsGrow.toFrame _
  batch b call := by
    have collected : Keeps CallsGrow (outside (ν := ν) fun batch : Batch => batch.record call) :=
      fun s => callsGrow.outside s _
    exact .bind callsGrow.toFrame collected fun taken => .expect callsGrow.toFrame taken

/-! ## Top theorem -/

/-- **A misdeclared method is refused in every mode, unless it is a signal in a batch.**  Where it
is refused nobody is asked.  In a batch the signal is recorded like any other, and the call ends as
the recording does.  Whatever a thread does, a signal that it sends on its own is declared to return
nothing, and one that it records is declared. -/
theorem misdeclared_caught_iff {c : Collaborators σ ν} (growing : c.Keep CallsGrow)
    (router : Router) (h : HandleId) (args : List Value) {i : Nat} {entry : DescribedMethod}
    {resolved : ResolvedRole} (declared : router.descriptor.methods[i]? = some entry)
    (role : entry.resolved = some resolved)
    (misdeclared : Misdeclared resolved.role entry.returns) {s : State σ ν}
    (entered : ∀ ctx ∈ s.context, ctx.Entered) :
    let r : RoutedCall := ⟨h, router.descriptor.qualified entry, resolved, entry.returns, args⟩
    let mode := Context.modeOf s.context
    let run := runFrom (router.route c h (.method i) args) s
    (run.2.calls = s.calls ↔ mode.catches resolved.role = true) ∧
      (mode.catches resolved.role = true → ∃ message,
        run.1 = .error (.thrown (WorkflowError.ofKind mode.refusal message).toFailure)) ∧
      (mode.catches resolved.role = false → ∃ b answer t,
        s.context.bind Context.batch = some b ∧
        runFrom (callBatch c b (.signal h resolved.name args)) (r.begun s) = (answer, t) ∧
        run = (answer.map fun _ => .empty, t)) ∧
      ∀ {τ α : Type} {known : Descriptor → Prop} {x : Action τ Moment α}, Conduct known x →
        ∀ fresh : State τ Moment, fresh.context = none → fresh.trace = [] →
        ∀ name args', (∀ h', .handle h' (.signal name args') ∈ (runFrom x fresh).2.calls →
            DeclaresSignal known name .void) ∧
          ∀ b h', .batch b (.signal h' name args') ∈ (runFrom x fresh).2.calls →
            ∃ returns, DeclaresSignal known name returns := by
  intro r mode run
  have routed : router.descriptor.routedCall h i args = .ok r :=
    routedCall_of_resolved declared role h args
  have objection : router.descriptor.objection? mode (.method i) =
      mode.objection? r.method resolved.role entry.returns :=
    objection?_of_routedCall_ok routed mode
  have caught (catches : mode.catches resolved.role = true) : ∃ message,
      run.1 = .error (.thrown (WorkflowError.ofKind mode.refusal message).toFailure) ∧
        run.2.calls = s.calls := by
    obtain ⟨message, refused⟩ := Mode.objection?_of_misdeclared misdeclared catches r.method
    exact ⟨message, route_refused c h args entered (objection.trans refused)⟩
  refine ⟨⟨fun silent => ?_, fun catches => ?_⟩, fun catches => ?_, fun slips => ?_,
    fun conduct fresh closed new name args' => ?_⟩
  · rw [← Bool.not_eq_false]
    intro slips
    have accepted := Mode.accepts_of_not_catches slips entry.returns
    have unopposed := objection.trans ((Mode.objection?_eq_none _ _ _ _).2 accepted)
    exact route_loud c h args entered growing (fun _ question => by cases question) unopposed
      silent
  · obtain ⟨message, -, silent⟩ := caught catches
    exact silent
  · obtain ⟨message, failed, -⟩ := caught catches
    exact ⟨message, failed⟩
  · obtain ⟨batched, signal⟩ : mode = .signalWithStart ∧ resolved.role = .signal := by
      simpa [Mode.catches] using slips
    exact route_recorded c routed entered batched signal
  · have called := (conduct.endsSound (.initial closed new)).sound.called
    exact ⟨fun h' sent => called _ sent, fun b h' recorded => called _ recorded⟩

/-- The signal that returns something is recorded. -/
theorem cancel_slips :
    let s : State Batch Unit :=
      { State.initial .empty with context := some ⟨.signalWithStart, some ⟨1, "batch"⟩, none⟩ }
    Misdeclared .signal .string ∧
      (runFrom (Router.route collecting ⟨answering⟩ ⟨1, "ann"⟩ (.method 1) []) s).2.calls ≠
        s.calls := by
  intro s
  have misdeclared : Misdeclared .signal .string := .inl ⟨rfl, by decide⟩
  have entered : ∀ ctx ∈ s.context, ctx.Entered := by
    intro ctx active
    obtain rfl := Option.some.inj active
    exact (Context.entered_iff _).2 (by decide)
  obtain ⟨silent_iff, -⟩ := misdeclared_caught_iff collecting_growing ⟨answering⟩ ⟨1, "ann"⟩ []
    (i := 1) rfl rfl misdeclared entered
  refine ⟨misdeclared, fun silent => ?_⟩
  cases silent_iff.1 silent

/-- A signal that is declared to return something reaches the handle: it is recorded, and sent with
the start. -/
theorem misdeclared_signal_is_sent :
    let ann : Stub := ⟨⟨1, "ann"⟩, ⟨answering⟩⟩
    let batch : BatchId := ⟨1, "batch"⟩
    let run := runFrom (do
        let _ ← Batch.recording batch
          (ann.call collecting ⟨"Greeter", "greet", .string, [.string], false⟩ [.string "Ann"])
        let answer ← Batch.recording batch
          (ann.call collecting ⟨"Greeter", "cancel", .string, [], false⟩ [])
        let _ ← (← outside fun collected => (collected, collected)).send collecting
        return answer) (State.initial (ν := Unit) Batch.empty)
    answeringDeclaration.resolve = .ok answering ∧ Misdeclared .signal .string ∧
      run.1 = .ok (some (.string "")) ∧
      run.2.calls = [.batch batch (.start ann.handle [.string "Ann"]),
        .batch batch (.signal ann.handle "Cancel" []),
        .handle ann.handle (.signalWithStart "Cancel" [] [.string "Ann"])] := by
  intro ann batch run
  have misdeclared : Misdeclared .signal .string := .inl ⟨rfl, by decide⟩
  exact ⟨answering_resolves, misdeclared, rfl, rfl⟩

end WorkflowDispatch
