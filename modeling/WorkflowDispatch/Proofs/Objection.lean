import WorkflowDispatch.Proofs.Protocol

/-!
# Objections to a call

A call is refused for the first of these reasons that applies: nothing of the interface is aimed
at, the method has no role, its role does not fit the mode, its declared type does not fit its
role.  Nobody is asked anything before all of them are ruled out.  `route_method_runs` says once
what a call of a method can do; the other modules take it from there.

    mode.objection? method role returns = none ↔ mode.accepts role returns = true
                                                                         (Mode.objection?_eq_none)
    d.objection? mode target = some e →
      (runFrom (route c h target args) s).1 = .error (.thrown e.toFailure)       (route_refused)
-/

namespace WorkflowDispatch

open WorkflowDispatch.Action

variable {σ ν : Type}

/-! ## Definitions -/

/-- The objection of a mode to a method with this role and declared type. -/
def Mode.objection? (mode : Mode) (method : String) (role : Role) (returns : ValueType) :
    Option WorkflowError :=
  if (mode = .start ∨ mode = .execute) ∧ role ≠ .entryPoint then
    some (.ofKind .unsupportedInMode
      (mode.name ++ " accepts only the workflow method, not " ++ role.name ++ " " ++ method))
  else if mode = .signalWithStart ∧ role = .query then
    some (.ofKind .unsupportedInBatch
      ("signal-with-start batch does not accept query method " ++ method))
  else if mode = .sync ∧ role = .signal ∧ returns ≠ .void then
    some (.ofKind .returnTypeMismatch ("signal method must return void: " ++ method))
  else if mode = .sync ∧ role = .query ∧ returns = .void then
    some (.ofKind .returnTypeMismatch ("query method cannot return void: " ++ method))
  else none

/-- The first objection to a call of the target in the mode.  A question about the stub meets
none. -/
def Descriptor.objection? (d : Descriptor) (mode : Mode) : Target → Option WorkflowError
  | .reserved _ => none
  | .undeclared description => some (.ofKind .invalidTarget description)
  | .method i =>
    match d.methods[i]? with
    | none =>
      some (.ofKind .invalidTarget
        ("method index " ++ toString i ++ " is not declared on " ++ d.name))
    | some entry =>
      match entry.resolved with
      | none =>
        some (.ofKind .unknownMethod
          (d.qualified entry ++ " has no WorkflowMethod, SignalMethod or QueryMethod marker"))
      | some resolved => mode.objection? (d.qualified entry) resolved.role entry.returns

/-! ## Lemmas -/

/-- A mode objects to what it does not accept. -/
theorem Mode.objection?_eq_none (mode : Mode) (method : String) (role : Role)
    (returns : ValueType) :
    mode.objection? method role returns = none ↔ mode.accepts role returns = true := by
  by_cases void : returns = .void
  · cases mode <;> cases role <;> simp [objection?, accepts, ValueType.isVoid, void]
  · cases mode <;> cases role <;> simp [objection?, accepts, ValueType.isVoid, void]

/-- The cases in which a mode objects, each with its error. -/
theorem Mode.objection?_eq_some {mode : Mode} {method : String} {role : Role}
    {returns : ValueType} {e : WorkflowError}
    (objection : mode.objection? method role returns = some e) :
    ((mode = .start ∨ mode = .execute) ∧ role ≠ .entryPoint ∧
        e = Cause.toError (RoutingError.entryPointOnly mode role method)) ∨
      (mode = .signalWithStart ∧ role = .query ∧
        e = Cause.toError (RoutingError.queryInBatch method)) ∨
      (mode = .sync ∧ role = .signal ∧ returns.isVoid = false ∧
        e = Cause.toError (RoutingError.signalReturns method)) ∨
      (mode = .sync ∧ role = .query ∧ returns.isVoid = true ∧
        e = Cause.toError (RoutingError.queryReturnsNothing method)) := by
  unfold objection? at objection
  split at objection
  · next h => exact .inl ⟨h.1, h.2, (Option.some.inj objection).symm⟩
  split at objection
  · next h => exact .inr (.inl ⟨h.1, h.2, (Option.some.inj objection).symm⟩)
  split at objection
  · next h =>
    exact .inr (.inr (.inl ⟨h.1, h.2.1, by simpa [ValueType.isVoid] using h.2.2,
      (Option.some.inj objection).symm⟩))
  split at objection
  · next h =>
    exact .inr (.inr (.inr ⟨h.1, h.2.1, by simpa [ValueType.isVoid] using h.2.2,
      (Option.some.inj objection).symm⟩))
  · cases objection

/-- A call that is objected to leaves everything as it is. -/
theorem RoutedCall.runFrom_make_refused (c : Collaborators σ ν) (r : RoutedCall)
    {context? : Option Context} {e : WorkflowError}
    (objection : (Context.modeOf context?).objection? r.method r.resolved.role r.returns = some e)
    (batched : Context.modeOf context? = .signalWithStart →
      (context?.bind Context.batch).isSome = true) (s : State σ ν) :
    runFrom (r.make c context?) s = (.error (.thrown e.toFailure), s) := by
  obtain ⟨mode | mode, role, rfl⟩ | ⟨mode, role, rfl⟩ | ⟨mode, role, void, rfl⟩ |
    ⟨mode, role, void, rfl⟩ := Mode.objection?_eq_some objection
  · simp only [make, mode, startOnly, onlyEntryPoint, role, if_false]
    rfl
  · simp only [make, mode, startForFuture, onlyEntryPoint, role, if_false]
    rfl
  · obtain ⟨batch, given⟩ := Option.isSome_iff_exists.1 (batched mode)
    simp only [make, mode, recordInBatch, given, role]
    rfl
  · simp only [make, mode, carryOut, role, void, Bool.false_eq_true, if_false]
    rfl
  · simp only [make, mode, carryOut, role, void, if_true]
    rfl

theorem objection?_of_routedCall_error {d : Descriptor} {h : HandleId} {i : Nat}
    {args : List Value} {e : WorkflowError} (refused : d.routedCall h i args = .error e)
    (mode : Mode) : d.objection? mode (.method i) = some e := by
  unfold Descriptor.routedCall Descriptor.method at refused
  unfold Descriptor.objection?
  cases declared : d.methods[i]? with
  | none =>
    simp only [declared] at refused ⊢
    exact congrArg some (Except.error.inj refused)
  | some entry =>
    simp only [declared] at refused ⊢
    cases role : entry.resolved with
    | none =>
      simp only [role] at refused ⊢
      exact congrArg some (Except.error.inj refused)
    | some resolved => simp [role] at refused

theorem objection?_of_routedCall_ok {d : Descriptor} {h : HandleId} {i : Nat}
    {args : List Value} {r : RoutedCall} (routed : d.routedCall h i args = .ok r) (mode : Mode) :
    d.objection? mode (.method i) = mode.objection? r.method r.resolved.role r.returns := by
  obtain ⟨entry, resolved, declared, role, rfl⟩ := of_routedCall_eq_ok routed
  unfold Descriptor.objection?
  simp only [declared, role]

/-- A first call is made by every accepted call. -/
theorem Protocol.callsOf_eq {r : RoutedCall} {batch : Option BatchId} {mode : Mode} {role : Role}
    {turns : List Turn} {outcome : Ending Value}
    (protocol : Protocol r batch mode role turns outcome) :
    ∃ call more, callsOf turns = call :: more := by
  cases protocol with
  | result _ attaching | future _ attaching =>
    obtain ⟨more, first⟩ := attaching.callsOf_eq
    exact ⟨_, _, by rw [callsOf_append, first, List.cons_append]⟩
  | noResult attaching | noFuture attaching =>
    obtain ⟨more, first⟩ := attaching.callsOf_eq
    exact ⟨_, _, first⟩
  | signal | query | start | recordStart | recordSignal => exact ⟨_, _, rfl⟩

/-- All that a call of a method can do: an objection is thrown before the call begins to talk, or
the call keeps to its protocol. -/
theorem route_method_runs (c : Collaborators σ ν) (router : Router) (h : HandleId) (i : Nat)
    (args : List Value) {s : State σ ν}
    (batched : Context.modeOf s.context = .signalWithStart →
      (s.context.bind Context.batch).isSome = true) :
    (∃ e t, router.descriptor.objection? (Context.modeOf s.context) (.method i) = some e ∧
        runFrom (router.route c h (.method i) args) s = (.error (.thrown e.toFailure), t) ∧
        (t = s.forgotten ∨ ∃ r : RoutedCall, t = r.begun s)) ∨
      ∃ r turns outcome t,
        router.descriptor.objection? (Context.modeOf s.context) (.method i) = none ∧
        router.descriptor.routedCall h i args = .ok r ∧
        Protocol r (s.context.bind Context.batch) (Context.modeOf s.context) r.resolved.role turns
          outcome ∧
        Talk c (r.begun s) turns t ∧
        runFrom (router.route c h (.method i) args) s =
          ((Context.modeOf s.context).returned outcome, t.holding s.context outcome) := by
  cases routed : router.descriptor.routedCall h i args with
  | error e =>
    exact .inl ⟨e, _, objection?_of_routedCall_error routed _, runFrom_route_error c routed s,
      .inl rfl⟩
  | ok r =>
    rw [objection?_of_routedCall_ok routed]
    cases objection : (Context.modeOf s.context).objection? r.method r.resolved.role r.returns with
    | some e =>
      refine .inl ⟨e, r.begun s, rfl, ?_, .inr ⟨r, rfl⟩⟩
      rw [runFrom_route_ok c routed, r.runFrom_make_refused c objection batched]
    | none =>
      have accepted := (Mode.objection?_eq_none _ _ _ _).1 objection
      obtain ⟨turns, outcome, t, protocol, talk, run⟩ := route_talk c routed accepted batched
      exact .inr ⟨r, turns, outcome, t, rfl, rfl, protocol, talk, run⟩

/-- As far as calls and outcomes go: an objection is thrown and nobody was asked, or the call keeps
to its protocol. -/
theorem route_method_cases (c : Collaborators σ ν) (router : Router) (h : HandleId) (i : Nat)
    (args : List Value) {s : State σ ν}
    (batched : Context.modeOf s.context = .signalWithStart →
      (s.context.bind Context.batch).isSome = true) :
    (∃ e t, router.descriptor.objection? (Context.modeOf s.context) (.method i) = some e ∧
        runFrom (router.route c h (.method i) args) s = (.error (.thrown e.toFailure), t) ∧
        t.calls = s.calls ∧ t.context = s.forgotten.context) ∨
      ∃ r turns outcome t,
        router.descriptor.objection? (Context.modeOf s.context) (.method i) = none ∧
        router.descriptor.routedCall h i args = .ok r ∧
        Protocol r (s.context.bind Context.batch) (Context.modeOf s.context) r.resolved.role turns
          outcome ∧
        Talk c (r.begun s) turns t ∧
        runFrom (router.route c h (.method i) args) s =
          ((Context.modeOf s.context).returned outcome, t.holding s.context outcome) := by
  obtain ⟨e, t, objection, run, rfl | ⟨r, rfl⟩⟩ | kept :=
    route_method_runs c router h i args batched
  · exact .inl ⟨e, _, objection, run, rfl, rfl⟩
  · exact .inl ⟨e, _, objection, run, r.calls_begun s, rfl⟩
  · exact .inr kept

section

variable (c : Collaborators σ ν) {router : Router} (h : HandleId) {target : Target}
  (args : List Value) {s : State σ ν} (entered : ∀ ctx ∈ s.context, ctx.Entered)

include entered

/-- A call that is objected to asks nobody. -/
theorem route_refused {e : WorkflowError}
    (objection : router.descriptor.objection? (Context.modeOf s.context) target = some e) :
    (runFrom (router.route c h target args) s).1 = .error (.thrown e.toFailure) ∧
      (runFrom (router.route c h target args) s).2.calls = s.calls := by
  cases target with
  | reserved question => cases objection
  | undeclared description =>
    cases objection
    exact ⟨rfl, rfl⟩
  | method i =>
    obtain ⟨e', t, first, run, silent, -⟩ | ⟨r, turns, outcome, t, unopposed, -⟩ :=
      route_method_cases c router h i args (Context.batch_of_entered entered)
    · rw [objection] at first
      obtain rfl := Option.some.inj first
      rw [run]
      exact ⟨rfl, silent⟩
    · rw [objection] at unopposed
      cases unopposed

/-- A call without an objection asks somebody. -/
theorem route_asks (hc : c.Keep CallsGrow) (real : ∀ question, target ≠ .reserved question)
    (unopposed : router.descriptor.objection? (Context.modeOf s.context) target = none) :
    ∃ call, s.calls ++ [call] <+: (runFrom (router.route c h target args) s).2.calls := by
  cases target with
  | reserved question => exact absurd rfl (real question)
  | undeclared description => cases unopposed
  | method i =>
    obtain ⟨e, t, objection, -⟩ | ⟨r, turns, outcome, t, -, routed, protocol, talk, run⟩ :=
      route_method_cases c router h i args (Context.batch_of_entered entered)
    · rw [unopposed] at objection
      cases objection
    · obtain ⟨call, more, first⟩ := protocol.callsOf_eq
      rw [run]
      exact ⟨call, by simpa using talk.first_call hc first⟩

theorem route_loud (hc : c.Keep CallsGrow) (real : ∀ question, target ≠ .reserved question)
    (unopposed : router.descriptor.objection? (Context.modeOf s.context) target = none) :
    (runFrom (router.route c h target args) s).2.calls ≠ s.calls := by
  intro silent
  obtain ⟨call, more⟩ := route_asks c h args entered hc real unopposed
  have longer := more.length_le
  rw [silent, List.length_append, List.length_singleton] at longer
  omega

end

/-! ## Top theorem -/

/-- **Misuse reaches nobody.**  The collaborators may do anything but undo calls.  They are not
called exactly when the call is a question about the stub or there is an objection, and then the
question is answered or the first objection thrown. -/
theorem route_silent_iff {c : Collaborators σ ν} (hc : c.Keep CallsGrow) (router : Router)
    (h : HandleId) (target : Target) (args : List Value) {s : State σ ν}
    (entered : ∀ ctx ∈ s.context, ctx.Entered) :
    let objection? := router.descriptor.objection? (Context.modeOf s.context) target
    let (ending, s') := runFrom (router.route c h target args) s
    (s'.calls = s.calls ↔ (∃ question, target = .reserved question) ∨ objection?.isSome = true) ∧
      (target = .reserved .stubName → ending = .ok (.string "WorkflowStub") ∧ s' = s) ∧
      (target = .reserved .untypedStub → ending = .ok (.handle ⟨some h⟩) ∧ s' = s) ∧
      (∀ e ∈ objection?, ending = .error (.thrown e.toFailure)) ∧
      ((∀ question, target ≠ .reserved question) → objection? = none →
        ∃ call, s.calls ++ [call] <+: s'.calls) := by
  refine ⟨⟨fun silent => ?_, ?_⟩, ?_, ?_,
    fun e objection => (route_refused c h args entered objection).1,
    route_asks c h args entered hc⟩
  · by_cases question : ∃ question, target = .reserved question
    · exact .inl question
    refine .inr (Option.isSome_iff_ne_none.2 fun unopposed => ?_)
    exact route_loud c h args entered hc (fun q hq => question ⟨q, hq⟩) unopposed silent
  · rintro (⟨question, rfl⟩ | objected)
    · rfl
    · obtain ⟨e, objection⟩ := Option.isSome_iff_exists.1 objected
      exact (route_refused c h args entered objection).2
  · rintro rfl
    exact ⟨rfl, rfl⟩
  · rintro rfl
    exact ⟨rfl, rfl⟩

/-- A query cannot be recorded, so neither the handle nor the batch hears of it. -/
theorem batched_status_asks_nobody :
    let s := justEntered .signalWithStart (some ⟨1, "batch"⟩)
    let (ending, s') := runFrom (Router.route running ⟨greeter⟩ ⟨1, "ann"⟩ (.method 2) []) s
    s'.calls = s.calls ∧
      ending = .error (.thrown (WorkflowError.ofKind .unsupportedInBatch
        "signal-with-start batch does not accept query method Greeter::status").toFailure) := by
  have silent := route_silent_iff running_quiet.growing ⟨greeter⟩ ⟨1, "ann"⟩ (.method 2) []
    (entered_justEntered .signalWithStart (some ⟨1, "batch"⟩) (by decide))
  exact ⟨silent.1.2 (.inr rfl), silent.2.2.2.1 _ rfl⟩

end WorkflowDispatch
