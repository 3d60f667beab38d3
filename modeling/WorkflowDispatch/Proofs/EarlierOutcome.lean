import WorkflowDispatch.Proofs.Objection
import WorkflowDispatch.Stub

/-!
# Earlier outcomes

Whether the outcome of an earlier call can still be read after a call that failed.  A call of a
method forgets it before anything else happens, so its whole run is the one of a context that never
held it.  A call that fails before it reaches the method leaves everything as it is, the earlier
outcome included.

    runFrom (route c h (.method i) args) s.forgotten = runFrom (route c h (.method i) args) s
                                                                  (runFrom_route_forgotten)
    s.forgotten.forgotten = s.forgotten                           (State.forgotten_forgotten)
-/

namespace WorkflowDispatch

open WorkflowDispatch.Action

variable {σ ν α : Type}

/-! ## Definitions -/

/-- What can be read in the context after the action is what could be read there if no earlier
call had left an outcome. -/
def Action.Hides (x : Action σ ν α) (s : State σ ν) : Prop :=
  Context.currentOutcome (runFrom x s).2.context =
    Context.currentOutcome (runFrom x s.forgotten).2.context

/-- No outcome can be read in the context. -/
def State.Blank (s : State σ ν) : Prop := ∀ v, Context.currentOutcome s.context ≠ .ok v

/-- Whether a typed call gets as far as the method. -/
def Stub.reaches (stub : Stub) (m : Member) (mode : Mode) : Bool :=
  answerable m.signature.returns mode && (stub.descriptor.find m).isSome

/-! ## Lemmas -/

@[simp] theorem State.forgotten_forgotten (s : State σ ν) :
    s.forgotten.forgotten = s.forgotten := by
  unfold forgotten
  cases s.context <;> rfl

@[simp] theorem State.modeOf_forgotten (s : State σ ν) :
    Context.modeOf s.forgotten.context = Context.modeOf s.context := by
  unfold forgotten
  cases s.context <;> rfl

theorem State.blank_forgotten (s : State σ ν) : s.forgotten.Blank := by
  intro v
  unfold forgotten
  cases s.context with
  | none => nofun
  | some ctx =>
    show (if _ then _ else _) ≠ _
    split <;> nofun

theorem State.blank_of_context (s : State σ ν) {t : State σ ν}
    (same : t.context = s.forgotten.context) : t.Blank := by
  unfold Blank
  rw [same]
  exact s.blank_forgotten

theorem State.Blank.currentOutcome_eq {s : State σ ν} (blank : s.Blank) :
    Context.currentOutcome s.context = Context.currentOutcome s.forgotten.context := by
  unfold forgotten
  cases context : s.context with
  | none => rfl
  | some ctx =>
    show ctx.outcome = ctx.forgetOutcome.outcome
    by_cases batched : ctx.mode = .signalWithStart
    · simp [Context.outcome, Context.forgetOutcome, batched]
    · cases held : ctx.held with
      | none => simp [Context.outcome, Context.forgetOutcome, batched, held]
      | some v =>
        have readable : Context.currentOutcome s.context = .ok v := by
          simp [context, Context.currentOutcome, Context.outcome, batched, held]
        exact absurd readable (blank v)

/-- An action that leaves everything as it is hides nothing that can be read. -/
theorem hides_iff_of_unchanged {x : Action σ ν α} {s : State σ ν} (same : (runFrom x s).2 = s)
    (forgotten : (runFrom x s.forgotten).2 = s.forgotten) : x.Hides s ↔ s.Blank := by
  unfold Action.Hides
  rw [same, forgotten]
  constructor
  · intro equal v readable
    exact s.blank_forgotten v (equal.symm.trans readable)
  · exact State.Blank.currentOutcome_eq

/-- A call does not depend on the outcome that its context holds. -/
theorem RoutedCall.make_forgotten (c : Collaborators σ ν) (r : RoutedCall)
    (context? : Option Context) :
    r.make c (context?.map Context.forgetOutcome) = r.make c context? := by
  cases context? <;> rfl

theorem RoutedCall.begun_forgotten (r : RoutedCall) (s : State σ ν) :
    r.begun s.forgotten = r.begun s := by
  unfold begun
  rw [s.forgotten_forgotten, s.modeOf_forgotten]
  rfl

/-- A call of a method runs as it would if its context had never held an outcome. -/
theorem runFrom_route_forgotten (c : Collaborators σ ν) (router : Router) (h : HandleId) (i : Nat)
    (args : List Value) (s : State σ ν) :
    runFrom (router.route c h (.method i) args) s.forgotten =
      runFrom (router.route c h (.method i) args) s := by
  cases routed : router.descriptor.routedCall h i args with
  | error e =>
    rw [runFrom_route_error c routed, runFrom_route_error c routed, s.forgotten_forgotten]
  | ok r =>
    rw [runFrom_route_ok c routed, runFrom_route_ok c routed, r.begun_forgotten]
    exact congrArg (runFrom · (r.begun s)) (r.make_forgotten c s.context)

/-- The call of a member that the interface declares is the call of that method. -/
theorem Stub.untypedCall_of_find (c : Collaborators σ ν) {stub : Stub} {m : Member} {i : Nat}
    (found : stub.descriptor.find m = some i) (args : List Value) :
    stub.untypedCall c m args = stub.router.route c stub.handle (.method i) args := by
  unfold untypedCall Descriptor.target
  rw [found]

/-- An untyped call that goes well is the call of a method of the interface. -/
theorem Stub.method_of_untypedCall_ok {c : Collaborators σ ν} {stub : Stub} {m : Member}
    {args : List Value} {s s' : State σ ν} {v : Value}
    (ran : runFrom (stub.untypedCall c m args) s = (.ok v, s')) :
    ∃ i, stub.descriptor.find m = some i ∧
      runFrom (stub.router.route c stub.handle (.method i) args) s = (.ok v, s') := by
  cases found : stub.descriptor.find m with
  | none =>
    unfold untypedCall Descriptor.target at ran
    rw [found] at ran
    cases ran
  | some i =>
    rw [untypedCall_of_find c found] at ran
    exact ⟨i, rfl, ran⟩

theorem runFrom_call (c : Collaborators σ ν) (stub : Stub) (m : Member) (args : List Value)
    (s : State σ ν) :
    runFrom (stub.call c m args) s =
      if Stub.answerable m.signature.returns (Context.modeOf s.context) then
        runFrom (stub.untypedCall c m args >>= fun v =>
          expect (stub.typedAnswer m.signature.returns (Context.modeOf s.context) v)) s
      else (.error (.thrown (Cause.toFailure StubError.noDefault)), s) := by
  unfold Stub.call
  rw [runFrom_bind, runFrom_context]
  show runFrom (if _ then _ else _) s = _
  split <;> rfl

/-- A typed call that does not reach the method leaves everything as it is. -/
theorem runFrom_call_unreached (c : Collaborators σ ν) {stub : Stub} {m : Member}
    (args : List Value) {s : State σ ν}
    (unreached : stub.reaches m (Context.modeOf s.context) = false) :
    (runFrom (stub.call c m args) s).2 = s := by
  rw [runFrom_call]
  split
  · next answerable =>
    have undeclared : stub.descriptor.find m = none := by
      simpa [Stub.reaches, answerable] using unreached
    unfold Stub.untypedCall Descriptor.target
    rw [undeclared]
    rfl
  · rfl

/-- A typed call that reaches the method does not depend on what the context holds either. -/
theorem runFrom_call_forgotten (c : Collaborators σ ν) {stub : Stub} {m : Member}
    (args : List Value) {s : State σ ν}
    (reached : stub.reaches m (Context.modeOf s.context) = true) :
    runFrom (stub.call c m args) s.forgotten = runFrom (stub.call c m args) s := by
  obtain ⟨answerable, declared⟩ := Bool.and_eq_true_iff.1 reached
  obtain ⟨i, found⟩ := Option.isSome_iff_exists.1 declared
  rw [runFrom_call, runFrom_call, s.modeOf_forgotten, if_pos answerable, if_pos answerable,
    Stub.untypedCall_of_find c found, runFrom_bind, runFrom_bind, runFrom_route_forgotten]

/-- With quiet collaborators nothing can be read after a call of a method that failed. -/
theorem blank_of_route_failed {c : Collaborators σ ν} (quiet : c.Quiet) {router : Router}
    {h : HandleId} {i : Nat} {args : List Value} {s s' : State σ ν} {stop : Stop}
    (entered : ∀ ctx ∈ s.context, ctx.Entered)
    (failed : runFrom (router.route c h (.method i) args) s = (.error stop, s')) : s'.Blank := by
  obtain ⟨e, t, -, run, -, context⟩ | ⟨r, turns, outcome, t, -, -, -, talk, run⟩ :=
    route_method_cases c router h i args (Context.batch_of_entered entered)
  · obtain ⟨-, rfl⟩ := Prod.mk.inj (failed.symm.trans run)
    exact s.blank_of_context context
  · obtain ⟨returned, rfl⟩ := Prod.mk.inj (failed.symm.trans run)
    rcases outcome with stop | v
    · refine s.blank_of_context ((context_holding quiet talk _).trans ?_)
      unfold State.forgotten
      cases s.context with
      | none => rfl
      | some ctx => simp [Context.after, Context.forgetOutcome, Except.toOption]
    · rw [Mode.returned_ok] at returned
      cases returned

/-! ## What is hidden -/

section

variable (c : Collaborators σ ν) (s : State σ ν)

/-- A call of a method hides an earlier outcome, one that is aimed at nothing does not. -/
theorem route_hides_iff (router : Router) (h : HandleId) {target : Target} (args : List Value)
    (real : ∀ question, target ≠ .reserved question) :
    (router.route c h target args).Hides s ↔ (∃ i, target = .method i) ∨ s.Blank := by
  cases target with
  | reserved question => exact absurd rfl (real question)
  | undeclared description =>
    rw [hides_iff_of_unchanged rfl rfl]
    simp
  | method i =>
    have hides : (router.route c h (.method i) args).Hides s := by
      unfold Action.Hides
      rw [runFrom_route_forgotten]
    simp [hides]

/-- A typed call hides an earlier outcome when it reaches the method, and only then. -/
theorem call_hides_iff (stub : Stub) (m : Member) (args : List Value) :
    (stub.call c m args).Hides s ↔
      stub.reaches m (Context.modeOf s.context) = true ∨ s.Blank := by
  cases reached : stub.reaches m (Context.modeOf s.context) with
  | false =>
    have unreached : stub.reaches m (Context.modeOf s.forgotten.context) = false := by
      rw [s.modeOf_forgotten, reached]
    rw [hides_iff_of_unchanged (runFrom_call_unreached c args reached)
      (runFrom_call_unreached c args unreached)]
    simp
  | true =>
    have hides : (stub.call c m args).Hides s := by
      unfold Action.Hides
      rw [runFrom_call_forgotten c args reached]
    simp [hides]

end

/-! ## Top theorem -/

/-- **A failed call hides an earlier outcome exactly when it got as far as a method.**  One that is
aimed at nothing of the interface, or that has no default to answer, leaves the outcome where it
is. -/
theorem failed_call_hides_iff (c : Collaborators σ ν) {s : State σ ν}
    (entered : ∀ ctx ∈ s.context, ctx.Entered) :
    (∀ (router : Router) (h : HandleId) (target : Target) (args : List Value) (stop : Stop)
        (s' : State σ ν), runFrom (router.route c h target args) s = (.error stop, s') →
      ((router.route c h target args).Hides s ↔ (∃ i, target = .method i) ∨ s.Blank) ∧
        ((∃ i, target = .method i) → c.Quiet → s'.Blank) ∧
        ((¬∃ i, target = .method i) → s' = s)) ∧
      ∀ (stub : Stub) (m : Member) (args : List Value) (stop : Stop) (s' : State σ ν),
        runFrom (stub.call c m args) s = (.error stop, s') →
        ((stub.call c m args).Hides s ↔
            stub.reaches m (Context.modeOf s.context) = true ∨ s.Blank) ∧
          (stub.reaches m (Context.modeOf s.context) = false → s' = s) := by
  constructor
  · intro router h target args stop s' failed
    have real (question : Reserved) : target ≠ .reserved question := by
      rintro rfl
      cases failed
    refine ⟨route_hides_iff c s router h args real, ?_, fun aimless => ?_⟩
    · rintro ⟨i, rfl⟩ quiet
      exact blank_of_route_failed quiet entered failed
    · cases target with
      | reserved question => exact absurd rfl (real question)
      | undeclared description => exact (Prod.mk.inj failed).2.symm
      | method i => exact absurd ⟨i, rfl⟩ aimless
  · intro stub m args stop s' failed
    refine ⟨call_hides_iff c s stub m args, fun unreached => ?_⟩
    rw [← runFrom_call_unreached c args unreached, failed]

/-- A method that is not there hides what the status was, a member that is not there shows it. -/
theorem missing_method_hides_status :
    let s : State Unit Unit :=
      { State.initial () with context := some ⟨.sync, none, some (.string "RUNNING")⟩ }
    (Router.route running ⟨greeter⟩ ⟨1, "ann"⟩ (.method 7) []).Hides s ∧
      ¬(Router.route running ⟨greeter⟩ ⟨1, "ann"⟩ (.undeclared "no such member") []).Hides s ∧
      ¬(Stub.call running ⟨⟨1, "ann"⟩, ⟨greeter⟩⟩
        ⟨"Other", "status", .string, [], true⟩ []).Hides s := by
  obtain ⟨routes, calls⟩ := failed_call_hides_iff running
    (s := { State.initial () with context := some ⟨.sync, none, some (.string "RUNNING")⟩ })
    (by rintro ctx ⟨⟩; exact (Context.entered_iff _).2 (by decide))
  refine ⟨(routes _ _ _ _ _ _ rfl).1.2 (.inl ⟨7, rfl⟩), fun hidden => ?_, fun hidden => ?_⟩
  · obtain ⟨i, isMethod⟩ | blank := (routes _ _ _ _ _ _ rfl).1.1 hidden
    · cases isMethod
    · exact blank (.string "RUNNING") rfl
  · obtain reached | blank := (calls _ _ _ _ _ rfl).1.1 hidden
    · cases reached
    · exact blank (.string "RUNNING") rfl

/-- The status is still there after a call that is aimed at nothing, and the future of a result
after a typed call that has no default to answer. -/
theorem failed_call_shows_earlier_outcome :
    (runFrom (do
        enter .sync none
        let _ ← Router.route running ⟨greeter⟩ ⟨1, "ann"⟩ (.method 2) []
        let failed ← observe
          (Router.route running ⟨greeter⟩ ⟨1, "ann"⟩ (.undeclared "no such member") [])
        return (failed, ← currentOutcome)) (State.initial ())).1 =
      .ok (.error (.thrown (WorkflowError.ofKind .invalidTarget "no such member").toFailure),
        .string "RUNNING") ∧
    (runFrom (do
        enter .execute none
        let _ ← Router.route running ⟨greeter⟩ ⟨1, "ann"⟩ (.method 0) []
        let failed ← observe
          (Stub.call running ⟨⟨1, "ann"⟩, ⟨greeter⟩⟩ ⟨"Greeter", "ticket", .receipt, [], false⟩ [])
        return (failed, ← currentOutcome)) (State.initial ())).1 =
      .ok (.error (.thrown (Cause.toFailure StubError.noDefault)), .future .unbound) :=
  ⟨rfl, rfl⟩

end WorkflowDispatch
