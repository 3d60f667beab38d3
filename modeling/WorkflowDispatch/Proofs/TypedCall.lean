import WorkflowDispatch.Proofs.EarlierOutcome
import WorkflowDispatch.Proofs.Nesting

/-!
# Typed and untyped calls

A typed call decides by the mode of its context whether it has something to answer, and then makes
the untyped call, which looks at the context again.  The two looks agree: whatever the handle and
the batch do, the typed call leaves what the untyped one leaves, and ends as that does up to a
conversion of its value.  In Sync mode the converted value is what the handle answered, and in any
other mode there is nothing that a default value could stand in for.

    ¬Unanswerable type mode → runFrom (call …) s = the conversion of runFrom (untypedCall …) s
                                                                        (Stub.call_converted)
    runFrom (untypedCall …) s = (.ok v, _) → mode ≠ .sync → v = .empty  (Stub.untypedCall_elsewhere)
-/

namespace WorkflowDispatch

open WorkflowDispatch.Action

variable {σ ν α : Type}

/-! ## Definitions -/

/-- A call of this type has nothing to answer in the mode: neither is there a value nor a default
for it. -/
def Unanswerable (type : ValueType) (mode : Mode) : Prop :=
  type ≠ .void ∧ type.default? = none ∧ mode ≠ .sync

/-- How a typed call ends when the untyped call ended so. -/
inductive Converted (interface : String) (mode : Mode) (type : ValueType) :
    Ending Value → Ending (Option Value) → Prop where
  | failed (stop : Stop) : Converted interface mode type (.error stop) (.error stop)
  | nothing (v : Value) (void : type = .void) : Converted interface mode type (.ok v) (.ok none)
  | default {d : Value} (v : Value) (nonvoid : type ≠ .void) (elsewhere : mode ≠ .sync)
      (isDefault : type.default? = some d) : Converted interface mode type (.ok v) (.ok (some d))
  | value {v : Value} (nonvoid : type ≠ .void) (here : mode = .sync)
      (exact : v.type? = some type) : Converted interface mode type (.ok v) (.ok (some v))
  | mismatch {v : Value} (nonvoid : type ≠ .void) (here : mode = .sync)
      (foreign : v.type? ≠ some type) :
      Converted interface mode type (.ok v) (.error (.thrown (WorkflowError.ofKind
        .returnTypeMismatch
        ("handle returned a value of the wrong type for " ++ interface)).toFailure))

/-- The value is what the handle of the stub answered to the last request of the call, and the call
ended in the state after that answer. -/
def Stub.Produced (c : Collaborators σ ν) (stub : Stub) (m : Member) (args : List Value)
    (s s' : State σ ν) (v : Value) : Prop :=
  ∃ i r before call answer t t',
    stub.descriptor.find m = some i ∧
    stub.descriptor.routedCall stub.handle i args = .ok r ∧
    r.ownCall? .sync = some call ∧
    Talk c (r.begun s) before t ∧
    runFrom (callHandle c stub.handle call) t = (.ok answer, t') ∧
    v = call.value answer ∧ s' = t'.holding s.context (.ok v)

/-! ## Conversion -/

theorem answerable_iff (type : ValueType) (mode : Mode) :
    Stub.answerable type mode = true ↔ ¬Unanswerable type mode := by
  unfold Stub.answerable Unanswerable ValueType.isVoid
  by_cases here : mode = .sync
  · simp [here]
  by_cases void : type = .void
  · simp [void]
  cases type.default? <;> simp [here, void]

/-- A value that arrives where it can be answered is converted, and nothing else is done. -/
theorem Stub.typedAnswer_converted (stub : Stub) {type : ValueType} {mode : Mode}
    (answerable : ¬Unanswerable type mode) (v : Value) (s : State σ ν) :
    ∃ ending, runFrom (expect (stub.typedAnswer type mode v) : Action σ ν (Option Value)) s =
        (ending, s) ∧
      Converted stub.descriptor.name mode type (.ok v) ending := by
  unfold typedAnswer
  by_cases void : type = .void
  · refine ⟨.ok none, ?_, .nothing v void⟩
    rw [void]
    rfl
  have nonvoid : type.isVoid = false := by simpa [ValueType.isVoid] using void
  simp only [nonvoid, Bool.false_eq_true, if_false]
  by_cases here : mode = .sync
  · rw [if_pos here]
    by_cases exact : v.type? = some type
    · rw [if_pos ((v.hasType_iff type).2 exact)]
      exact ⟨_, rfl, .value void here exact⟩
    · rw [if_neg fun typed => exact ((v.hasType_iff type).1 typed)]
      exact ⟨_, rfl, .mismatch void here exact⟩
  · rw [if_neg here]
    cases isDefault : type.default? with
    | none => exact absurd ⟨void, isDefault, here⟩ answerable
    | some d => exact ⟨_, rfl, .default v void here isDefault⟩

section

variable (c : Collaborators σ ν) (stub : Stub) (m : Member) (args : List Value) (s : State σ ν)

/-- A typed call with nothing to answer is refused before anything is done. -/
theorem Stub.call_refused
    (unanswerable : Unanswerable m.signature.returns (Context.modeOf s.context)) :
    (stub.call c m args).RefusedAs .invalidState s := by
  refine ⟨Cause.toFailure StubError.noDefault, Cause.isOfKind_toFailure _, ?_⟩
  rw [runFrom_call, if_neg fun answerable => (answerable_iff _ _).1 answerable unanswerable]

/-- Any other typed call is the untyped call with its value converted. -/
theorem Stub.call_converted
    (answerable : ¬Unanswerable m.signature.returns (Context.modeOf s.context)) :
    ∃ ending, runFrom (stub.call c m args) s =
        (ending, (runFrom (stub.untypedCall c m args) s).2) ∧
      Converted stub.descriptor.name (Context.modeOf s.context) m.signature.returns
        (runFrom (stub.untypedCall c m args) s).1 ending := by
  rw [runFrom_call, if_pos ((answerable_iff _ _).2 answerable), runFrom_bind]
  rcases runFrom (stub.untypedCall c m args) s with ⟨stop | v, t⟩
  · exact ⟨.error stop, rfl, .failed stop⟩
  · exact stub.typedAnswer_converted answerable v t

end

/-! ## The values of untyped calls -/

section

variable {c : Collaborators σ ν} {stub : Stub} {m : Member} {args : List Value} {s s' : State σ ν}
  {v : Value}

theorem eq_of_runFrom_then_pure {x : Action σ ν α} {w : Value}
    (ran : runFrom (x >>= fun _ => pure w) s = (.ok v, s')) : v = w := by
  rw [runFrom_bind] at ran
  rcases first : runFrom x s with ⟨stop | a, t⟩
  · rw [first] at ran
    cases ran
  · rw [first] at ran
    cases ran
    rfl

/-- Outside Sync mode a call has no value of its own. -/
theorem RoutedCall.make_elsewhere {r : RoutedCall} {context? : Option Context}
    (elsewhere : Context.modeOf context? ≠ .sync)
    (ran : runFrom (r.make c context?) s = (.ok v, s')) : v = .empty := by
  unfold make at ran
  cases mode : Context.modeOf context? with
  | sync => exact absurd mode elsewhere
  | start | execute =>
    simp only [mode, ← bind_assoc] at ran
    exact eq_of_runFrom_then_pure ran
  | signalWithStart =>
    simp only [mode] at ran
    exact eq_of_runFrom_then_pure ran

theorem Stub.untypedCall_elsewhere (elsewhere : Context.modeOf s.context ≠ .sync)
    (ran : runFrom (stub.untypedCall c m args) s = (.ok v, s')) : v = .empty := by
  obtain ⟨i, -, routed⟩ := method_of_untypedCall_ok ran
  cases found : stub.router.descriptor.routedCall stub.handle i args with
  | error e =>
    rw [runFrom_route_error c found] at routed
    cases routed
  | ok r =>
    rw [runFrom_route_ok c found] at routed
    exact RoutedCall.make_elsewhere elsewhere routed

/-- In Sync mode the value of a call is what its handle answered. -/
theorem Stub.untypedCall_produced (here : Context.modeOf s.context = .sync)
    (ran : runFrom (stub.untypedCall c m args) s = (.ok v, s')) :
    stub.Produced c m args s s' v := by
  have plain : Context.modeOf s.context ≠ .signalWithStart := by
    rw [here]
    decide
  obtain ⟨i, found, routed⟩ := method_of_untypedCall_ok ran
  obtain ⟨r, turns, own, t', resolved, protocol, talk, returned, rfl⟩ :=
    talk_of_route_ok routed plain
  rw [if_pos here] at returned
  obtain ⟨call, before, answer, owned, rfl, valued⟩ := protocol.own_turn plain
  obtain ⟨t, first, last⟩ := talk.of_append
  rw [here] at owned
  have asked := last.of_single
  rw [handle_of_routedCall resolved] at asked
  subst returned
  exact ⟨i, r, before, call, answer, t, t', found, resolved, owned, first, asked, valued, rfl⟩

end

/-! ## Top theorem -/

/-- **A typed call is the untyped call with a checked conversion of its value.**  Where it has
nothing to answer it is refused and nothing is done.  Otherwise it leaves the state that the untyped
call leaves and ends as its conversion says.  The value that is converted in Sync mode is the
answer of the handle; in the other modes the untyped call has none. -/
theorem typed_call_converts (c : Collaborators σ ν) (stub : Stub) (m : Member) (args : List Value)
    (s : State σ ν) :
    let type := m.signature.returns
    let mode := Context.modeOf s.context
    let typed := runFrom (stub.call c m args) s
    let untyped := runFrom (stub.untypedCall c m args) s
    (Unanswerable type mode → (stub.call c m args).RefusedAs .invalidState s) ∧
      (¬Unanswerable type mode →
        typed.2 = untyped.2 ∧
          Converted stub.descriptor.name mode type untyped.1 typed.1) ∧
      (mode = .sync → ∀ v, untyped.1 = .ok v → stub.Produced c m args s untyped.2 v) ∧
      (mode ≠ .sync → ∀ v, untyped.1 = .ok v → v = .empty) := by
  intro type mode typed untyped
  refine ⟨stub.call_refused c m args s, fun answerable => ?_, fun here v ended => ?_,
    fun elsewhere v ended => ?_⟩
  · obtain ⟨ending, run, converted⟩ := stub.call_converted c m args s answerable
    have whole : typed = (ending, untyped.2) := run
    rw [whole]
    exact ⟨rfl, converted⟩
  · exact Stub.untypedCall_produced here (Prod.ext ended rfl)
  · exact Stub.untypedCall_elsewhere elsewhere (Prod.ext ended rfl : untyped = (.ok v, untyped.2))

/-- In Execute mode a greeting answers the default text, and the future is in the context; a ticket,
which has no default, is refused.  In Sync mode the status is what the handle answered. -/
theorem greet_answers_default :
    let ann : Stub := ⟨⟨1, "ann"⟩, ⟨greeter⟩⟩
    let greet : Member := ⟨"Greeter", "greet", .string, [.string], false⟩
    let ticket : Member := ⟨"Greeter", "ticket", .receipt, [], false⟩
    let status : Member := ⟨"Greeter", "status", .string, [], true⟩
    let executing := justEntered .execute none
    let greeted := runFrom (ann.call running greet [.string "Ann"]) executing
    let asked := runFrom (ann.call running status []) (.initial ())
    (ann.call running ticket []).RefusedAs .invalidState executing ∧
      greeted.1 = .ok (some (.string "")) ∧
      Context.currentOutcome greeted.2.context = .ok (.future .unbound) ∧
      asked.1 = .ok (some (.string "RUNNING")) ∧
      ann.Produced running status [] (.initial ()) asked.2 (.string "RUNNING") ∧
      Converted "Greeter" .execute .string (.ok .empty) greeted.1 := by
  intro ann greet ticket status executing greeted asked
  have none_to_answer : Unanswerable .receipt .execute := ⟨by decide, rfl, by decide⟩
  have text_to_answer : ¬Unanswerable .string .execute := fun h => absurd h.2.1 (by decide)
  have refused := (typed_call_converts running ann ticket [] executing).1 none_to_answer
  have default := (typed_call_converts running ann greet [.string "Ann"] executing).2.1
    text_to_answer
  have produced := (typed_call_converts running ann status [] (.initial ())).2.2.1 rfl
    (.string "RUNNING") rfl
  exact ⟨refused, rfl, rfl, rfl, produced, default.2⟩

end WorkflowDispatch
