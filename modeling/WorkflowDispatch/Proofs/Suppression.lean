import WorkflowDispatch.Proofs.Nesting

/-!
# Suppressed duplicates

A start that collides with a running execution is an error, or is passed over.  Two answers of the
handle decide: the one to the start, and the one to the question for its options, which is put only
after a collision.  `Settled` says how.  A call of a method that waits for a result, now or later,
asks for it exactly when the start was settled without an error.

    Attaching h args turns ending → Talk c s turns t →
      Settled h args (startAnswer c h args s) (optionsAnswer c h args s) turns ending
                                                                          (Attaching.settled)
-/

namespace WorkflowDispatch

open WorkflowDispatch.Action

variable {σ ν : Type}

/-! ## Definitions -/

/-- What the handle answers when it is asked to start. -/
def startAnswer (c : Collaborators σ ν) (h : HandleId) (args : List Value) (s : State σ ν) :
    Ending Execution :=
  (runFrom (callHandle c h (.start args)) s).1

/-- What the handle answers when it is asked for its options after that. -/
def optionsAnswer (c : Collaborators σ ν) (h : HandleId) (args : List Value) (s : State σ ν) :
    Ending (Option WorkflowOptions) :=
  (runFrom (callHandle c h .getOptions) (runFrom (callHandle c h (.start args)) s).2).1

/-- The start failed with the library's own code for a workflow that runs already.  The same number
of another domain, another code and a failure without a code are no collision. -/
def Collides (start : Ending Execution) : Prop :=
  ∃ text, start = .error (.thrown (.coded ⟨.workflow, 14⟩ text))

/-- The options were answered, and they set a policy that allows duplicates. -/
def AllowsDuplicate (options : Ending (Option WorkflowOptions)) : Prop :=
  ∃ o, options = .ok (some o) ∧ o.reusePolicy = some .allowDuplicate

/-- The options were answered: there are none, their policy is not set, or it is another one, be it
one without a name. -/
def ToleratesRunning (options : Ending (Option WorkflowOptions)) : Prop :=
  ∃ options?, options = .ok options? ∧ ∀ o ∈ options?, o.reusePolicy ≠ some .allowDuplicate

/-- How the two answers settle a start: what is asked for, and how it ends. -/
structure Settled (h : HandleId) (args : List Value) (start : Ending Execution)
    (options : Ending (Option WorkflowOptions)) (turns : List Turn) (ending : Ending StartResult) :
    Prop where
  asked_twice : Collides start → callsOf turns = [.handle h (.start args), .handle h .getOptions]
  asked_once : ¬Collides start → callsOf turns = [.handle h (.start args)]
  started_iff : ending = .ok .started ↔ ∃ e, start = .ok e
  attached_iff : ending = .ok .attached ↔ Collides start ∧ ToleratesRunning options
  failed_iff : ∀ stop, ending = .error stop ↔
    start = .error stop ∧ (Collides start → AllowsDuplicate options) ∨
      Collides start ∧ options = .error stop

/-! ## Lemmas -/

theorem Failure.isDuplicate_iff (failure : Failure) :
    failure.isOfKind .duplicateWorkflow = true ↔ ∃ text, failure = .coded ⟨.workflow, 14⟩ text := by
  unfold isOfKind
  cases failure with
  | coded code text =>
    have known : ErrorCode.ofKind .duplicateWorkflow = ⟨.workflow, 14⟩ := rfl
    simp [code?, known]
  | runtime | logic | number => simp [code?]

theorem collides_iff {stop : Stop} :
    Collides (.error stop) ↔ stop.isDuplicate = true := by
  cases stop with
  | thrown failure =>
    show _ ↔ failure.isOfKind .duplicateWorkflow = true
    rw [Failure.isDuplicate_iff]
    simp [Collides]
  | aborted | stuck => simp [Collides, Stop.isDuplicate]

theorem not_collides_ok (e : Execution) : ¬Collides (.ok e) := by
  rintro ⟨text, equal⟩
  cases equal

/-- Only a policy that is set, and set to allow duplicates, permits a second start. -/
theorem permitsDuplicateStart_iff (options? : Option WorkflowOptions) :
    permitsDuplicateStart options? = true ↔
      ∃ o, options? = some o ∧ o.reusePolicy = some .allowDuplicate := by
  cases options? with
  | none => simp [permitsDuplicateStart]
  | some o =>
    have unset : ReusePolicy.allowDuplicateFailedOnly ≠ .allowDuplicate := by decide
    cases policy : o.reusePolicy with
    | none => simp [permitsDuplicateStart, WorkflowOptions.reusePolicyInForce, policy, unset]
    | some p => simp [permitsDuplicateStart, WorkflowOptions.reusePolicyInForce, policy]

theorem allowsDuplicate_ok (options? : Option WorkflowOptions) :
    AllowsDuplicate (.ok options?) ↔ permitsDuplicateStart options? = true := by
  rw [permitsDuplicateStart_iff]
  simp [AllowsDuplicate]

theorem toleratesRunning_ok (options? : Option WorkflowOptions) :
    ToleratesRunning (.ok options?) ↔ permitsDuplicateStart options? = false := by
  rw [← Bool.not_eq_true, permitsDuplicateStart_iff]
  simp [ToleratesRunning]

theorem not_toleratesRunning_error (stop : Stop) : ¬ToleratesRunning (.error stop) := by
  rintro ⟨options?, equal, -⟩
  cases equal

/-- The first turn of a talk shows what was answered to the start, the second what was answered to
the question for the options. -/
theorem Talk.startAnswer_eq {c : Collaborators σ ν} {h : HandleId} {args : List Value}
    {s t : State σ ν} {start : Ending Execution} {turns : List Turn}
    (talk : Talk c s (.asked (.handle h (.start args)) start :: turns) t) :
    startAnswer c h args s = start := by
  cases talk with
  | asked _ _ answered rest => exact congrArg Prod.fst answered

theorem Talk.optionsAnswer_eq {c : Collaborators σ ν} {h : HandleId} {args : List Value}
    {s t : State σ ν} {start : Ending Execution} {options : Ending (Option WorkflowOptions)}
    {turns : List Turn}
    (talk : Talk c s
      (.asked (.handle h (.start args)) start :: .asked (.handle h .getOptions) options :: turns)
      t) :
    optionsAnswer c h args s = options := by
  cases talk with
  | asked _ _ started rest =>
    cases rest with
    | asked _ _ answered _ =>
      have reached : (runFrom (callHandle c h (.start args)) s).2 = _ := congrArg Prod.snd started
      unfold optionsAnswer
      rw [reached]
      exact congrArg Prod.fst answered

/-- The talk about a start is settled by the answers that are given in it. -/
theorem Attaching.settled {c : Collaborators σ ν} {h : HandleId} {args : List Value}
    {s t : State σ ν} {turns : List Turn} {ending : Ending StartResult}
    (attaching : Attaching h args turns ending) (talk : Talk c s turns t) :
    Settled h args (startAnswer c h args s) (optionsAnswer c h args s) turns ending := by
  cases attaching with
  | started e =>
    have single := not_collides_ok e
    rw [talk.startAnswer_eq]
    refine ⟨fun collides => absurd collides single, fun _ => rfl, by simp, ?_, fun stop => ?_⟩
    · simp [single]
    · simp [single]
  | @failed stop other =>
    have single : ¬Collides (.error stop) := by rw [collides_iff, other]; decide
    rw [talk.startAnswer_eq]
    refine ⟨fun collides => absurd collides single, fun _ => rfl, by simp, ?_, fun stop => ?_⟩
    · simp [single]
    · simp [single]
  | @undecided failure stop duplicate =>
    have collides : Collides (.error (.thrown failure)) := collides_iff.2 duplicate
    rw [talk.startAnswer_eq, talk.optionsAnswer_eq]
    refine ⟨fun _ => rfl, fun single => absurd collides single, by simp, ?_, fun other => ?_⟩
    · simp [not_toleratesRunning_error]
    · simp [collides, AllowsDuplicate]
  | @refused failure options duplicate permits =>
    have collides : Collides (.error (.thrown failure)) := collides_iff.2 duplicate
    have allows : AllowsDuplicate (.ok options) := (allowsDuplicate_ok options).2 permits
    have strict : ¬ToleratesRunning (.ok options) := by rw [toleratesRunning_ok, permits]; decide
    rw [talk.startAnswer_eq, talk.optionsAnswer_eq]
    refine ⟨fun _ => rfl, fun single => absurd collides single, by simp, ?_, fun stop => ?_⟩
    · simp [strict]
    · simp [allows]
  | @attached failure options duplicate forbids =>
    have collides : Collides (.error (.thrown failure)) := collides_iff.2 duplicate
    have tolerates : ToleratesRunning (.ok options) := (toleratesRunning_ok options).2 forbids
    have lenient : ¬AllowsDuplicate (.ok options) := by rw [allowsDuplicate_ok, forbids]; decide
    rw [talk.startAnswer_eq, talk.optionsAnswer_eq]
    refine ⟨fun _ => rfl, fun single => absurd collides single, by simp, ?_, fun stop => ?_⟩
    · simp [collides, tolerates]
    · simp [collides, lenient]

/-- A start that is settled without an error was taken, or its collision was passed over. -/
theorem Settled.ok_iff {h : HandleId} {args : List Value} {start : Ending Execution}
    {options : Ending (Option WorkflowOptions)} {turns : List Turn} {ending : Ending StartResult}
    (settled : Settled h args start options turns ending) :
    (∃ result, ending = .ok result) ↔
      (∃ e, start = .ok e) ∨ Collides start ∧ ToleratesRunning options := by
  rw [← settled.started_iff, ← settled.attached_iff]
  constructor
  · rintro ⟨_ | _, rfl⟩
    · exact .inl rfl
    · exact .inr rfl
  · rintro (rfl | rfl)
    · exact ⟨.started, rfl⟩
    · exact ⟨.attached, rfl⟩

/-- A call that waits for a result begins with the start, and asks for the result only when that
was settled without an error. -/
theorem Protocol.opening {r : RoutedCall} {batch : Option BatchId} {mode : Mode}
    {turns : List Turn} {outcome : Ending Value} (role : r.resolved.role = .entryPoint)
    (waits : mode = .sync ∨ mode = .execute)
    (protocol : Protocol r batch mode r.resolved.role turns outcome) :
    ∃ opening began rest, turns = opening ++ rest ∧ Attaching r.handle r.args opening began ∧
      (∀ stop, began = .error stop → rest = [] ∧ outcome = .error stop) ∧
      ∀ result, began = .ok result → ∃ call answer, r.ownCall? mode = some call ∧
        rest = [.asked (.handle r.handle call) answer] ∧ outcome = answer.map call.value := by
  rw [role] at protocol
  cases protocol with
  | @result opening start _ attaching =>
    refine ⟨opening, .ok start, _, rfl, attaching, nofun, fun _ _ => ?_⟩
    have same : outcome = outcome.map id := congrFun Except.map_id.symm outcome
    exact ⟨.getResult r.returns, outcome, by simp [RoutedCall.ownCall?, role], rfl, same⟩
  | @noResult _ stop attaching =>
    refine ⟨turns, .error stop, [], by simp, attaching, ?_, fun _ began => by cases began⟩
    rintro _ ⟨⟩
    exact ⟨rfl, rfl⟩
  | @future opening start answer attaching =>
    refine ⟨opening, .ok start, _, rfl, attaching, nofun, fun _ _ => ?_⟩
    exact ⟨.getResultAsync r.returns, answer, rfl, rfl, rfl⟩
  | @noFuture _ stop attaching =>
    refine ⟨turns, .error stop, [], by simp, attaching, ?_, fun _ began => by cases began⟩
    rintro _ ⟨⟩
    exact ⟨rfl, rfl⟩
  | start | recordStart => simp at waits

/-- Every mode carries out the method that starts the workflow. -/
theorem Mode.accepts_entryPoint (mode : Mode) (returns : ValueType) :
    mode.accepts .entryPoint returns = true := by
  cases mode <;> rfl

/-- The workflow that runs already collides with every start, -/
theorem running_collides (h : HandleId) (args : List Value) (s : State Unit Unit) :
    Collides (startAnswer running h args s) := by
  have refused : startAnswer running h args s =
      .error (.thrown (WorkflowError.ofKind .duplicateWorkflow "already running").toFailure) := rfl
  rw [refused, collides_iff]
  rfl

/-- and its handle has no options that would make this an error. -/
theorem running_tolerates (h : HandleId) (args : List Value) (s : State Unit Unit) :
    ToleratesRunning (optionsAnswer running h args s) := by
  have answered : optionsAnswer running h args s = .ok none := rfl
  rw [answered, toleratesRunning_ok]
  rfl

/-! ## Top theorem -/

/-- **Duplicates are suppressed with one polarity.**  The handle may do anything.  It is asked to
start once, and for its options after a collision only; the collision is passed over unless the
options allow duplicates or cannot be had.  A call that waits for its result asks for it exactly
when the start was taken or its collision passed over, and ends as the answer does, whatever that
is.  A call in Start mode ends as the start does. -/
theorem duplicate_start_polarity (c : Collaborators σ ν) (h : HandleId) (args : List Value) :
    (∀ s : State σ ν, ∃ turns,
      Talk c s turns (runFrom (startOrAttach c h args) s).2 ∧
      Settled h args (startAnswer c h args s) (optionsAnswer c h args s) turns
        (runFrom (startOrAttach c h args) s).1 ∧
      (c.Quiet → (runFrom (startOrAttach c h args) s).2.calls = s.calls ++ callsOf turns)) ∧
    ∀ (router : Router) (i : Nat) (entry : DescribedMethod) (resolved : ResolvedRole)
        (s : State σ ν), router.descriptor.methods[i]? = some entry →
      entry.resolved = some resolved → resolved.role = .entryPoint →
      let r : RoutedCall := ⟨h, router.descriptor.qualified entry, resolved, entry.returns, args⟩
      let mode := Context.modeOf s.context
      let start := startAnswer c h args (r.begun s)
      let options := optionsAnswer c h args (r.begun s)
      let run := runFrom (router.route c h (.method i) args) s
      (mode = .sync ∨ mode = .execute → ∃ opening began rest outcome t,
        Settled h args start options opening began ∧
        Talk c (r.begun s) (opening ++ rest) t ∧
        run = (mode.returned outcome, t.holding s.context outcome) ∧
        (∀ stop, outcome = .error stop → run.1 = .error stop) ∧
        (∀ stop, began = .error stop → rest = [] ∧ outcome = .error stop) ∧
        ((∃ call answer, r.ownCall? mode = some call ∧
            rest = [.asked (.handle h call) answer] ∧ outcome = answer.map call.value) ↔
          (∃ e, start = .ok e) ∨ Collides start ∧ ToleratesRunning options)) ∧
      (mode = .start → ∃ t,
        Talk c (r.begun s) [.asked (.handle h (.start args)) start] t ∧
        run = (mode.returned (start.map .execution),
          t.holding s.context (start.map .execution)) ∧
        ∀ stop, start = .error stop → run.1 = .error stop) := by
  refine ⟨fun s => ?_, ?_⟩
  · obtain ⟨turns, attaching, talk⟩ := startOrAttach_talk c h args s
    exact ⟨turns, talk, attaching.settled talk, fun quiet => talk.calls_eq quiet⟩
  intro router i entry resolved s declared known role r mode start options run
  have routed := routedCall_of_resolved declared known h args
  have accepted : mode.accepts resolved.role entry.returns = true :=
    role ▸ mode.accepts_entryPoint entry.returns
  refine ⟨fun waits => ?_, fun starts => ?_⟩
  · have plain : mode ≠ .signalWithStart := by
      rcases waits with waits | waits <;> rw [waits] <;> decide
    obtain ⟨turns, outcome, t, protocol, talk, ran⟩ :=
      route_talk c routed accepted fun batched => absurd batched plain
    obtain ⟨opening, began, rest, rfl, attaching, failed, went⟩ := protocol.opening role waits
    obtain ⟨u, first, -⟩ := talk.of_append
    have settled := attaching.settled first
    have thrown (stop : Stop) (fails : outcome = .error stop) : run.1 = .error stop := by
      rw [show run.1 = mode.returned outcome from congrArg Prod.fst ran, fails,
        Mode.returned_error]
    refine ⟨opening, began, rest, outcome, t, settled, talk, ran, thrown, failed, ?_⟩
    rw [← settled.ok_iff]
    constructor
    · rintro ⟨call, answer, -, asked, -⟩
      rcases began with stop | result
      · have silent := (failed stop rfl).1
        rw [asked] at silent
        cases silent
      · exact ⟨result, rfl⟩
    · rintro ⟨result, began_ok⟩
      exact went result began_ok
  · have plain : mode ≠ .signalWithStart := by rw [starts]; decide
    obtain ⟨turns, outcome, t, protocol, talk, ran⟩ :=
      route_talk c routed accepted fun batched => absurd batched plain
    replace protocol : Protocol r _ mode resolved.role turns outcome := protocol
    rw [starts, role] at protocol
    cases protocol with
    | start answer =>
      have answered : start = answer := talk.startAnswer_eq
      rw [answered]
      refine ⟨t, talk, ran, fun stop fails => ?_⟩
      rw [show run.1 = _ from congrArg Prod.fst ran, fails]
      exact Mode.returned_error _ stop

/-- The greeting collides, the collision is passed over, and a future is asked for. -/
theorem greet_passes_over_collision :
    let h : HandleId := ⟨1, "ann"⟩
    let greet : DescribedMethod := ⟨"greet", some ⟨"Greeter", "greet", .string, [.string], false⟩,
      .string, some ⟨.entryPoint, "Greet"⟩⟩
    let r : RoutedCall := ⟨h, greeter.qualified greet, ⟨.entryPoint, "Greet"⟩, .string, []⟩
    let s := justEntered .execute none
    let start := startAnswer running h [] (r.begun s)
    let options := optionsAnswer running h [] (r.begun s)
    Collides start ∧ ToleratesRunning options ∧ ∃ opening rest t call answer,
      Settled h [] start options opening (.ok .attached) ∧
      Talk running (r.begun s) (opening ++ rest) t ∧
      r.ownCall? .execute = some call ∧ rest = [.asked (.handle h call) answer] := by
  intro h greet r s start options
  have collides : Collides start := running_collides h [] (r.begun s)
  have tolerates : ToleratesRunning options := running_tolerates h [] (r.begun s)
  obtain ⟨opening, began, rest, outcome, t, settled, talk, -, -, -, reached⟩ :=
    ((duplicate_start_polarity running h []).2 ⟨greeter⟩ 0 greet _ s rfl rfl rfl).1 (.inr rfl)
  obtain ⟨call, answer, own, asked, -⟩ := reached.2 (.inr ⟨collides, tolerates⟩)
  have attached : began = .ok .attached := settled.attached_iff.2 ⟨collides, tolerates⟩
  rw [attached] at settled
  exact ⟨collides, tolerates, opening, rest, t, call, answer, settled, talk, own, asked⟩

end WorkflowDispatch
