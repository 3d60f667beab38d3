import WorkflowDispatch.Proofs.Talk
import WorkflowDispatch.Routing.DuplicateStart

/-!
# Starting or attaching, as a talk

The talks in which a workflow is started ahead of its result.  The handle is asked to start, and is
asked for its options only when it reports a duplicate; nobody else is asked.

    ∃ turns, Attaching h args turns (runFrom (startOrAttach c h args) s).1 ∧
      Talk c s turns (runFrom (startOrAttach c h args) s).2                (startOrAttach_talk)
    Attaching h args turns ending → Talk c s turns t →
      runFrom (startOrAttach c h args) s = (ending, t)                     (Attaching.runFrom_eq)
-/

namespace WorkflowDispatch

open WorkflowDispatch.Action

variable {σ ν : Type}

/-- Whether an action stopped because the workflow runs already. -/
def Stop.isDuplicate : Stop → Bool
  | .thrown failure => failure.isOfKind .duplicateWorkflow
  | _ => false

theorem Stop.eq_thrown_of_isDuplicate {stop : Stop} (h : stop.isDuplicate = true) :
    ∃ failure, stop = .thrown failure := by
  cases stop with
  | thrown failure => exact ⟨failure, rfl⟩
  | aborted | stuck => cases h

/-- What is logged of a collision that is passed over. -/
def suppressedLine (failure : Failure) : LogLine :=
  ⟨.dispatch, .info, "duplicate start suppressed: " ++ failure.visible?.getD ""⟩

/-- The talks with a handle about a start, and how each of them ends. -/
inductive Attaching (h : HandleId) (args : List Value) : List Turn → Ending StartResult → Prop where
  | started (e : Execution) :
      Attaching h args [.asked (.handle h (.start args)) (.ok e)] (.ok .started)
  | failed {stop : Stop} (other : stop.isDuplicate = false) :
      Attaching h args [.asked (.handle h (.start args)) (.error stop)] (.error stop)
  /-- The options, which decide about a duplicate, cannot be had. -/
  | undecided {failure : Failure} {stop : Stop}
      (duplicate : failure.isOfKind .duplicateWorkflow = true) :
      Attaching h args
        [.asked (.handle h (.start args)) (.error (.thrown failure)),
          .asked (.handle h .getOptions) (.error stop)]
        (.error stop)
  /-- With duplicates allowed a collision is an error. -/
  | refused {failure : Failure} {options : Option WorkflowOptions}
      (duplicate : failure.isOfKind .duplicateWorkflow = true)
      (permits : permitsDuplicateStart options = true) :
      Attaching h args
        [.asked (.handle h (.start args)) (.error (.thrown failure)),
          .asked (.handle h .getOptions) (.ok options)]
        (.error (.thrown failure))
  | attached {failure : Failure} {options : Option WorkflowOptions}
      (duplicate : failure.isOfKind .duplicateWorkflow = true)
      (forbids : permitsDuplicateStart options = false) :
      Attaching h args
        [.asked (.handle h (.start args)) (.error (.thrown failure)),
          .asked (.handle h .getOptions) (.ok options), .logged (suppressedLine failure)]
        (.ok .attached)

/-- Every such talk begins with the start. -/
theorem Attaching.callsOf_eq {h : HandleId} {args : List Value} {turns : List Turn}
    {ending : Ending StartResult} (talk : Attaching h args turns ending) :
    ∃ more, callsOf turns = .handle h (.start args) :: more := by
  cases talk <;> exact ⟨_, rfl⟩

/-! ## Runs are talks -/

section

variable (c : Collaborators σ ν) (h : HandleId) (args : List Value)

theorem runFrom_startOrAttach_started {s t : State σ ν} {e : Execution}
    (start : runFrom (callHandle c h (.start args)) s = (.ok e, t)) :
    runFrom (startOrAttach c h args) s = (.ok .started, t) := by
  unfold startOrAttach
  simp only [runFrom_bind, runFrom_observe, start]
  rfl

theorem runFrom_startOrAttach_failed {s t : State σ ν} {stop : Stop}
    (start : runFrom (callHandle c h (.start args)) s = (.error stop, t))
    (other : stop.isDuplicate = false) :
    runFrom (startOrAttach c h args) s = (.error stop, t) := by
  unfold startOrAttach
  simp only [runFrom_bind, runFrom_observe, start]
  cases stop with
  | thrown failure =>
    replace other : failure.isOfKind .duplicateWorkflow = false := other
    simp [other]
  | aborted => rfl
  | stuck => rfl

/-- After a duplicate the options of the handle decide. -/
theorem runFrom_startOrAttach_duplicate {s t : State σ ν} {failure : Failure}
    (start : runFrom (callHandle c h (.start args)) s = (.error (.thrown failure), t))
    (duplicate : failure.isOfKind .duplicateWorkflow = true) :
    runFrom (startOrAttach c h args) s =
      match runFrom (callHandle c h .getOptions) t with
      | (.error stop, u) => (.error stop, u)
      | (.ok options, u) =>
        if permitsDuplicateStart options then (.error (.thrown failure), u)
        else (.ok .attached, { u with trace := u.trace ++ [.log (suppressedLine failure)] }) := by
  unfold startOrAttach
  simp only [runFrom_bind, runFrom_observe, start, duplicate, if_true]
  obtain ⟨stop | options, u⟩ := runFrom (callHandle c h .getOptions) t
  · rfl
  · cases permits : permitsDuplicateStart options
    · simp only [permits, Bool.false_eq_true, if_false]
      rfl
    · simp only [permits, if_true]
      rfl

theorem startOrAttach_talk (s : State σ ν) :
    ∃ turns, Attaching h args turns (runFrom (startOrAttach c h args) s).1 ∧
      Talk c s turns (runFrom (startOrAttach c h args) s).2 := by
  rcases start : runFrom (callHandle c h (.start args)) s with ⟨stop | e, t⟩
  · cases duplicate : stop.isDuplicate with
    | false =>
      rw [runFrom_startOrAttach_failed c h args start duplicate]
      exact ⟨_, .failed duplicate, .single start⟩
    | true =>
      obtain ⟨failure, rfl⟩ := Stop.eq_thrown_of_isDuplicate duplicate
      rw [runFrom_startOrAttach_duplicate c h args start duplicate]
      have begun {turns s'} (rest : Talk c t turns s') :=
        Talk.asked (.handle h (.start args)) _ start rest
      rcases asked : runFrom (callHandle c h .getOptions) t with ⟨stop | options, u⟩
      · exact ⟨_, .undecided duplicate, begun (.single asked)⟩
      · cases permits : permitsDuplicateStart options with
        | true =>
          simp only [permits, if_true]
          exact ⟨_, .refused duplicate permits, begun (.single asked)⟩
        | false =>
          simp only [permits, Bool.false_eq_true, if_false]
          exact ⟨_, .attached duplicate permits,
            begun (.asked (.handle h .getOptions) _ asked (.logged _ (.done _)))⟩
  · rw [runFrom_startOrAttach_started c h args start]
    exact ⟨_, .started e, .single start⟩

end

/-- The talk about a start tells how the start runs. -/
theorem Attaching.runFrom_eq {c : Collaborators σ ν} {h : HandleId} {args : List Value}
    {s t : State σ ν} {turns : List Turn} {ending : Ending StartResult}
    (attaching : Attaching h args turns ending) (talk : Talk c s turns t) :
    runFrom (startOrAttach c h args) s = (ending, t) := by
  cases attaching with
  | started e => exact runFrom_startOrAttach_started c h args talk.of_single
  | failed other => exact runFrom_startOrAttach_failed c h args talk.of_single other
  | undecided duplicate =>
    obtain ⟨u, start, rest⟩ := talk.of_asked
    have options : runFrom (callHandle c h .getOptions) u = _ := rest.of_single
    rw [runFrom_startOrAttach_duplicate c h args start duplicate, options]
  | refused duplicate permits =>
    obtain ⟨u, start, rest⟩ := talk.of_asked
    have options : runFrom (callHandle c h .getOptions) u = _ := rest.of_single
    rw [runFrom_startOrAttach_duplicate c h args start duplicate, options]
    exact if_pos permits
  | attached duplicate forbids =>
    obtain ⟨u, start, rest⟩ := talk.of_asked
    obtain ⟨v, answered, last⟩ := rest.of_asked
    have options : runFrom (callHandle c h .getOptions) u = _ := answered
    rw [runFrom_startOrAttach_duplicate c h args start duplicate, options, last.of_logged]
    exact if_neg (by rw [forbids]; decide)

end WorkflowDispatch
