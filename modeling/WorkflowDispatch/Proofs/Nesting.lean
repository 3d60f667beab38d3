import WorkflowDispatch.Proofs.Objection
import WorkflowDispatch.Proofs.Reentry

/-!
# The outcomes of nested calls

A call that is made while another one is carried out forgets and replaces the outcome that their
common context holds.  The outer call is not disturbed: its outcome comes from the last call of its
own talk, and it is held only after all that the handle did before it answered.  For the same reason
it makes no difference whether a Sync call returns its value or reads it back from the context.

    outcome = .ok v → turns = before ++ [.asked own (.ok answer)] ∧ v = own.value answer
                                                                     (Protocol.own_turn)
    runFrom (r.make c s.context) s = runFrom (r.makeAndRead c s.context) s
                                                                     (make_eq_makeAndRead)
-/

namespace WorkflowDispatch

open WorkflowDispatch.Action

variable {σ ν : Type}

/-! ## Definitions -/

/-- What an answer of a handle is worth as the outcome of a call. -/
def HandleCall.value : (call : HandleCall) → call.Answer → Value
  | .start _, e | .signalWithStart .., e => .execution e
  | .signal .., _ | .getOptions, _ => .empty
  | .query .., v | .getResult _, v => v
  | .getResultAsync _, f => .future f

/-- What the handle is asked for the outcome itself; recorded calls have none. -/
def RoutedCall.ownCall? (r : RoutedCall) : Mode → Option HandleCall
  | .sync =>
    match r.resolved.role with
    | .entryPoint => some (.getResult r.returns)
    | .signal => some (.signal r.resolved.name r.args)
    | .query => some (.query r.resolved.name r.returns r.args)
  | .start => some (.start r.args)
  | .execute => some (.getResultAsync r.returns)
  | .signalWithStart => none

/-- Makes a Sync call and reads its value back from the context that it was made in: that of the
thread, or one that is made for this call only. -/
def RoutedCall.makeAndRead (c : Collaborators σ ν) (r : RoutedCall) :
    Option Context → Action σ ν Value
  | some _ => do
    Action.keepOutcome (← r.carryOut c)
    Action.currentOutcome
  | none => do
    let v ← r.carryOut c
    Action.expect (Context.currentOutcome (some (Context.keepOutcome v ⟨.sync, none, none⟩)))

/-! ## Lemmas -/

/-- A call that goes well ends with the answer that its outcome is. -/
theorem Protocol.own_turn {r : RoutedCall} {batch : Option BatchId} {mode : Mode}
    {turns : List Turn} {outcome : Value}
    (protocol : Protocol r batch mode r.resolved.role turns (.ok outcome))
    (plain : mode ≠ .signalWithStart) :
    ∃ call before answer, r.ownCall? mode = some call ∧
      turns = before ++ [.asked (.handle r.handle call) (.ok answer)] ∧
      outcome = call.value answer := by
  generalize role : r.resolved.role = played at protocol
  generalize ended : Except.ok outcome = ending at protocol
  cases protocol with
  | @result before start answer attaching =>
    subst ended
    exact ⟨.getResult r.returns, before, outcome, by simp [RoutedCall.ownCall?, role], rfl, rfl⟩
  | signal answer =>
    rcases answer with stop | done
    · cases ended
    · obtain rfl := Except.ok.inj ended
      exact ⟨.signal r.resolved.name r.args, [], done,
        by simp [RoutedCall.ownCall?, role], rfl, rfl⟩
  | query answer =>
    subst ended
    exact ⟨.query r.resolved.name r.returns r.args, [], outcome,
      by simp [RoutedCall.ownCall?, role], rfl, rfl⟩
  | start answer =>
    rcases answer with stop | e
    · cases ended
    · obtain rfl := Except.ok.inj ended
      exact ⟨.start r.args, [], e, rfl, rfl, rfl⟩
  | @future before start answer attaching =>
    rcases answer with stop | f
    · cases ended
    · obtain rfl := Except.ok.inj ended
      exact ⟨.getResultAsync r.returns, before, f, rfl, rfl, rfl⟩
  | noResult | noFuture => cases ended
  | recordStart | recordSignal => exact absurd rfl plain

/-- A call that goes well keeps to its protocol. -/
theorem talk_of_route_ok {c : Collaborators σ ν} {router : Router} {h : HandleId} {i : Nat}
    {args : List Value} {s s' : State σ ν} {v : Value}
    (ran : runFrom (router.route c h (.method i) args) s = (.ok v, s'))
    (plain : Context.modeOf s.context ≠ .signalWithStart) :
    ∃ r turns own t, router.descriptor.routedCall h i args = .ok r ∧
      Protocol r (s.context.bind Context.batch) (Context.modeOf s.context) r.resolved.role turns
        (.ok own) ∧
      Talk c (r.begun s) turns t ∧
      v = (if Context.modeOf s.context = .sync then own else .empty) ∧
      s' = t.holding s.context (.ok own) := by
  obtain ⟨e, t, -, run, -⟩ | ⟨r, turns, outcome, t, -, routed, protocol, talk, run⟩ :=
    route_method_cases c router h i args fun mode => absurd mode plain
  · cases ran.symm.trans run
  · obtain ⟨returned, rfl⟩ := Prod.mk.inj (ran.symm.trans run)
    rcases outcome with stop | own
    · rw [Mode.returned_error] at returned
      cases returned
    · rw [Mode.returned_ok] at returned
      exact ⟨r, turns, own, t, routed, protocol, talk, Except.ok.inj returned, rfl⟩

theorem handle_of_routedCall {d : Descriptor} {h : HandleId} {i : Nat} {args : List Value}
    {r : RoutedCall} (routed : d.routedCall h i args = .ok r) : r.handle = h := by
  obtain ⟨entry, resolved, -, -, rfl⟩ := of_routedCall_eq_ok routed
  rfl

/-- The context in which a call was made holds its outcome, whatever was held meanwhile. -/
theorem context_holding_own {s t : State σ ν} (opened : StaysOpen s t)
    (plain : Context.modeOf s.context ≠ .signalWithStart) (v : Value) :
    ∀ ctx ∈ s.context, (t.holding s.context (.ok v)).context = some (ctx.keepOutcome v) := by
  intro ctx active
  obtain ⟨held, still⟩ := opened ctx active
  rw [Option.mem_def.1 active] at plain ⊢
  replace plain : ctx.mode ≠ .signalWithStart := plain
  simp [State.holding, Context.holdsOutcomes, plain, still, Context.keepOutcome]

/-- An outcome that is held can be read. -/
theorem Context.currentOutcome_keepOutcome {ctx : Context} (plain : ctx.mode ≠ .signalWithStart)
    (v : Value) : currentOutcome (some (ctx.keepOutcome v)) = .ok v := by
  simp [currentOutcome, outcome, keepOutcome, plain]

/-- A Sync call gives what could be read back, if the context is still open when the call has been
carried out. -/
theorem RoutedCall.make_eq_makeAndRead_of_staysOpen (c : Collaborators σ ν) (r : RoutedCall)
    {s : State σ ν} (sync : Context.modeOf s.context = .sync)
    (opened : StaysOpen s (runFrom (r.carryOut c) s).2) :
    runFrom (r.make c s.context) s = runFrom (r.makeAndRead c s.context) s := by
  unfold make
  rw [sync]
  cases active : s.context with
  | none =>
    rw [makeAndRead, runFrom_bind, runFrom_bind]
    rcases runFrom (r.carryOut c) s with ⟨stop | v, t⟩ <;> rfl
  | some ctx =>
    rw [active] at sync
    replace sync : ctx.mode = .sync := sync
    rw [makeAndRead, runFrom_bind, runFrom_bind]
    rcases run : runFrom (r.carryOut c) s with ⟨stop | v, t⟩
    · rfl
    · rw [run] at opened
      obtain ⟨held, still⟩ := opened ctx active
      have read : Context.currentOutcome (t.context.map (Context.keepOutcome v)) = .ok v := by
        rw [still]
        exact Context.currentOutcome_keepOutcome (by simp [sync]) v
      simp only [runFrom_bind, runFrom_keepOutcome, runFrom_currentOutcome, read]
      rfl

/-- Collaborators that call back leave the context open, so that a Sync call gives what the context
holds. -/
theorem RoutedCall.make_eq_makeAndRead {c : Collaborators σ ν} (back : c.CallBack) (r : RoutedCall)
    {s : State σ ν} (sync : Context.modeOf s.context = .sync) :
    runFrom (r.make c s.context) s = runFrom (r.makeAndRead c s.context) s :=
  r.make_eq_makeAndRead_of_staysOpen c sync
    (Keeps.carryOut staysOpen.toFrame (back.keep staysOpen) r s)

/-! ## A workflow that calls back -/

/-- A stub of another workflow, which runs already. -/
def bob : Stub := ⟨⟨2, "bob"⟩, ⟨greeter⟩⟩

/-- Handles that ask another workflow for its status before they give a result. -/
def consulting : Collaborators Unit Unit where
  handle
    | h, .getResult type => do
      let _ ← bob.call running ⟨"Greeter", "status", .string, [], true⟩ []
      running.handle h (.getResult type)
    | h, call => running.handle h call
  batch := running.batch
  declare := running.declare

theorem running_callBack : running.CallBack where
  handle h call := by
    cases call with
    | start => exact .stop _
    | signal | query | getResult | getResultAsync | signalWithStart | getOptions => exact .pure _
  batch b call := .pure ()

theorem consulting_callBack : consulting.CallBack where
  handle h call := by
    cases call with
    | getResult type =>
      exact .bind (.call running_callBack.handle running_callBack.batch bob _ _) fun _ => .pure _
    | start | signal | query | getResultAsync | signalWithStart | getOptions =>
      exact running_callBack.handle h _
  batch := running_callBack.batch

/-! ## Top theorem -/

/-- **Nested calls do not mix their outcomes.**  The handles and the batches may call back, to any
depth.  A call that goes well, itself nested or not, ends with a call of its own handle: in Sync
mode it returns what that call was answered, and in every mode that has outcomes this is what the
context is left with. -/
theorem route_keeps_own_outcome {c : Collaborators σ ν} (back : c.CallBack) (router : Router)
    (h : HandleId) (i : Nat) (args : List Value) {s s' : State σ ν} {v : Value}
    (ran : runFrom (router.route c h (.method i) args) s = (.ok v, s'))
    (plain : Context.modeOf s.context ≠ .signalWithStart) :
    ∃ r call before t answer t',
      router.descriptor.routedCall h i args = .ok r ∧
      r.ownCall? (Context.modeOf s.context) = some call ∧
      Protocol r (s.context.bind Context.batch) (Context.modeOf s.context) r.resolved.role
        (before ++ [.asked (.handle h call) (.ok answer)]) (.ok (call.value answer)) ∧
      Talk c (r.begun s) before t ∧
      runFrom (callHandle c h call) t = (.ok answer, t') ∧
      v = (if Context.modeOf s.context = .sync then call.value answer else .empty) ∧
      ∀ ctx ∈ s.context, s'.context = some (ctx.keepOutcome (call.value answer)) ∧
        Context.currentOutcome s'.context = .ok (call.value answer) := by
  obtain ⟨r, turns, own, t', routed, protocol, talk, returned, rfl⟩ := talk_of_route_ok ran plain
  obtain rfl := handle_of_routedCall routed
  obtain ⟨call, before, answer, owned, rfl, rfl⟩ := protocol.own_turn plain
  obtain ⟨t, first, last⟩ := talk.of_append
  have opened : StaysOpen s t' :=
    staysOpen.trans (r.staysOpen_begun s) (talk.keeps staysOpen.toFrame (back.keep staysOpen))
  refine ⟨r, call, before, t, answer, t', routed, owned, protocol, first, last.of_single,
    returned, fun ctx active => ?_⟩
  have held := context_holding_own opened plain (call.value answer) ctx active
  rw [Option.mem_def.1 active] at plain
  exact ⟨held, held ▸ Context.currentOutcome_keepOutcome plain _⟩

/-- Between the start and the answer to its own request the greeting asks another workflow. -/
theorem consulting_greets :
    let run := runFrom (Router.route consulting ⟨greeter⟩ ⟨1, "ann"⟩ (.method 0) [])
      (justEntered .sync none)
    run.1 = .ok (.string "Hello Ann") ∧
      .handle ⟨2, "bob"⟩ (.query "status" .string []) ∈ run.2.calls ∧
      Context.currentOutcome run.2.context = .ok (.string "Hello Ann") := by
  intro run
  have ran : run = (.ok (.string "Hello Ann"), run.2) := rfl
  obtain ⟨r, call, before, t, answer, t', -, -, -, -, -, own, held⟩ :=
    route_keeps_own_outcome consulting_callBack ⟨greeter⟩ ⟨1, "ann"⟩ 0 [] ran (by decide)
  replace own : .string "Hello Ann" = call.value answer := own
  exact ⟨rfl, by decide, own ▸ (held _ rfl).2⟩

end WorkflowDispatch
