import WorkflowDispatch.Proofs.Reentry

/-!
# What a batch collects

A batch is handed halves of a request and is told to send, any number of times and in any order.
It is bound to the handle of the first half, takes each half once and for that handle only, and
sends what it took.  The handle may use the batch again while it answers: by then both halves are
there, so that nothing more is taken.

    b.Consistent → b.record call is a half taken, or an error that changes nothing
                                                                          (Batch.record_cases)
    Took c s uses call ↔ (stateAfter c s uses).batch.Has call             (Collected.took_iff)
-/

namespace WorkflowDispatch

open WorkflowDispatch.Action

variable {τ ν : Type}

/-! ## Definitions -/

/-- The halves of a request. -/
inductive Half where
  | start
  | signal
  deriving DecidableEq, Repr

namespace BatchCall

/-- The half that is handed in. -/
def half : BatchCall → Half
  | .start .. => .start
  | .signal .. => .signal

/-- What is handed in: arguments, and a name if it is a signal. -/
def content : BatchCall → Option String × List Value
  | .start _ args => (none, args)
  | .signal _ name args => (some name, args)

end BatchCall

namespace Batch

/-- What a batch holds as one of the halves. -/
def held (b : Batch) : Half → Option (Option String × List Value)
  | .start => b.startArgs.map fun args => (none, args)
  | .signal => b.signal.map fun (name, args) => (some name, args)

/-- A batch is bound to a handle exactly when it holds a half. -/
def Consistent (b : Batch) : Prop := b.handle.isSome = true ↔ ∃ half, (b.held half).isSome = true

/-- The half is held as it was handed in. -/
def Has (b : Batch) (call : BatchCall) : Prop :=
  b.handle = some call.handle ∧ b.held call.half = some call.content

/-- What a batch can become when halves are handed in. -/
inductive Evolves (b : Batch) : Batch → Prop where
  | refl : Evolves b b
  | step {b' : Batch} (before : Evolves b b') (call : BatchCall) : Evolves b (b'.record call).2

end Batch

/-- The batch, which is part of the state of the collaborators. -/
def State.batch (s : State (Batch × τ) ν) : Batch := s.outside.1

/-- If the batch was used, halves were handed in. -/
def HandsIn (s s' : State (Batch × τ) ν) : Prop := s.batch.Evolves s'.batch

namespace Action

/-- Hands in a half. -/
def handIn (call : BatchCall) : Action (Batch × τ) ν Unit := do
  expect (← outside fun (b, rest) => ((b.record call).1, (b.record call).2, rest))

/-- Sends what the batch holds. -/
def sendHeld (c : Collaborators (Batch × τ) ν) : Action (Batch × τ) ν Execution := do
  (← outside fun (b, rest) => (b, b, rest)).send c

end Action

/-- What can be done with a batch. -/
inductive BatchUse where
  | handIn (call : BatchCall)
  | send
  deriving DecidableEq, Repr

/-- The handle that a half is handed in for. -/
def BatchUse.handle? : BatchUse → Option HandleId
  | .handIn call => some call.handle
  | .send => none

/-- The handle of the first half that was handed in, taken or not. -/
def firstHandle (uses : List BatchUse) : Option HandleId := uses.findSome? BatchUse.handle?

section

variable (c : Collaborators (Batch × τ) ν) (s : State (Batch × τ) ν)

/-- The state after a use of the batch, however that ended. -/
def BatchUse.after : BatchUse → State (Batch × τ) ν
  | .handIn call => (runFrom (Action.handIn call) s).2
  | .send => (runFrom (sendHeld c) s).2

/-- The state after several uses. -/
def stateAfter (uses : List BatchUse) : State (Batch × τ) ν :=
  uses.foldl (fun t use => use.after c t) s

/-- The batch takes the half. -/
def Takes (call : BatchCall) : Prop := (runFrom (Action.handIn call) s).1 = .ok ()

/-- The batch took the half in one of the uses. -/
def Took (uses : List BatchUse) (call : BatchCall) : Prop :=
  ∃ before, before ++ [.handIn call] <+: uses ∧ Takes (stateAfter c s before) call

end

/-! ## Batches -/

/-- A half is known by its handle, its kind and its content. -/
theorem BatchCall.eq_of_content {call other : BatchCall} (handle : call.handle = other.handle)
    (half : call.half = other.half) (content : call.content = other.content) : call = other := by
  cases call with
  | start h args =>
    cases other with
    | start h' args' => simp_all [BatchCall.handle, BatchCall.content]
    | signal => cases half
  | signal h name args =>
    cases other with
    | start => cases half
    | signal h' name' args' => simp_all [BatchCall.handle, BatchCall.content]

namespace Batch

variable {b b' : Batch} {call other : BatchCall}

theorem hasRoomFor_eq (b : Batch) (call : BatchCall) :
    b.hasRoomFor call = (b.held call.half).isNone := by
  cases call <;> simp [hasRoomFor, held, BatchCall.half]

theorem held_fill (b : Batch) (call : BatchCall) (half : Half) :
    (b.fill call).held half = if half = call.half then some call.content else b.held half := by
  cases call <;> cases half <;> rfl

theorem handle_fill (b : Batch) (call : BatchCall) : (b.fill call).handle = b.handle := by
  cases call <;> rfl

theorem consistent_empty : empty.Consistent := by
  constructor
  · intro bound
    cases bound
  · rintro ⟨half, held⟩
    cases half <;> cases held

theorem Consistent.held_eq_none (consistent : b.Consistent) (unbound : b.handle = none)
    (half : Half) : b.held half = none := by
  cases full : b.held half with
  | none => rfl
  | some content =>
    have bound := consistent.2 ⟨half, by rw [full]; rfl⟩
    rw [unbound] at bound
    cases bound

/-- All that handing in a half can do. -/
theorem record_cases (consistent : b.Consistent) (call : BatchCall) :
    ((b.handle = none ∨ b.handle = some call.handle) ∧ b.held call.half = none ∧
        b.record call = (.ok (), fill { b with handle := some call.handle } call)) ∨
      (¬((b.handle = none ∨ b.handle = some call.handle) ∧ b.held call.half = none) ∧
        ∃ e, b.record call = (.error e, b)) := by
  have room := b.hasRoomFor_eq call
  cases bound : b.handle with
  | none =>
    -- A batch that is not bound has room for both halves, so that binding it leaves no trace.
    have free := consistent.held_eq_none bound call.half
    have roomy : hasRoomFor { b with handle := some call.handle } call = true := by
      rw [hasRoomFor_eq]
      show (b.held call.half).isNone = true
      rw [free]
      rfl
    refine .inl ⟨.inl rfl, free, ?_⟩
    simp [record, bind, bound, roomy]
  | some h =>
    by_cases fits : h = call.handle
    · have same : b.bind call.handle = .ok b := by simp [bind, bound, fits]
      have rebound : { b with handle := some call.handle } = b := by rw [← fits, ← bound]
      by_cases free : b.held call.half = none
      · rw [free] at room
        refine .inl ⟨.inr (by rw [fits]), free, ?_⟩
        simp [record, same, room, rebound]
      · have full : b.hasRoomFor call = false := by
          rw [room, Option.isNone_eq_false_iff, Option.isSome_iff_ne_none]
          exact free
        refine .inr ⟨fun taken => free taken.2, call.repeated, ?_⟩
        simp [record, same, full]
    · refine .inr ⟨by simp [fits], .differentHandle, ?_⟩
      simp [record, bind, bound, fits]

theorem consistent_record (consistent : b.Consistent) (call : BatchCall) :
    (b.record call).2.Consistent := by
  obtain ⟨-, -, taken⟩ | ⟨-, e, refused⟩ := record_cases consistent call
  · rw [taken]
    constructor
    · intro bound
      exact ⟨call.half, by rw [held_fill, if_pos rfl]; rfl⟩
    · intro held
      rw [handle_fill]
      rfl
  · rw [refused]
    exact consistent

/-- A batch that holds a half is bound, and then only to the handle that fits. -/
theorem Consistent.handle_eq (consistent : b.Consistent) {h : HandleId} {half : Half}
    (fits : b.handle = none ∨ b.handle = some h) (held : (b.held half).isSome = true) :
    b.handle = some h := by
  have bound := consistent.2 ⟨half, held⟩
  rcases fits with unbound | same
  · rw [unbound] at bound
    cases bound
  · exact same

/-- What is held after a half was handed in: what was held before, and that half if it was
taken. -/
theorem has_record_iff (consistent : b.Consistent) :
    (b.record call).2.Has other ↔ b.Has other ∨ (b.record call).1 = .ok () ∧ other = call := by
  obtain ⟨fits, free, taken⟩ | ⟨-, e, refused⟩ := record_cases consistent call
  · rw [taken]
    unfold Has
    rw [held_fill, handle_fill]
    by_cases same : other.half = call.half
    · rw [if_pos same, same, free]
      constructor
      · rintro ⟨handle, content⟩
        exact .inr ⟨rfl, BatchCall.eq_of_content (Option.some.inj handle).symm same
          (Option.some.inj content).symm⟩
      · rintro (⟨-, full⟩ | ⟨-, rfl⟩)
        · cases full
        · exact ⟨rfl, rfl⟩
    · rw [if_neg same]
      have handle (held : b.held other.half = some other.content) : b.handle = some call.handle :=
        consistent.handle_eq fits (by rw [held]; rfl)
      constructor
      · rintro ⟨bound, held⟩
        exact .inl ⟨(handle held).trans bound, held⟩
      · rintro (⟨bound, held⟩ | ⟨-, rfl⟩)
        · exact ⟨(handle held).symm.trans bound, held⟩
        · exact absurd rfl same
  · rw [refused]
    simp

/-- What is held was handed in for the handle that the batch is bound to. -/
theorem Consistent.exists_has (consistent : b.Consistent) {half : Half}
    (full : (b.held half).isSome = true) : ∃ call, b.Has call ∧ call.half = half := by
  obtain ⟨h, bound⟩ := Option.isSome_iff_exists.1 (consistent.2 ⟨half, full⟩)
  cases half with
  | start =>
    obtain ⟨args, held⟩ := Option.isSome_iff_exists.1 (Option.isSome_map ▸ full)
    have full : b.held .start = some (none, args) := by unfold Batch.held; rw [held]; rfl
    exact ⟨.start h args, ⟨bound, full⟩, rfl⟩
  | signal =>
    obtain ⟨⟨name, args⟩, held⟩ := Option.isSome_iff_exists.1 (Option.isSome_map ▸ full)
    have full : b.held .signal = some (some name, args) := by unfold Batch.held; rw [held]; rfl
    exact ⟨.signal h name args, ⟨bound, full⟩, rfl⟩

/-- There is room for a half while none of its kind is held. -/
theorem Consistent.held_eq_none_iff (consistent : b.Consistent) (half : Half) :
    b.held half = none ↔ ∀ call, b.Has call → call.half ≠ half := by
  constructor
  · rintro free call ⟨-, held⟩ rfl
    rw [free] at held
    cases held
  · intro free
    cases full : b.held half with
    | none => rfl
    | some content =>
      have some_held : (b.held half).isSome = true := by rw [full]; rfl
      obtain ⟨call, has, same⟩ := consistent.exists_has some_held
      exact absurd same (free call has)

theorem Evolves.trans {b'' : Batch} (first : b.Evolves b') (second : b'.Evolves b'') :
    b.Evolves b'' := by
  induction second with
  | refl => exact first
  | step _ call ih => exact .step ih call

/-- A batch that holds both halves takes no more. -/
theorem Evolves.eq_of_full (full : ∀ half, (b.held half).isSome = true)
    (consistent : b.Consistent) (evolves : b.Evolves b') : b' = b := by
  induction evolves with
  | refl => rfl
  | step _ call same =>
    subst same
    obtain ⟨-, free, -⟩ | ⟨-, e, refused⟩ := record_cases consistent call
    · have held := full call.half
      rw [free] at held
      cases held
    · rw [refused]

theorem held_eq_some_iff (consistent : b.Consistent) (half : Half)
    (content : Option String × List Value) :
    b.held half = some content ↔
      ∃ call, b.Has call ∧ call.half = half ∧ call.content = content := by
  constructor
  · intro held
    have full : (b.held half).isSome = true := by rw [held]; rfl
    obtain ⟨call, ⟨bound, same⟩, rfl⟩ := consistent.exists_has full
    rw [held] at same
    exact ⟨call, ⟨bound, held.trans same⟩, rfl, (Option.some.inj same).symm⟩
  · rintro ⟨call, ⟨-, held⟩, rfl, rfl⟩
    exact held

theorem handle_eq_some_iff (consistent : b.Consistent) (h : HandleId) :
    b.handle = some h ↔ ∃ call, b.Has call ∧ call.handle = h := by
  constructor
  · intro bound
    obtain ⟨half, full⟩ := consistent.1 (by rw [bound]; rfl)
    obtain ⟨call, has, -⟩ := consistent.exists_has full
    exact ⟨call, has, Option.some.inj (has.1.symm.trans bound)⟩
  · rintro ⟨call, has, rfl⟩
    exact has.1

theorem startArgs_eq (b : Batch) : b.startArgs = (b.held .start).map Prod.snd := by
  unfold held
  cases b.startArgs <;> rfl

theorem signal_eq (b : Batch) :
    b.signal = (b.held .signal).map fun (name, args) => (name.getD "", args) := by
  unfold held
  cases b.signal <;> rfl

/-- A batch is what it holds. -/
theorem eq_of_has (consistent : b.Consistent) (consistent' : b'.Consistent)
    (same : ∀ call, b.Has call ↔ b'.Has call) : b = b' := by
  have handle : b.handle = b'.handle := by
    ext h
    rw [handle_eq_some_iff consistent, handle_eq_some_iff consistent']
    simp only [same]
  have halves (half : Half) : b.held half = b'.held half := by
    ext content
    rw [held_eq_some_iff consistent, held_eq_some_iff consistent']
    simp only [same]
  have start : b.startArgs = b'.startArgs := by rw [startArgs_eq, startArgs_eq, halves]
  have signal : b.signal = b'.signal := by rw [signal_eq, signal_eq, halves]
  obtain ⟨h, startArgs, signalled⟩ := b
  obtain ⟨h', startArgs', signalled'⟩ := b'
  obtain rfl : h = h' := handle
  obtain rfl : startArgs = startArgs' := start
  obtain rfl : signalled = signalled' := signal
  rfl

/-- The request of a batch that holds both halves, whichever it took first. -/
theorem request_of_has {h h' : HandleId} {startArgs signalArgs : List Value} {name : String}
    (start : b.Has (.start h startArgs)) (signal : b.Has (.signal h' name signalArgs)) :
    b.request = .ok ⟨h, name, signalArgs, startArgs⟩ := by
  have bound : b.handle = some h := start.1
  have start : b.startArgs = some startArgs := by
    rw [startArgs_eq, show b.held .start = _ from start.2]
    rfl
  have signal : b.signal = some (name, signalArgs) := by
    rw [signal_eq, show b.held .signal = _ from signal.2]
    rfl
  unfold request
  rw [bound, start, signal]

theorem request_of_missing {half : Half} (missing : b.held half = none) :
    b.request = .error .incomplete := by
  unfold request
  cases half with
  | start =>
    have start : b.startArgs = none := by rw [startArgs_eq, missing]; rfl
    rw [start]
    cases b.handle <;> rfl
  | signal =>
    have signal : b.signal = none := by rw [signal_eq, missing]; rfl
    rw [signal]
    cases b.handle <;> cases b.startArgs <;> rfl

end Batch

/-! ## Uses of a batch -/

theorem firstHandle_concat (uses : List BatchUse) (use : BatchUse) :
    firstHandle (uses ++ [use]) = (firstHandle uses).or use.handle? := by
  unfold firstHandle
  rw [List.findSome?_append]
  cases use <;> rfl

theorem handsIn_frame : Frame (HandsIn (τ := τ) (ν := ν)) where
  refl _ := .refl
  trans := Batch.Evolves.trans
  traced _ _ := .refl
  forgotten _ := .refl
  kept _ _ := .refl

section

variable (c : Collaborators (Batch × τ) ν) (s : State (Batch × τ) ν)

theorem runFrom_handIn (call : BatchCall) :
    runFrom (Action.handIn call) s =
      ((s.batch.record call).1.mapError fun e => .thrown (Cause.toFailure e),
        { s with outside := ((s.batch.record call).2, s.outside.2) }) := by
  unfold Action.handIn
  rw [runFrom_bind]
  show runFrom (expect (s.batch.record call).1) _ = _
  cases (s.batch.record call).1 <;> rfl

theorem runFrom_sendHeld : runFrom (sendHeld c) s = runFrom (s.batch.send c) s := rfl

theorem takes_iff (call : BatchCall) : Takes s call ↔ (s.batch.record call).1 = .ok () := by
  unfold Takes
  rw [runFrom_handIn]
  cases (s.batch.record call).1 with
  | ok => exact ⟨fun _ => rfl, fun _ => rfl⟩
  | error e =>
    constructor
    · intro taken
      cases taken
    · intro taken
      cases taken

theorem stateAfter_concat (uses : List BatchUse) (use : BatchUse) :
    stateAfter c s (uses ++ [use]) = use.after c (stateAfter c s uses) := by
  unfold stateAfter
  rw [List.foldl_append]
  rfl

theorem took_concat_iff (uses : List BatchUse) (use : BatchUse) (call : BatchCall) :
    Took c s (uses ++ [use]) call ↔
      Took c s uses call ∨ use = .handIn call ∧ Takes (stateAfter c s uses) call := by
  constructor
  · rintro ⟨before, among, taken⟩
    rcases List.prefix_concat_iff.1 among with last | earlier
    · obtain ⟨rfl, same⟩ := List.append_inj' last rfl
      exact .inr ⟨(List.head_eq_of_cons_eq same).symm, taken⟩
    · exact .inl ⟨before, earlier, taken⟩
  · rintro (⟨before, among, taken⟩ | ⟨rfl, taken⟩)
    · exact ⟨before, among.trans (List.prefix_append uses [use]), taken⟩
    · exact ⟨uses, List.prefix_refl _, taken⟩

end

section

variable {c : Collaborators (Batch × τ) ν} {s : State (Batch × τ) ν}

theorem takes_iff_fits (call : BatchCall) :
    Takes s call ↔
      (s.batch.handle = none ∨ s.batch.handle = some call.handle) ∧
        s.batch.held call.half = none := by
  rw [takes_iff, Batch.record_ok_iff, Batch.hasRoomFor_eq, Option.isNone_iff_eq_none]

/-- A half that is not taken leaves no trace. -/
theorem handIn_refused (consistent : s.batch.Consistent) {call : BatchCall}
    (untaken : ¬Takes s call) : (Action.handIn call).RefusedAs .invalidState s := by
  have run := runFrom_handIn s call
  obtain ⟨-, -, taken⟩ | ⟨-, e, refused⟩ := Batch.record_cases consistent call
  · rw [takes_iff, taken] at untaken
    exact absurd rfl untaken
  · rw [refused] at run
    exact ⟨Cause.toFailure e, Cause.isOfKind_toFailure e, run⟩

/-- A batch that lacks a half is not sent. -/
theorem sendHeld_refused (c : Collaborators (Batch × τ) ν) {half : Half}
    (missing : s.batch.held half = none) : (sendHeld c).RefusedAs .invalidState s := by
  refine ⟨Cause.toFailure BatchError.incomplete, Cause.isOfKind_toFailure _, ?_⟩
  rw [runFrom_sendHeld]
  unfold Batch.send
  rw [Batch.request_of_missing missing]
  rfl

/-- A batch with both halves is sent in one call. -/
theorem sendHeld_talk (c : Collaborators (Batch × τ) ν) {r : Batch.Request}
    (complete : s.batch.request = .ok r) :
    Talk c s
      [.logged ⟨.dispatch, .debug, "signalWithStart '" ++ r.name ++ "'"⟩,
        .asked (.handle r.handle (.signalWithStart r.name r.signalArgs r.startArgs))
          (runFrom (sendHeld c) s).1]
      (runFrom (sendHeld c) s).2 := by
  rw [runFrom_sendHeld]
  unfold Batch.send
  rw [complete]
  exact .logged _ (.single rfl)

/-- Sending does not change the batch, whatever the handle does with it meanwhile. -/
theorem batch_sendHeld (fair : c.Keep HandsIn) (consistent : s.batch.Consistent) :
    (runFrom (sendHeld c) s).2.batch = s.batch := by
  have evolves : s.batch.Evolves (runFrom (sendHeld c) s).2.batch :=
    Keeps.send handsIn_frame fair s.batch s
  cases start : s.batch.held .start with
  | none =>
    obtain ⟨failure, -, refused⟩ := sendHeld_refused c start
    rw [refused]
  | some startArgs =>
    cases signal : s.batch.held .signal with
    | none =>
      obtain ⟨failure, -, refused⟩ := sendHeld_refused c signal
      rw [refused]
    | some named =>
      refine evolves.eq_of_full (fun half => ?_) consistent
      cases half with
      | start => rw [start]; rfl
      | signal => rw [signal]; rfl

end

/-! ## Runs -/

/-- The batch holds what it took in these uses, and is bound to the handle of the first half. -/
structure Collected (c : Collaborators (Batch × τ) ν) (s : State (Batch × τ) ν)
    (uses : List BatchUse) : Prop where
  consistent : (stateAfter c s uses).batch.Consistent
  handle_eq : (stateAfter c s uses).batch.handle = firstHandle uses
  took_iff : ∀ call, Took c s uses call ↔ (stateAfter c s uses).batch.Has call

namespace Collected

variable {c : Collaborators (Batch × τ) ν} {s : State (Batch × τ) ν} {uses : List BatchUse}

theorem start (new : s.batch = .empty) : Collected c s [] where
  consistent := by
    show s.batch.Consistent
    rw [new]
    exact Batch.consistent_empty
  handle_eq := by
    show s.batch.handle = none
    rw [new]
    rfl
  took_iff call := by
    constructor
    · rintro ⟨before, among, -⟩
      simp at among
    · rintro ⟨bound, -⟩
      replace bound : s.batch.handle = some call.handle := bound
      rw [new] at bound
      cases bound

/-- One more use. -/
theorem step (fair : c.Keep HandsIn) (now : Collected c s uses) (use : BatchUse) :
    Collected c s (uses ++ [use]) := by
  cases use with
  | send =>
    have same : (stateAfter c s (uses ++ [.send])).batch = (stateAfter c s uses).batch := by
      rw [stateAfter_concat]
      exact batch_sendHeld fair now.consistent
    refine ⟨?_, ?_, fun call => ?_⟩
    · rw [same]
      exact now.consistent
    · rw [same, firstHandle_concat, now.handle_eq]
      exact Option.or_none.symm
    · rw [same, took_concat_iff, ← now.took_iff]
      simp
  | handIn call =>
    have recorded : (stateAfter c s (uses ++ [.handIn call])).batch =
        ((stateAfter c s uses).batch.record call).2 := by
      rw [stateAfter_concat]
      show (runFrom (Action.handIn call) _).2.batch = _
      rw [runFrom_handIn]
      rfl
    refine ⟨?_, ?_, fun other => ?_⟩
    · rw [recorded]
      exact Batch.consistent_record now.consistent call
    · rw [recorded, firstHandle_concat, ← now.handle_eq]
      obtain ⟨fits, -, taken⟩ | ⟨unfit, e, refused⟩ := Batch.record_cases now.consistent call
      · rw [taken, Batch.handle_fill]
        rcases fits with unbound | same
        · rw [unbound]
          rfl
        · rw [same]
          rfl
      · -- An unbound batch has room for any half, so that this one is bound already.
        rw [refused]
        cases bound : (stateAfter c s uses).batch.handle with
        | some h => rfl
        | none => exact absurd ⟨.inl bound, now.consistent.held_eq_none bound _⟩ unfit
    · rw [recorded, took_concat_iff, Batch.has_record_iff now.consistent, now.took_iff, takes_iff,
        BatchUse.handIn.injEq]
      constructor
      · rintro (earlier | ⟨rfl, taken⟩)
        · exact .inl earlier
        · exact .inr ⟨taken, rfl⟩
      · rintro (earlier | ⟨taken, rfl⟩)
        · exact .inl earlier
        · exact .inr ⟨rfl, taken⟩

theorem steps (fair : c.Keep HandsIn) (now : Collected c s uses) (more : List BatchUse) :
    Collected c s (uses ++ more) := by
  induction more generalizing uses with
  | nil =>
    rw [List.append_nil]
    exact now
  | cons use more ih =>
    rw [List.append_cons]
    exact ih (now.step fair use)

end Collected

/-- However a new batch is used, it holds what it took. -/
theorem collected {c : Collaborators (Batch × τ) ν} (fair : c.Keep HandsIn)
    {s : State (Batch × τ) ν} (new : s.batch = .empty) (uses : List BatchUse) :
    Collected c s uses := (Collected.start new).steps fair uses

/-! ## A handle that uses its batch -/

/-- A handle that hands in another signal while it answers. -/
def meddling : Collaborators (Batch × Unit) Unit where
  handle
    | h, .signalWithStart .. => do
      let _ ← observe (Action.handIn (.signal h "Again" []))
      return ⟨"greeter-1", "run-1"⟩
    | _, _ => fail (WorkflowError.ofKind .invalidState "not running").toFailure
  batch _ call := Action.handIn call
  declare type := return ⟨type.name, type, .empty, []⟩

theorem keeps_handIn (call : BatchCall) :
    (Action.handIn call : Action (Batch × τ) ν Unit).Keeps HandsIn := by
  intro s
  rw [runFrom_handIn]
  exact .step .refl call

theorem meddling_fair : meddling.Keep HandsIn where
  handle h call := by
    cases call with
    | signalWithStart =>
      exact .bind handsIn_frame (.observe (keeps_handIn _)) fun _ => .pure handsIn_frame _
    | start | signal | query | getResult | getResultAsync | getOptions =>
      exact .stop handsIn_frame _
  batch _ call := keeps_handIn call

/-! ## Top theorem -/

/-- **A batch takes each half once and sends what it took.**  It is new, and halves are handed in
and it is told to send any number of times, in any order.  It is bound to the handle of the first
half.  A half is taken exactly when it is for that handle and none of its kind was taken before; one
that is not taken fails and changes nothing.  With both halves the batch is sent in one call to its
handle and stays as it is; without them sending fails and changes nothing.  What it holds depends on
the halves that it took and not on their order. -/
theorem batch_sends_what_it_took {c : Collaborators (Batch × τ) ν} (fair : c.Keep HandsIn)
    {s : State (Batch × τ) ν} (new : s.batch = .empty) (uses : List BatchUse) :
    let t := stateAfter c s uses
    let sent := runFrom (sendHeld c) t
    t.batch.handle = firstHandle uses ∧
      (∀ call, Takes t call ↔
        firstHandle (uses ++ [.handIn call]) = some call.handle ∧
          ∀ earlier, Took c s uses earlier → earlier.half ≠ call.half) ∧
      (∀ call, ¬Takes t call → (Action.handIn call).RefusedAs .invalidState t) ∧
      (∀ h h' startArgs name signalArgs, Took c s uses (.start h startArgs) →
        Took c s uses (.signal h' name signalArgs) →
          firstHandle uses = some h ∧ h' = h ∧
          Talk c t
            [.logged ⟨.dispatch, .debug, "signalWithStart '" ++ name ++ "'"⟩,
              .asked (.handle h (.signalWithStart name signalArgs startArgs)) sent.1] sent.2 ∧
          (c.Quiet → sent.2.calls =
            t.calls ++ [.handle h (.signalWithStart name signalArgs startArgs)]) ∧
          sent.2.batch = t.batch) ∧
      (∀ half, (∀ call, Took c s uses call → call.half ≠ half) →
        (sendHeld c).RefusedAs .invalidState t) ∧
      ∀ uses', (∀ call, Took c s uses call ↔ Took c s uses' call) →
        (stateAfter c s uses').batch = t.batch := by
  intro t sent
  have now := collected fair new uses
  refine ⟨now.handle_eq, fun call => ?_, fun call => handIn_refused now.consistent,
    fun h h' startArgs name signalArgs start signal => ?_, fun half missing => ?_,
    fun uses' same => ?_⟩
  · rw [takes_iff_fits, now.handle_eq, now.consistent.held_eq_none_iff,
      firstHandle_concat]
    simp only [now.took_iff]
    cases firstHandle uses <;> simp [BatchUse.handle?]
  · have started := (now.took_iff _).1 start
    have signalled := (now.took_iff _).1 signal
    have bound : firstHandle uses = some h := now.handle_eq.symm.trans started.1
    have same : h' = h := Option.some.inj (signalled.1.symm.trans started.1)
    have talk := sendHeld_talk c (Batch.request_of_has started signalled)
    refine ⟨bound, same, talk, fun quiet => ?_, batch_sendHeld fair now.consistent⟩
    rw [talk.calls_eq quiet]
    rfl
  · simp only [now.took_iff] at missing
    exact sendHeld_refused c ((now.consistent.held_eq_none_iff half).2 missing)
  · have now' := collected fair new uses'
    refine Batch.eq_of_has now'.consistent now.consistent fun call => ?_
    rw [← now'.took_iff, ← same, now.took_iff]

/-- The signal comes first, sending is tried too early, another handle and a second start are
refused, and the handle hands in a signal while it answers. -/
theorem cancelled_greeting_is_sent :
    let ann : HandleId := ⟨1, "ann"⟩
    let bob : HandleId := ⟨2, "bob"⟩
    let s : State (Batch × Unit) Unit := .initial (.empty, ())
    let uses : List BatchUse := [.handIn (.signal ann "Cancel" []), .send,
      .handIn (.start bob [.string "Bob"]), .handIn (.start ann [.string "Ann"]),
      .handIn (.start ann [.string "Bob"])]
    let sent := runFrom (sendHeld meddling) (stateAfter meddling s uses)
    sent.1 = .ok ⟨"greeter-1", "run-1"⟩ ∧ firstHandle uses = some ann ∧
      Talk meddling (stateAfter meddling s uses)
        [.logged ⟨.dispatch, .debug, "signalWithStart 'Cancel'"⟩,
          .asked (.handle ann (.signalWithStart "Cancel" [] [.string "Ann"])) sent.1] sent.2 ∧
      sent.2.batch = ⟨some ann, some [.string "Ann"], some ("Cancel", [])⟩ := by
  intro ann bob s uses sent
  have started : Took meddling s uses (.start ann [.string "Ann"]) :=
    ⟨uses.take 3, by decide, rfl⟩
  have signalled : Took meddling s uses (.signal ann "Cancel" []) := ⟨[], by decide, rfl⟩
  obtain ⟨-, -, -, sends, -⟩ := batch_sends_what_it_took meddling_fair (s := s) rfl uses
  obtain ⟨bound, -, talk, -, same⟩ := sends _ _ _ _ _ started signalled
  exact ⟨rfl, bound, talk, same.trans rfl⟩

end WorkflowDispatch
