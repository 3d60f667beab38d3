import WorkflowDispatch.Batch
import WorkflowDispatch.Proofs.Protocol
import WorkflowDispatch.Stub

/-!
# Collaborators that call back

A collaborator may use the library while it answers.  `Callback x` says that `x` is built from what
it may do: affairs of its own, calls through any stubs and routers, contexts that it opens, failures
and failures that it catches.  It never closes a context that it did not open.  The collaborators
of a nested call call back in turn, and are built before it: the induction over `Callback` is one
over trees of calls of any depth.

    OpenFrame R → Callback x → x.Keeps R                                   (Callback.keeps)
    OpenFrame R → c.CallBack → c.Keep R                                    (CallBack.keep)
-/

namespace WorkflowDispatch

open WorkflowDispatch.Action

variable {σ ν α β : Type}

/-! ## Definitions -/

/-- Reads and changes the state of the collaborators. -/
def Action.outside (f : σ → α × σ) : Action σ ν α := do
  let s ← get
  set { s with outside := (f s.outside).2 }
  return (f s.outside).1

/-- Reads and changes the futures. -/
def Action.onFutures (f : List FutureState → α × List FutureState) : Action σ ν α := do
  let s ← get
  set { s with futures := (f s.futures).2 }
  return (f s.futures).1

/-- What a collaborator may do while it answers. -/
inductive Callback : {α : Type} → Action σ ν α → Prop where
  | pure {α : Type} (v : α) : Callback (pure v)
  | bind {α β : Type} {x : Action σ ν α} {f : α → Action σ ν β} (first : Callback x)
      (next : ∀ v, Callback (f v)) : Callback (x >>= f)
  | stop {α : Type} (stop : Stop) : Callback (throw stop : Action σ ν α)
  | observe {α : Type} {x : Action σ ν α} (body : Callback x) : Callback (Action.observe x)
  | record (e : Event ν) : Callback (Action.record e)
  | outside {α : Type} (f : σ → α × σ) : Callback (Action.outside f)
  | futures {α : Type} (f : List FutureState → α × List FutureState) :
      Callback (Action.onFutures f)
  | descriptorOf {c : Collaborators σ ν} (declares : ∀ type, Callback (c.declare type))
      (type : InterfaceType) (declaring : Option InterfaceType) :
      Callback (Action.descriptorOf c type declaring)
  | context : Callback Action.context
  | enter (mode : Mode) (batch : Option BatchId) : Callback (Action.enter mode batch)
  | within {α : Type} {x : Action σ ν α} (mode : Mode) (batch : Option BatchId)
      (body : Callback x) : Callback (Guard.within mode batch x)
  | route {c : Collaborators σ ν} (handles : ∀ h call, Callback (c.handle h call))
      (batches : ∀ b call, Callback (c.batch b call)) (router : Router) (h : HandleId)
      (target : Target) (args : List Value) : Callback (router.route c h target args)
  | call {c : Collaborators σ ν} (handles : ∀ h call, Callback (c.handle h call))
      (batches : ∀ b call, Callback (c.batch b call)) (stub : Stub) (m : Member)
      (args : List Value) : Callback (stub.call c m args)
  | send {c : Collaborators σ ν} (handles : ∀ h call, Callback (c.handle h call))
      (batches : ∀ b call, Callback (c.batch b call)) (b : Batch) : Callback (b.send c)

/-- The handles and the batches may call back. -/
structure Collaborators.CallBack (c : Collaborators σ ν) : Prop where
  handle : ∀ h call, Callback (c.handle h call)
  batch : ∀ b call, Callback (c.batch b call)

/-- A context that is active stays active, in its mode and with its batch. -/
def StaysOpen (s s' : State σ ν) : Prop :=
  ∀ ctx, s.context = some ctx → ∃ held, s'.context = some { ctx with held := held }

/-- A relation that all that a collaborator may do is bound to respect. -/
structure OpenFrame (R : State σ ν → State σ ν → Prop) : Prop extends Frame R where
  outside : ∀ s o, R s { s with outside := o }
  futures : ∀ s fs, R s { s with futures := fs }
  cached : ∀ s cache, R s { s with cache := cache }
  entered : ∀ s ctx, s.context = none → R s { s with context := some ctx }
  left : ∀ s s', s.context = none → R s s' → R s { s' with context := none }

/-! ## Opening contexts -/

theorem runFrom_enter (mode : Mode) (batch : Option BatchId) (s : State σ ν) :
    runFrom (Action.enter mode batch : Action σ ν Unit) s =
      match Context.enter? s.context mode batch with
      | .error e => (.error (.thrown (Cause.toFailure e)), s)
      | .ok ctx =>
        runFrom (Action.log .context .trace ("enter " ++ mode.name))
          { s with context := some ctx } := by
  unfold Action.enter
  rw [runFrom_bind, runFrom_context]
  show runFrom (Action.expect (Context.enter? s.context mode batch) >>= _) s = _
  cases Context.enter? s.context mode batch <;> rfl

/-- A context is opened and that is logged, or nothing is changed. -/
theorem enter_cases (mode : Mode) (batch : Option BatchId) (s : State σ ν) :
    (∃ failure, runFrom (Action.enter mode batch) s = (.error (.thrown failure), s)) ∨
      ∃ ctx, Context.enter? s.context mode batch = .ok ctx ∧
        runFrom (Action.enter mode batch) s = (.ok (), { s with
          context := some ctx
          trace := s.trace ++ [.log ⟨.context, .trace, "enter " ++ mode.name⟩] }) := by
  have run := runFrom_enter mode batch s
  cases entering : Context.enter? s.context mode batch with
  | error e =>
    rw [entering] at run
    exact .inl ⟨_, run⟩
  | ok ctx =>
    rw [entering] at run
    exact .inr ⟨ctx, rfl, run.trans (runFrom_log ..)⟩

/-- A context is entered only where none is active. -/
theorem context_of_entered {mode : Mode} {batch : Option BatchId} {s t : State σ ν}
    (entered : runFrom (Action.enter mode batch : Action σ ν Unit) s = (.ok (), t)) :
    s.context = none := by
  rcases enter_cases mode batch s with ⟨failure, refused⟩ | ⟨ctx, entering, -⟩
  · cases refused.symm.trans entered
  · exact (Context.of_enter?_eq_ok entering).1

/-- A context that is opened for one action is closed again, however that ends. -/
theorem runFrom_within (mode : Mode) (batch : Option BatchId) (x : Action σ ν α)
    (s : State σ ν) :
    runFrom (Guard.within mode batch x) s =
      match runFrom (Action.enter mode batch) s with
      | (.error stop, t) => (.error stop, t)
      | (.ok (), t) => ((runFrom x t).1, { (runFrom x t).2 with context := none }) := by
  unfold Guard.within Guard.enter
  rw [runFrom_bind, runFrom_bind]
  rcases runFrom (Action.enter mode batch) s with ⟨stop | -, t⟩ <;> rfl

/-! ## Keeping under composition -/

namespace Action.Keeps

variable {R : State σ ν → State σ ν → Prop}

theorem pure (frame : Frame R) (v : α) : (Pure.pure v : Action σ ν α).Keeps R :=
  fun s => frame.refl s

theorem stop (frame : Frame R) (stop : Stop) : (throw stop : Action σ ν α).Keeps R :=
  fun s => frame.refl s

theorem bind (frame : Frame R) {x : Action σ ν α} {f : α → Action σ ν β} (first : x.Keeps R)
    (next : ∀ v, (f v).Keeps R) : (x >>= f).Keeps R := by
  intro s
  have one := first s
  rw [runFrom_bind]
  rcases run : runFrom x s with ⟨stop | v, t⟩
  · rw [run] at one
    exact one
  · rw [run] at one
    exact frame.trans one (next v t)

theorem observe {x : Action σ ν α} (body : x.Keeps R) : (Action.observe x).Keeps R :=
  fun s => body s

theorem record (frame : Frame R) (e : Event ν) : (Action.record e : Action σ ν Unit).Keeps R :=
  fun s => frame.traced s e

theorem context (frame : Frame R) : (Action.context : Action σ ν _).Keeps R :=
  fun s => frame.refl s

theorem log (frame : Frame R) (category : LogCategory) (level : LogLevel) (message : String) :
    (Action.log category level message : Action σ ν Unit).Keeps R :=
  record frame _

theorem expect (frame : Frame R) {ε : Type} [Cause ε] (x : Except ε α) :
    (Action.expect x : Action σ ν α).Keeps R := by
  cases x with
  | ok v => exact pure frame v
  | error cause => exact stop frame _

theorem require (frame : Frame R) (holds : Bool) (message : String) :
    (Action.require holds message : Action σ ν Unit).Keeps R := by
  unfold Action.require
  split
  · exact pure frame ()
  · exact bind frame (log frame _ _ _) fun _ => stop frame _

/-! ## What the library does -/

theorem keep (frame : Frame R) (context? : Option Context) (v : Value) :
    (RoutedCall.keep context? v : Action σ ν Unit).Keeps R := by
  unfold RoutedCall.keep
  split
  · exact fun s => frame.kept s v
  · exact pure frame ()

theorem onlyEntryPoint (frame : Frame R) (r : RoutedCall) (mode : Mode) :
    (r.onlyEntryPoint mode : Action σ ν Unit).Keeps R := by
  unfold RoutedCall.onlyEntryPoint
  split
  · exact pure frame ()
  · exact stop frame _

section

variable {c : Collaborators σ ν} (frame : Frame R) (hc : c.Keep R)

include frame hc

theorem callHandle (h : HandleId) (call : HandleCall) : (Action.callHandle c h call).Keeps R :=
  bind frame (record frame _) fun _ => hc.handle h call

theorem callBatch (b : BatchId) (call : BatchCall) : (Action.callBatch c b call).Keeps R :=
  bind frame (record frame _) fun _ => hc.batch b call

theorem startOrAttach (h : HandleId) (args : List Value) :
    (startOrAttach c h args).Keeps R := by
  intro s
  obtain ⟨turns, -, talk⟩ := startOrAttach_talk c h args s
  exact talk.keeps frame hc

theorem carryOut (r : RoutedCall) : (r.carryOut c).Keeps R := by
  unfold RoutedCall.carryOut
  cases r.resolved.role with
  | entryPoint => exact bind frame (startOrAttach frame hc _ _) fun _ => callHandle frame hc _ _
  | signal =>
    cases r.returns.isVoid with
    | true => exact bind frame (callHandle frame hc _ _) fun _ => pure frame _
    | false => exact stop frame _
  | query =>
    cases r.returns.isVoid with
    | true => exact stop frame _
    | false => exact callHandle frame hc _ _

theorem startOnly (r : RoutedCall) : (r.startOnly c).Keeps R :=
  bind frame (onlyEntryPoint frame r _) fun _ =>
    bind frame (callHandle frame hc _ _) fun _ => pure frame _

theorem startForFuture (r : RoutedCall) : (r.startForFuture c).Keeps R :=
  bind frame (onlyEntryPoint frame r _) fun _ => bind frame (startOrAttach frame hc _ _) fun _ =>
    bind frame (callHandle frame hc _ _) fun _ => pure frame _

theorem recordInBatch (r : RoutedCall) (batch? : Option BatchId) :
    (r.recordInBatch c batch?).Keeps R := by
  refine bind frame (require frame _ _) fun _ => ?_
  cases batch? with
  | none => exact pure frame ()
  | some batch =>
    cases r.resolved.role with
    | entryPoint | signal => exact callBatch frame hc _ _
    | query => exact stop frame _

theorem make (r : RoutedCall) (context? : Option Context) : (r.make c context?).Keeps R := by
  have kept (x : Action σ ν Value) (f : Value → Value) (first : x.Keeps R) :
      Keeps R (do
        let v ← x
        RoutedCall.keep context? v
        return f v) :=
    bind frame first fun v => bind frame (keep frame context? v) fun _ => pure frame (f v)
  unfold RoutedCall.make
  cases Context.modeOf context? with
  | sync => exact kept _ id (carryOut frame hc r)
  | start => exact kept _ (fun _ => .empty) (startOnly frame hc r)
  | execute => exact kept _ (fun _ => .empty) (startForFuture frame hc r)
  | signalWithStart => exact bind frame (recordInBatch frame hc r _) fun _ => pure frame _

theorem route (router : Router) (h : HandleId) (target : Target) (args : List Value) :
    (router.route c h target args).Keeps R := by
  cases target with
  | reserved question => exact pure frame _
  | undeclared description => exact stop frame _
  | method i =>
    refine bind frame (context frame) fun context? => ?_
    refine bind frame (fun s => frame.forgotten s) fun _ => ?_
    refine bind frame ?_ fun r => bind frame (log frame _ _ _) fun _ => make frame hc r context?
    cases router.descriptor.routedCall h i args with
    | ok r => exact pure frame r
    | error e => exact stop frame _

theorem call (stub : Stub) (m : Member) (args : List Value) : (stub.call c m args).Keeps R := by
  refine bind frame (context frame) fun context? => ?_
  show Keeps R (if _ then _ else _)
  split
  · exact bind frame (route frame hc _ _ _ _) fun _ => expect frame _
  · exact stop frame _

theorem send (b : Batch) : (b.send c).Keeps R :=
  bind frame (expect frame _) fun _ => bind frame (log frame _ _ _) fun _ =>
    callHandle frame hc _ _

end

section

variable (frame : OpenFrame R)

include frame

theorem descriptorOf {c : Collaborators σ ν} (declares : ∀ type, (c.declare type).Keeps R)
    (type : InterfaceType) (declaring : Option InterfaceType) :
    (Action.descriptorOf c type declaring).Keeps R := by
  have base := frame.toFrame
  unfold Action.descriptorOf
  split
  · exact stop base _
  · refine bind base (fun s => base.refl s) fun s => ?_
    split
    · exact bind base (log base _ _ _) fun _ => pure base _
    · refine bind base (log base _ _ _) fun _ => bind base ?_ fun d => bind base ?_ fun d => ?_
      · exact bind base (record base _) fun _ => declares _
      · exact bind base (expect base _) fun _ => bind base (log base _ _ _) fun _ => pure base _
      · split
        · exact fun s => frame.cached s _
        · exact stop base _

theorem enter (mode : Mode) (batch : Option BatchId) :
    (Action.enter mode batch : Action σ ν Unit).Keeps R := by
  intro s
  rcases enter_cases mode batch s with ⟨failure, run⟩ | ⟨ctx, entering, run⟩
  · rw [run]
    exact frame.refl s
  · rw [run]
    have closed := (Context.of_enter?_eq_ok entering).1
    exact frame.trans (frame.entered s ctx closed) (frame.traced _ _)

theorem within {x : Action σ ν α} (body : x.Keeps R) (mode : Mode) (batch : Option BatchId) :
    (Guard.within mode batch x).Keeps R := by
  intro s
  have opening := enter frame mode batch s
  rw [runFrom_within]
  rcases run : runFrom (Action.enter mode batch) s with ⟨stop | _, t⟩
  · rw [run] at opening
    exact opening
  · rw [run] at opening
    -- The context that is closed here was opened here: none was active before.
    exact frame.left s _ (context_of_entered run) (frame.trans opening (body t))

end

end Action.Keeps

/-! ## Calling back keeps -/

/-- What each step of a collaborator respects, its answer respects, whatever calls it makes. -/
theorem Callback.keeps {R : State σ ν → State σ ν → Prop} (frame : OpenFrame R)
    {x : Action σ ν α} (callback : Callback x) : x.Keeps R := by
  have base := frame.toFrame
  -- A nested call has its collaborators among its premises: what they keep is an induction
  -- hypothesis, at whatever depth they call in turn.
  induction callback with
  | pure v => exact .pure base v
  | bind _ _ first next => exact .bind base first next
  | stop e => exact .stop base e
  | observe _ body => exact .observe body
  | record e => exact .record base e
  | outside f => exact fun s => frame.outside s _
  | futures f => exact fun s => frame.futures s _
  | descriptorOf _ type declaring declares => exact .descriptorOf frame declares type declaring
  | context => exact .context base
  | enter mode batch => exact .enter frame mode batch
  | within mode batch _ body => exact .within frame body mode batch
  | route _ _ router h target args handles batches =>
    exact .route base ⟨handles, batches⟩ router h target args
  | call _ _ stub m args handles batches => exact .call base ⟨handles, batches⟩ stub m args
  | send _ _ b handles batches => exact .send base ⟨handles, batches⟩ b

/-- Where no context was active, any may be opened and closed. -/
theorem staysOpen : OpenFrame (StaysOpen (σ := σ) (ν := ν)) where
  refl s ctx active := ⟨ctx.held, active⟩
  trans first second ctx active := by
    obtain ⟨held, active⟩ := first ctx active
    exact second { ctx with held := held } active
  traced s e ctx active := ⟨ctx.held, active⟩
  forgotten s ctx active := ⟨none, by simp [active, Context.forgetOutcome]⟩
  kept s v ctx active := ⟨some v, by simp [active, Context.keepOutcome]⟩
  outside s o ctx active := ⟨ctx.held, active⟩
  futures s fs ctx active := ⟨ctx.held, active⟩
  cached s cache ctx active := ⟨ctx.held, active⟩
  entered s opened closed ctx active := by simp [closed] at active
  left s s' closed _ ctx active := by simp [closed] at active

theorem RoutedCall.staysOpen_begun (r : RoutedCall) (s : State σ ν) : StaysOpen s (r.begun s) :=
  staysOpen.trans (staysOpen.forgotten s) (staysOpen.traced s.forgotten _)

theorem callsGrow : OpenFrame (CallsGrow (σ := σ) (ν := ν)) where
  toFrame := callsGrow_frame
  outside s _ := List.prefix_refl s.calls
  futures s _ := List.prefix_refl s.calls
  cached s _ := List.prefix_refl s.calls
  entered s _ _ := List.prefix_refl s.calls
  left _ _ _ grown := grown

/-- What each step respects, the collaborators respect: they close no context that is active when
they are called, and undo no call. -/
theorem Collaborators.CallBack.keep {R : State σ ν → State σ ν → Prop} (frame : OpenFrame R)
    {c : Collaborators σ ν} (back : c.CallBack) : c.Keep R where
  handle h call := (back.handle h call).keeps frame
  batch b call := (back.batch b call).keeps frame

end WorkflowDispatch
