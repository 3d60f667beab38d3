import WorkflowDispatch.Proofs.Conduct

/-!
# Two runs

The same is done in two states that are alike in some way.  Two runs agree if they end in the same
way and reach states that are alike again.  What the library does to the trace keeps states
`Parallel`; where they show the same context, everything that it does for a call agrees as soon as
the answers of the handles and the batches do.

    Parallel B → (∀ h call, Agree B (c.handle h call) (c.handle h call)) →
      Agree B (r.carryOut c) (r.carryOut c)                                (Parallel.carryOut)
    SameContext B → c.AgreeIn B →
      Agree B (router.route c h target args) (router.route c h target args) (SameContext.route)
-/

namespace WorkflowDispatch

open WorkflowDispatch.Action

variable {σ ν α β : Type}

/-! ## Definitions -/

/-- From related states the actions end alike, and the states they reach are related. -/
def Action.Agree (B : State σ ν → State σ ν → Prop) (x x' : Action σ ν α) : Prop :=
  ∀ s s', B s s' → (runFrom x s).1 = (runFrom x' s').1 ∧ B (runFrom x s).2 (runFrom x' s').2

/-- A relation between the states of two runs that stays when both log the same line or make the
same call.  The collaborators are in the same state in both, and so are the futures, and what is
made of these in both leaves the runs related. -/
structure Parallel (B : State σ ν → State σ ν → Prop) : Prop where
  logged : ∀ {s t}, B s t → ∀ line,
    B { s with trace := s.trace ++ [.log line] } { t with trace := t.trace ++ [.log line] }
  called : ∀ {s t}, B s t → ∀ call : Call,
    B { s with trace := s.trace ++ [call.event] } { t with trace := t.trace ++ [call.event] }
  outside_eq : ∀ {s t}, B s t → t.outside = s.outside
  outside_set : ∀ {s t}, B s t → ∀ o, B { s with outside := o } { t with outside := o }
  futures_eq : ∀ {s t}, B s t → t.futures = s.futures
  futures_set : ∀ {s t}, B s t → ∀ fs, B { s with futures := fs } { t with futures := fs }

/-- The two runs also have the same context, and stay related when that is replaced in both. -/
structure SameContext (B : State σ ν → State σ ν → Prop) : Prop extends Parallel B where
  context_eq : ∀ {s t}, B s t → t.context = s.context
  placed : ∀ {s t}, B s t → ∀ c, B { s with context := c } { t with context := c }

/-- The handles and the batches answer alike in the two runs. -/
structure Collaborators.AgreeIn (B : State σ ν → State σ ν → Prop) (c : Collaborators σ ν) :
    Prop where
  handle : ∀ h call, Agree B (c.handle h call) (c.handle h call)
  batch : ∀ b call, Agree B (c.batch b call) (c.batch b call)

/-! ## Composition -/

namespace Action.Agree

variable {B : State σ ν → State σ ν → Prop}

theorem pure (v : α) : Agree B (Pure.pure v : Action σ ν α) (Pure.pure v) :=
  fun _ _ related => ⟨rfl, related⟩

theorem stop (stop : Stop) : Agree B (throw stop : Action σ ν α) (throw stop) :=
  fun _ _ related => ⟨rfl, related⟩

theorem bind {x x' : Action σ ν α} {f f' : α → Action σ ν β} (first : Agree B x x')
    (next : ∀ v, Agree B (f v) (f' v)) : Agree B (x >>= f) (x' >>= f') := by
  intro s s' related
  obtain ⟨same, after⟩ := first s s' related
  rw [runFrom_bind, runFrom_bind]
  rcases ran : runFrom x s with ⟨ending, t⟩
  rcases ran' : runFrom x' s' with ⟨ending', t'⟩
  rw [ran, ran'] at same after
  obtain rfl : ending = ending' := same
  cases ending with
  | error stop => exact ⟨rfl, after⟩
  | ok v => exact next v t t' after

theorem observe {x x' : Action σ ν α} (body : Agree B x x') :
    Agree B (Action.observe x) (Action.observe x') := by
  intro s s' related
  obtain ⟨same, after⟩ := body s s' related
  exact ⟨congrArg Except.ok same, after⟩

theorem conclude (ending : Ending α) :
    Agree B (Action.conclude ending : Action σ ν α) (Action.conclude ending) :=
  fun _ _ related => ⟨rfl, related⟩

theorem attempt {x x' : Action σ ν α} (body : Agree B x x') :
    Agree B (Action.attempt x) (Action.attempt x') := by
  refine bind (observe body) fun ending => ?_
  match ending with
  | .ok v => exact pure _
  | .error (.thrown failure) => exact pure _
  | .error (.aborted e) => exact stop _
  | .error (.stuck reason) => exact stop _

theorem ofResult (result : Except Failure α) :
    Agree B (Action.ofResult result : Action σ ν α) (Action.ofResult result) := by
  cases result with
  | ok v => exact pure v
  | error failure => exact stop _

theorem expect {ε : Type} [Cause ε] (result : Except ε α) :
    Agree B (Action.expect result : Action σ ν α) (Action.expect result) :=
  ofResult _

end Action.Agree

/-! ## Parallel runs -/

namespace Parallel

variable {B : State σ ν → State σ ν → Prop} (parallel : Parallel B)

include parallel

theorem log (category : LogCategory) (level : LogLevel) (message : String) :
    Agree B (Action.log category level message : Action σ ν Unit)
      (Action.log category level message) :=
  fun _ _ related => ⟨rfl, parallel.logged related ⟨category, level, message⟩⟩

theorem outside (f : σ → α × σ) :
    Agree B (Action.outside f : Action σ ν α) (Action.outside f) := by
  intro s t related
  have changed := parallel.outside_set related (f s.outside).2
  show Except.ok (f s.outside).1 = .ok (f t.outside).1 ∧
    B { s with outside := (f s.outside).2 } { t with outside := (f t.outside).2 }
  rw [parallel.outside_eq related]
  exact ⟨rfl, changed⟩

theorem futures (f : List FutureState → α × List FutureState) :
    Agree B (Action.onFutures f : Action σ ν α) (Action.onFutures f) := by
  intro s t related
  have changed := parallel.futures_set related (f s.futures).2
  show Except.ok (f s.futures).1 = .ok (f t.futures).1 ∧
    B { s with futures := (f s.futures).2 } { t with futures := (f t.futures).2 }
  rw [parallel.futures_eq related]
  exact ⟨rfl, changed⟩

theorem require (holds : Bool) (message : String) :
    Agree B (Action.require holds message : Action σ ν Unit) (Action.require holds message) := by
  unfold Action.require
  cases holds with
  | true => exact .pure ()
  | false => exact .bind (parallel.log _ _ _) fun _ => .stop _

omit parallel in
theorem onlyEntryPoint (r : RoutedCall) (mode : Mode) :
    Agree B (r.onlyEntryPoint mode : Action σ ν Unit) (r.onlyEntryPoint mode) := by
  unfold RoutedCall.onlyEntryPoint
  split
  · exact .pure ()
  · exact .stop _

section

variable {c : Collaborators σ ν} (handles : ∀ h call, Agree B (c.handle h call) (c.handle h call))

include handles

theorem callHandle (h : HandleId) (call : HandleCall) :
    Agree B (Action.callHandle c h call) (Action.callHandle c h call) :=
  .bind (fun _ _ related => ⟨rfl, parallel.called related (.handle h call)⟩) fun _ =>
    handles h call

theorem startOrAttach (h : HandleId) (args : List Value) :
    Agree B (startOrAttach c h args) (startOrAttach c h args) := by
  refine .bind (.observe (parallel.callHandle handles h _)) fun ending => ?_
  match ending with
  | .ok _ => exact .pure _
  | .error (.aborted e) => exact .stop _
  | .error (.stuck reason) => exact .stop _
  | .error (.thrown failure) =>
    show Agree _ (if _ then _ else _) (if _ then _ else _)
    cases failure.isOfKind .duplicateWorkflow with
    | false => exact .stop _
    | true =>
      refine .bind (parallel.callHandle handles h _) fun options => ?_
      cases permitsDuplicateStart options with
      | true => exact .stop _
      | false => exact .bind (parallel.log _ _ _) fun _ => .pure _

theorem carryOut (r : RoutedCall) : Agree B (r.carryOut c) (r.carryOut c) := by
  unfold RoutedCall.carryOut
  cases r.resolved.role with
  | entryPoint =>
    exact .bind (parallel.startOrAttach handles r.handle r.args) fun _ =>
      parallel.callHandle handles r.handle _
  | signal =>
    cases r.returns.isVoid with
    | true => exact .bind (parallel.callHandle handles r.handle _) fun _ => .pure _
    | false => exact .stop _
  | query =>
    cases r.returns.isVoid with
    | true => exact .stop _
    | false => exact parallel.callHandle handles r.handle _

theorem startOnly (r : RoutedCall) : Agree B (r.startOnly c) (r.startOnly c) :=
  .bind (onlyEntryPoint r _) fun _ => .bind (parallel.callHandle handles _ _) fun _ => .pure _

theorem startForFuture (r : RoutedCall) : Agree B (r.startForFuture c) (r.startForFuture c) :=
  .bind (onlyEntryPoint r _) fun _ => .bind (parallel.startOrAttach handles _ _) fun _ =>
    .bind (parallel.callHandle handles _ _) fun _ => .pure _

theorem send (b : Batch) : Agree B (b.send c) (b.send c) :=
  .bind (.expect _) fun r => .bind (parallel.log _ _ _) fun _ =>
    parallel.callHandle handles r.handle _

end

theorem recordInBatch {c : Collaborators σ ν}
    (batches : ∀ b call, Agree B (c.batch b call) (c.batch b call)) (r : RoutedCall)
    (batch? : Option BatchId) : Agree B (r.recordInBatch c batch?) (r.recordInBatch c batch?) := by
  have callBatch (b : BatchId) (call : BatchCall) :
      Agree B (Action.callBatch c b call) (Action.callBatch c b call) :=
    .bind (fun _ _ related => ⟨rfl, parallel.called related (.batch b call)⟩) fun _ =>
      batches b call
  refine .bind (parallel.require _ _) fun _ => ?_
  cases batch? with
  | none => exact .pure ()
  | some batch =>
    cases r.resolved.role with
    | entryPoint | signal => exact callBatch batch _
    | query => exact .stop _

end Parallel

/-! ## Runs in the same context -/

namespace SameContext

variable {B : State σ ν → State σ ν → Prop} (same : SameContext B)

include same

theorem context : Agree B (Action.context : Action σ ν _) Action.context :=
  fun _ _ related => ⟨congrArg Except.ok (same.context_eq related).symm, related⟩

theorem setContext (c : Option Context) :
    Agree B (Action.setContext c : Action σ ν Unit) (Action.setContext c) :=
  fun _ _ related => ⟨rfl, same.placed related c⟩

/-- Whatever is made of the context is made of the same one. -/
theorem changeContext (f : Option Context → Option Context) :
    Agree B (modify fun s => { s with context := f s.context } : Action σ ν Unit)
      (modify fun s => { s with context := f s.context }) := by
  intro s t related
  have placed := same.placed related (f s.context)
  refine ⟨rfl, ?_⟩
  show B { s with context := f s.context } { t with context := f t.context }
  rwa [same.context_eq related]

theorem enter (mode : Mode) (batch : Option BatchId) :
    Agree B (Action.enter mode batch : Action σ ν Unit) (Action.enter mode batch) :=
  .bind same.context fun _ => .bind (.expect _) fun _ => .bind (same.setContext _) fun _ =>
    same.log _ _ _

theorem guard (mode : Mode) (batch : Option BatchId) :
    Agree B (Guard.enter mode batch : Action σ ν Guard) (Guard.enter mode batch) :=
  .bind (same.enter mode batch) fun _ => .pure _

theorem release (g : Guard) : Agree B (g.release : Action σ ν Guard) g.release := by
  obtain ⟨active⟩ := g
  cases active with
  | true => exact .bind (same.setContext none) fun _ => .pure _
  | false => exact .pure _

theorem assign (target source : Guard) :
    Agree B (Guard.assign target source : Action σ ν _) (Guard.assign target source) :=
  .bind (same.release target) fun _ => .pure _

theorem within {x : Action σ ν α} (body : Agree B x x) (mode : Mode) (batch : Option BatchId) :
    Agree B (Guard.within mode batch x) (Guard.within mode batch x) :=
  .bind (same.guard mode batch) fun g => .bind (.observe body) fun _ =>
    .bind (same.release g) fun _ => .conclude _

theorem keep (context? : Option Context) (v : Value) :
    Agree B (RoutedCall.keep context? v : Action σ ν Unit) (RoutedCall.keep context? v) := by
  unfold RoutedCall.keep
  split
  · exact same.changeContext _
  · exact .pure ()

section

variable {c : Collaborators σ ν} (agree : c.AgreeIn B)

include agree

theorem make (r : RoutedCall) (context? : Option Context) :
    Agree B (r.make c context?) (r.make c context?) := by
  have kept (x : Action σ ν Value) (f : Value → Value) (first : Agree B x x) :
      Agree B (x >>= fun v => RoutedCall.keep context? v >>= fun _ => pure (f v))
        (x >>= fun v => RoutedCall.keep context? v >>= fun _ => pure (f v)) :=
    .bind first fun v => .bind (same.keep context? v) fun _ => .pure (f v)
  unfold RoutedCall.make
  cases Context.modeOf context? with
  | sync => exact kept _ id (same.carryOut agree.handle r)
  | start => exact kept _ (fun _ => .empty) (same.startOnly agree.handle r)
  | execute => exact kept _ (fun _ => .empty) (same.startForFuture agree.handle r)
  | signalWithStart => exact .bind (same.recordInBatch agree.batch r _) fun _ => .pure _

theorem route (router : Router) (h : HandleId) (target : Target) (args : List Value) :
    Agree B (router.route c h target args) (router.route c h target args) := by
  cases target with
  | reserved question => exact .pure _
  | undeclared description => exact .stop _
  | method i =>
    exact .bind same.context fun context? => .bind (same.changeContext _) fun _ =>
      .bind (.ofResult _) fun r => .bind (same.log _ _ _) fun _ => same.make agree r context?

theorem call (stub : Stub) (m : Member) (args : List Value) :
    Agree B (stub.call c m args) (stub.call c m args) := by
  refine .bind same.context fun context? => ?_
  show Agree B (if _ then _ else _) (if _ then _ else _)
  split
  · exact .bind (same.route agree _ _ _ _) fun _ => .expect _
  · exact .stop _

theorem start (stub : Stub) (m : Member) (args : List Value) :
    Agree B (stub.start c m args) (stub.start c m args) :=
  same.within (.bind (same.route agree _ _ _ _) fun _ => .bind same.context fun _ => .expect _) _ _

theorem execute (stub : Stub) (m : Member) (args : List Value) :
    Agree B (stub.execute c m args) (stub.execute c m args) := by
  refine same.within (.bind (same.route agree _ _ _ _) fun _ =>
    .bind (.bind same.context fun _ => .expect _) fun found => ?_) _ _
  cases found <;> exact .pure _

end

end SameContext

end WorkflowDispatch
