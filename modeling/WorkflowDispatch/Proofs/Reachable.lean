import WorkflowDispatch.Proofs.Provenance

/-!
# Reachable contexts

Whatever a thread does, and whatever the handles and the batches do while they answer, its history
stays sound and the library finds no assumption broken.  A dispatch is the one step that has to be
looked into, and there the protocol of the call says where its outcome comes from; of everything
else it is enough to know how it is put together.

    s.Sound known → EndsSound known (route c.noted h target args) s              (EndsSound.route)
    Conduct known x → s.Sound known → EndsSound known x s                (Conduct.endsSound)
-/

namespace WorkflowDispatch

open WorkflowDispatch.Action

variable {σ ν α β : Type} {known : Descriptor → Prop}

/-! ## Definitions -/

/-- The action leads to a sound state and does not find an assumption of the library broken. -/
structure EndsSound (known : Descriptor → Prop) (x : Action σ Moment α) (s : State σ Moment) :
    Prop where
  sound : (runFrom x s).2.Sound known
  lives : ∀ e, (runFrom x s).1 ≠ .error (.aborted e)

/-- The collaborators answer soundly wherever they are called soundly. -/
structure Collaborators.EndSound (known : Descriptor → Prop) (c : Collaborators σ Moment) :
    Prop where
  handle : ∀ h call s, s.Sound known → EndsSound known (c.handle h call) s
  batch : ∀ b call s, s.Sound known → EndsSound known (c.batch b call) s

/-- How an attempt to enter a context goes: refused where one is active, then refused when the
batch does not fit the mode, and nothing is changed by a refusal. -/
structure Enters (mode : Mode) (batch : Option BatchId) (s : State σ ν) : Prop where
  reentrant : s.context.isSome = true → ∃ failure : Failure, failure.isOfKind .reentrancy = true ∧
    runFrom (Action.enter mode batch) s = (.error (.thrown failure), s)
  unfit : s.context = none → ¬(batch.isSome = true ↔ mode = .signalWithStart) →
    ∃ failure : Failure, failure.isOfKind .invalidArgument = true ∧
      runFrom (Action.enter mode batch) s = (.error (.thrown failure), s)
  entered : s.context = none → (batch.isSome = true ↔ mode = .signalWithStart) →
    ∃ t, runFrom (Action.enter mode batch) s = (.ok (), t) ∧ t.context = some ⟨mode, batch, none⟩

/-! ## Collaborators between sound states -/

theorem EndsSound.of_run {x : Action σ Moment α} {s t : State σ Moment} {ending : Ending α}
    (run : runFrom x s = (ending, t)) (sound : t.Sound known)
    (lives : ∀ e, ending ≠ .error (.aborted e)) : EndsSound known x s := by
  constructor
  · rw [run]
    exact sound
  · rw [run]
    exact lives

/-- To note what was answered does no harm. -/
theorem EndsSound.noting (h : HandleId) (call : HandleCall) {x : Action σ Moment call.Answer}
    {s : State σ Moment} (answered : EndsSound known x s) :
    EndsSound known (Action.noting h call x) s := by
  have run := runFrom_noting h call x s
  obtain ⟨sound, lives⟩ := answered
  rcases inner : runFrom x s with ⟨stop | answer, t⟩
  · rw [inner] at run sound lives
    exact .of_run run sound fun e same => lives e (congrArg _ (Except.error.inj same))
  · rw [inner] at run sound
    exact .of_run run (sound.traced rfl (fun ctx look => by cases look) nofun) nofun

namespace Collaborators.EndSound

variable {c : Collaborators σ Moment}

theorem noted (back : c.EndSound known) : c.noted.EndSound known where
  handle h call s sound := (back.handle h call s sound).noting h call
  batch := back.batch

/-- A licensed call is answered soundly. -/
theorem place (back : c.EndSound known) {call : Call} (licensed : call.Licensed known)
    {s : State σ Moment} (sound : s.Sound known) : EndsSound known (call.place c) s := by
  have asked := sound.asked licensed
  cases call with
  | handle h call => exact ⟨(back.handle h call _ asked).sound, (back.handle h call _ asked).lives⟩
  | batch b call => exact ⟨(back.batch b call _ asked).sound, (back.batch b call _ asked).lives⟩

end Collaborators.EndSound

/-- A talk of licensed calls leads to a sound state, and nobody ends everything in it. -/
theorem Talk.sound {c : Collaborators σ Moment} (back : c.EndSound known) {s t : State σ Moment}
    {turns : List Turn} (talk : Talk c s turns t) (dispatch : OnlyDispatch turns)
    (licensed : ∀ call ∈ callsOf turns, call.Licensed known) (sound : s.Sound known) :
    t.Sound known ∧ ∀ call e, .asked call (.error (.aborted e)) ∉ turns := by
  induction talk with
  | done s => exact ⟨sound, fun _ _ => List.not_mem_nil⟩
  | @logged s _ turns line rest ih =>
    have category : line.category = .dispatch := dispatch line List.mem_cons_self
    have logged : State.Sound known { s with trace := s.trace ++ [.log line] } :=
      sound.logged (by rw [category]; decide)
    obtain ⟨reached, lives⟩ :=
      ih (fun l later => dispatch l (List.mem_cons_of_mem _ later)) licensed logged
    refine ⟨reached, fun call e ended => ?_⟩
    rcases List.mem_cons.1 ended with this | later
    · cases this
    · exact lives call e later
  | @asked s u _ turns call ending answered rest ih =>
    have first : EndsSound known (call.place c) s :=
      back.place (licensed call List.mem_cons_self) sound
    have between : u.Sound known := by
      have sound := first.sound
      rwa [answered] at sound
    obtain ⟨reached, lives⟩ := ih (fun l later => dispatch l (List.mem_cons_of_mem _ later))
      (fun call later => licensed call (List.mem_cons_of_mem _ later)) between
    refine ⟨reached, fun asked e ended => ?_⟩
    rcases List.mem_cons.1 ended with this | later
    · cases this
      exact first.lives e (congrArg Prod.fst answered)
    · exact lives asked e later

/-! ## What a thread does, step by step -/

/-- What a call in a context leaves there was answered in that context. -/
theorem State.Sound.holding {c : Collaborators σ Moment} {s t : State σ Moment} {r : RoutedCall}
    {turns : List Turn} {outcome : Ending Value}
    (leaves : s.context.isSome = true → c.Keep LeavesOpen)
    (protocol : Protocol r (s.context.bind Context.batch) (Context.modeOf s.context)
      r.resolved.role turns outcome)
    (talk : Talk c.noted (r.begun s) turns t) (reached : t.Sound known) :
    (t.holding s.context outcome).Sound known := by
  rcases outcome with stop | v
  · exact reached
  cases holds : Context.holdsOutcomes s.context with
  | false =>
    have same : t.holding s.context (.ok v) = t := by simp [State.holding, holds]
    rw [same]
    exact reached
  | true =>
    rw [Context.holdsOutcomes_eq, Bool.and_eq_true, bne_iff_ne] at holds
    obtain ⟨open_, plain⟩ := holds
    have keeps := LeavesOpen.noted (leaves open_)
    obtain ⟨ctx, active⟩ := Option.isSome_iff_exists.1 open_
    have mode : Context.modeOf s.context = ctx.mode := by rw [active]; rfl
    obtain ⟨call, before, answer, own, rfl, rfl⟩ := protocol.own_turn plain
    obtain ⟨u, first, last⟩ := talk.of_append
    -- The context is open all the while, up to the last answer.
    have begun : (r.begun s).context = some ctx.forgetOutcome := by
      show s.context.map _ = _
      rw [active]
      rfl
    have dispatch := protocol.onlyDispatch
    obtain ⟨held, between⟩ := (first.leavesOpen keeps fun l logged =>
      dispatch l (List.mem_append_left _ logged)).opened _ begun
    obtain ⟨held', still⟩ := (talk.leavesOpen keeps dispatch).opened _ begun
    have noted := answered_of_run (leaves open_) (by rw [between]; rfl) last.of_single
    have same : t.holding s.context (.ok (call.value answer)) =
        { t with context := t.context.map (Context.keepOutcome (call.value answer)) } := by
      have holds : Context.holdsOutcomes s.context = true := by
        rw [Context.holdsOutcomes_eq, open_, Bool.true_and, bne_iff_ne]
        exact plain
      simp [State.holding, holds]
    rw [same]
    refine reached.kept fun now found => ?_
    rw [still] at found
    obtain rfl := Option.some.inj found
    rw [mode] at own
    exact ⟨r.handle, call, answer, HandleCall.givesOutcome_of_own own, rfl, noted⟩

theorem isSome_of_entered {mode : Mode} {batch : Option BatchId} {s t : State σ ν}
    (entered : runFrom (Action.enter mode batch : Action σ ν Unit) s = (.ok (), t)) :
    t.context.isSome = true := by
  rcases enter_cases mode batch s with ⟨failure, refused⟩ | ⟨ctx, -, opened⟩
  · cases refused.symm.trans entered
  · obtain ⟨-, rfl⟩ := Prod.mk.inj (opened.symm.trans entered)
    rfl

namespace EndsSound

variable {s : State σ Moment}

theorem pure (sound : s.Sound known) (v : α) : EndsSound known (Pure.pure v) s :=
  .of_run (runFrom_pure v s) sound nofun

theorem fail (sound : s.Sound known) (failure : Failure) :
    EndsSound known (Action.fail failure : Action σ Moment α) s :=
  .of_run (runFrom_fail failure s) sound nofun

theorem expect (sound : s.Sound known) {ε : Type} [Cause ε] (x : Except ε α) :
    EndsSound known (Action.expect x : Action σ Moment α) s := by
  cases x with
  | ok v => exact pure sound v
  | error cause => exact fail sound _

theorem bind {x : Action σ Moment α} {f : α → Action σ Moment β} (first : EndsSound known x s)
    (next : ∀ v t, t.Sound known → EndsSound known (f v) t) : EndsSound known (x >>= f) s := by
  have run := runFrom_bind x f s
  obtain ⟨sound, lives⟩ := first
  rcases ran : runFrom x s with ⟨stop | v, t⟩
  · rw [ran] at run sound lives
    exact .of_run run sound fun e same => lives e (congrArg _ (Except.error.inj same))
  · rw [ran] at run sound
    exact .of_run run (next v t sound).sound (next v t sound).lives

theorem attempt {x : Action σ Moment α} (body : EndsSound known x s) :
    EndsSound known (Action.attempt x) s := by
  have run := runFrom_attempt x s
  obtain ⟨sound, lives⟩ := body
  rcases ran : runFrom x s with ⟨(failure | e | reason) | v, t⟩
  · rw [ran] at run sound
    exact .of_run run sound nofun
  · rw [ran] at lives
    exact absurd rfl (lives e)
  · rw [ran] at run sound
    exact .of_run run sound nofun
  · rw [ran] at run sound
    exact .of_run run sound nofun

theorem look (sound : s.Sound known) : EndsSound known Action.look s := by
  have shown : State.Sound known { s with trace := s.trace ++ [.note (.seen s.context)] } :=
    sound.traced rfl (fun ctx same => by simpa using same) nofun
  exact .of_run rfl shown nofun

/-- A context that was just entered holds nothing. -/
theorem enter (sound : s.Sound known) (mode : Mode) (batch : Option BatchId) :
    EndsSound known (Action.enter mode batch) s := by
  have run := runFrom_enter mode batch s
  cases entering : Context.enter? s.context mode batch with
  | error e =>
    rw [entering] at run
    exact .of_run run sound nofun
  | ok ctx =>
    rw [entering] at run
    obtain ⟨-, fits, nothing⟩ := Context.of_enter?_eq_ok entering
    refine .of_run (run.trans (runFrom_log ..)) ?_ nofun
    refine ⟨fun entered active => ?_, fun before shown noted => ?_, fun call made => ?_⟩
    · obtain rfl := Option.some.inj active
      refine ⟨fits, fun v held => ?_⟩
      rw [nothing] at held
      cases held
    · rcases List.prefix_concat_iff.1 noted with last | earlier
      · cases List.head_eq_of_cons_eq (List.append_inj' last rfl).2
      · exact sound.seen before shown earlier
    · rw [calls_logged] at made
      exact sound.called call made

/-- A context that is opened for one action is active when that begins. -/
theorem within {x : Action σ Moment α} (mode : Mode) (batch : Option BatchId)
    (sound : s.Sound known)
    (body : ∀ t, t.Sound known → t.context.isSome = true → EndsSound known x t) :
    EndsSound known (Guard.within mode batch x) s := by
  have opening := enter sound mode batch
  have run := runFrom_within mode batch x s
  rcases entered : runFrom (Action.enter mode batch) s with ⟨stop | _, t⟩
  · rw [entered] at run
    obtain ⟨sound, lives⟩ := opening
    rw [entered] at sound lives
    exact .of_run run sound fun e same => lives e (congrArg _ (Except.error.inj same))
  · rw [entered] at run
    have between := opening.sound
    rw [entered] at between
    obtain ⟨reached, lives⟩ := body t between (isSome_of_entered entered)
    exact .of_run run reached.closed lives

theorem release (sound : s.Sound known) (g : Guard) :
    EndsSound known (g.release : Action σ Moment Guard) s := by
  obtain ⟨active⟩ := g
  cases active with
  | false => exact .of_run rfl sound nofun
  | true => exact .of_run rfl sound.closed nofun

section

variable {c : Collaborators σ Moment} (back : c.EndSound known)

include back

/-- A call is carried out soundly, whatever the handles and the batches do meanwhile. -/
theorem route (leaves : s.context.isSome = true → c.Keep LeavesOpen) (sound : s.Sound known)
    {router : Router} (declared : known router.descriptor) (h : HandleId) (target : Target)
    (args : List Value) : EndsSound known (router.route c.noted h target args) s := by
  cases target with
  | reserved question => exact pure sound (question.answer h)
  | undeclared description => exact fail sound _
  | method i =>
    have entered : ∀ ctx ∈ s.context, ctx.Entered :=
      fun ctx active => ctx.entered_iff.2 (sound.active ctx active).batch_iff
    obtain ⟨e, t, -, run, rfl | ⟨r, rfl⟩⟩ | ⟨r, turns, outcome, t, unopposed, routed, protocol,
      talk, run⟩ := route_method_runs c.noted router h i args (Context.batch_of_entered entered)
    · exact .of_run run sound.forgotten nofun
    · exact .of_run run (sound.begun r) nofun
    · rw [objection?_of_routedCall_ok routed] at unopposed
      have accepted := (Mode.objection?_eq_none _ _ _ _).1 unopposed
      have licensed := protocol.licensed declared routed accepted
      obtain ⟨reached, lives⟩ :=
        talk.sound back.noted protocol.onlyDispatch licensed (sound.begun r)
      refine .of_run run (.holding leaves protocol talk reached) fun e ended => ?_
      -- The call itself ends everything only if somebody did whom it asked.
      rcases outcome with stop | v
      · rw [Mode.returned_error] at ended
        obtain ⟨call, asked⟩ := protocol.stop_turn
        rw [Except.error.inj ended] at asked
        exact lives call e asked
      · rw [Mode.returned_ok] at ended
        cases ended

theorem call (leaves : s.context.isSome = true → c.Keep LeavesOpen) (sound : s.Sound known)
    {stub : Stub} (declared : known stub.descriptor) (m : Member) (args : List Value) :
    EndsSound known (stub.call c.noted m args) s := by
  have run := runFrom_call c.noted stub m args s
  split at run
  · have untyped : EndsSound known (stub.untypedCall c.noted m args) s :=
      route back leaves sound declared stub.handle _ args
    have whole : EndsSound known (stub.untypedCall c.noted m args >>= fun v =>
        Action.expect (stub.typedAnswer m.signature.returns (Context.modeOf s.context) v)) s :=
      bind untyped fun v t sound => expect sound _
    exact .of_run run whole.sound whole.lives
  · exact .of_run run sound nofun

theorem start (leaves : c.Keep LeavesOpen) (sound : s.Sound known) {stub : Stub}
    (declared : known stub.descriptor) (m : Member) (args : List Value) :
    EndsSound known (stub.start c.noted m args) s := by
  refine within .start none sound fun t sound _ => ?_
  refine bind (route back (fun _ => leaves) sound declared _ _ _) fun v t sound => ?_
  exact bind (.of_run rfl sound nofun) fun ctx t sound => expect sound _

theorem execute (leaves : c.Keep LeavesOpen) (sound : s.Sound known) {stub : Stub}
    (declared : known stub.descriptor) (m : Member) (args : List Value) :
    EndsSound known (stub.execute c.noted m args) s := by
  refine within .execute none sound fun t sound _ => ?_
  refine bind (route back (fun _ => leaves) sound declared _ _ _) fun v t sound => ?_
  have outcome : EndsSound known (Action.currentOutcomeAs .future) t :=
    bind (.of_run rfl sound nofun) fun ctx t sound => expect sound _
  refine bind outcome fun v t sound => ?_
  split
  · exact pure sound _
  · exact pure sound _

omit back in
theorem send (handles : ∀ h call s, s.Sound known → EndsSound known (c.handle h call) s)
    (sound : s.Sound known) (b : Batch) : EndsSound known (b.send c.noted) s := by
  refine bind (expect sound b.request) fun r t sound => ?_
  have logged : EndsSound known
      (Action.log .dispatch .debug ("signalWithStart '" ++ r.name ++ "'")) t :=
    .of_run (runFrom_log ..) (sound.logged nofun) nofun
  refine bind logged fun _ u sound => ?_
  let both : HandleCall := .signalWithStart r.name r.signalArgs r.startArgs
  have licensed : Call.Licensed known (.handle r.handle both) := trivial
  have answered := (handles r.handle both _ (sound.asked licensed)).noting r.handle
  exact ⟨answered.sound, answered.lives⟩

end

end EndsSound

/-! ## Runs -/

/-- Whatever a thread does, in whatever order, its contexts stay sound. -/
theorem Conduct.endsSound {x : Action σ Moment α} (conduct : Conduct known x)
    {s : State σ Moment} (sound : s.Sound known) : EndsSound known x s := by
  -- The collaborators of a call are conduct themselves, so that what they keep is an induction
  -- hypothesis, at whatever depth.
  induction conduct generalizing s with
  | pure v => exact .pure sound v
  | bind _ _ first next => exact .bind (first sound) fun v t reached => next v reached
  | fail failure => exact .fail sound failure
  | stuck reason => exact .of_run rfl sound nofun
  | attempt _ body => exact .attempt (body sound)
  | outside f => exact .of_run rfl (sound.of_same rfl rfl) nofun
  | futures f => exact .of_run rfl (sound.of_same rfl rfl) nofun
  | look => exact .look sound
  | enter mode batch => exact .enter sound mode batch
  | exit => exact .of_run rfl sound.closed nofun
  | guard mode batch => exact .bind (.enter sound mode batch) fun _ t reached => .pure reached _
  | release g => exact .release sound g
  | assign target source => exact .bind (.release sound target) fun _ t reached => .pure reached _
  | @route c _ _ leaves router declared h target args handles batches =>
    have back : (c s.context.isSome).EndSound known :=
      ⟨fun h call s sound => handles _ h call sound, fun b call s sound => batches _ b call sound⟩
    have keeps (open_ : s.context.isSome = true) : (c s.context.isSome).Keep LeavesOpen :=
      open_.symm ▸ leaves
    have routed := EndsSound.route back keeps sound declared h target args
    exact .of_run (runFrom_inContext _ s) routed.sound routed.lives
  | @call c _ _ leaves stub declared m args handles batches =>
    have back : (c s.context.isSome).EndSound known :=
      ⟨fun h call s sound => handles _ h call sound, fun b call s sound => batches _ b call sound⟩
    have keeps (open_ : s.context.isSome = true) : (c s.context.isSome).Keep LeavesOpen :=
      open_.symm ▸ leaves
    have called := EndsSound.call back keeps sound declared m args
    exact .of_run (runFrom_inContext _ s) called.sound called.lives
  | start _ _ leaves declared m args handles batches =>
    have back := Collaborators.EndSound.mk (fun h call s sound => handles h call sound)
      (fun b call s sound => batches b call sound)
    exact .start back leaves sound declared m args
  | execute _ _ leaves declared m args handles batches =>
    have back := Collaborators.EndSound.mk (fun h call s sound => handles h call sound)
      (fun b call s sound => batches b call sound)
    exact .execute back leaves sound declared m args
  | add batch _ body => exact .within _ _ sound fun t reached _ => body reached
  | send _ b handles => exact .send (fun h call s sound => handles h call sound) sound b

/-! ## Entering -/

theorem enters (mode : Mode) (batch : Option BatchId) (s : State σ ν) : Enters mode batch s := by
  have run := runFrom_enter mode batch s
  constructor
  · intro active
    obtain ⟨ctx, active⟩ := Option.isSome_iff_exists.1 active
    rw [active] at run
    exact ⟨_, Cause.isOfKind_toFailure (ContextError.alreadyActive mode ctx.mode), run⟩
  · intro closed misfit
    rw [closed] at run
    by_cases batched : mode = .signalWithStart
    · have missing : batch = none := by simpa [batched] using misfit
      rw [batched, missing] at run ⊢
      exact ⟨_, Cause.isOfKind_toFailure ContextError.batchMissing, run⟩
    · have given : batch.isSome = true := by
        simpa [batched, Option.isSome_iff_ne_none] using misfit
      have refused : Context.enter? none mode batch = .error .batchRefused := by
        simp [Context.enter?, batched, given]
      rw [refused] at run
      exact ⟨_, Cause.isOfKind_toFailure ContextError.batchRefused, run⟩
  · intro closed fits
    have opened : Context.enter? s.context mode batch = .ok ⟨mode, batch, none⟩ := by
      rw [closed]
      by_cases batched : mode = .signalWithStart
      · simp [Context.enter?, batched, fits.2 batched]
      · have without : batch = none := by simpa [batched] using fits
        simp [Context.enter?, batched, without]
    rw [opened] at run
    exact ⟨_, run.trans (runFrom_log ..), rfl⟩

/-! ## A start that is looked at -/

/-- Handles that look at the context while they start, and which have nothing else to tell. -/
def looking : Collaborators Unit Moment where
  handle _
    | .start _ => do
      let _ ← look
      return ⟨"greeter-1", "run-1"⟩
    | _ => Action.fail (.logic "not expected")
  batch _ _ := pure ()
  declare type := pure ⟨type.name, type, .empty, []⟩

theorem looking_leaves : looking.Keep LeavesOpen where
  handle h call s := by
    cases call with
    | start args => exact .traced s rfl
    | signal | query | getResult | getResultAsync | signalWithStart | getOptions => exact .refl s
  batch b call s := .refl s

theorem looking_conduct (h : HandleId) (call : HandleCall) :
    Conduct known (looking.handle h call) := by
  cases call with
  | start args => exact .bind .look fun _ => .pure _
  | signal | query | getResult | getResultAsync | signalWithStart | getOptions => exact .fail _

/-- A greeting is started and the context looked at. -/
def lookedAt : Action Unit Moment (Option Context) := do
  Action.enter .start none
  let _ ← inContext fun _ => Router.route looking.noted ⟨greeter⟩ ⟨1, "ann"⟩ (.method 0) []
  look

theorem lookedAt_conduct : Conduct (· = greeter) lookedAt := by
  refine .bind (.enter .start none) fun _ => .bind ?_ fun _ => .look
  have batches (b : BatchId) (call : BatchCall) : Conduct (· = greeter) (looking.batch b call) :=
    .pure ()
  have declared : Router.descriptor ⟨greeter⟩ = greeter := rfl
  exact .route (c := fun _ => looking) (fun _ => looking_conduct) (fun _ => batches)
    looking_leaves declared ⟨1, "ann"⟩ (.method 0) []

/-! ## Top theorem -/

/-- **Reachable contexts are well formed.**  A thread enters and leaves contexts, moves guards and
makes calls in any order, and so do the handles and the batches while they answer.  Every context
that anybody sees, and the one in the end, has a batch exactly when its mode asks for one, and holds
nothing that was not answered in it.  The library finds no assumption broken, and a context that
cannot be entered changes nothing. -/
theorem reachable_contexts_wellFormed {x : Action σ Moment α} (conduct : Conduct known x)
    {s : State σ Moment} (closed : s.context = none) (fresh : s.trace = []) :
    (∀ before ctx, before ++ [.note (.seen (some ctx))] <+: (runFrom x s).2.trace →
      ctx.WellFormed before) ∧
    (∀ ctx ∈ (runFrom x s).2.context, ctx.WellFormed (runFrom x s).2.trace) ∧
    (∀ e, (runFrom x s).1 ≠ .error (.aborted e)) ∧
    ∀ mode batch (t : State σ Moment), Enters mode batch t := by
  have ends := conduct.endsSound (.initial closed fresh)
  refine ⟨fun before ctx seen => ?_, fun ctx active => ?_, ends.lives, enters⟩
  · exact (ends.sound.seen before ctx seen).wellFormed
  · exact (ends.sound.active ctx active).wellFormed

/-- The execution that the context holds is the one that the handle answered in it. -/
theorem lookedAt_wellFormed :
    let run := runFrom lookedAt (State.initial ())
    let ctx : Context := ⟨.start, none, some (.execution ⟨"greeter-1", "run-1"⟩)⟩
    run.2.context = some ctx ∧ ctx.WellFormed run.2.trace ∧
      ∃ failure : Failure, failure.isOfKind .reentrancy = true ∧
        runFrom (Action.enter .sync none) run.2 = (.error (.thrown failure), run.2) := by
  intro run ctx
  have held : run.2.context = some ctx := rfl
  obtain ⟨-, active, -, again⟩ :=
    reachable_contexts_wellFormed lookedAt_conduct (s := State.initial ()) rfl rfl
  exact ⟨held, active ctx held, (again .sync none run.2).reentrant rfl⟩

end WorkflowDispatch
