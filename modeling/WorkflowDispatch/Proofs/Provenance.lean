import WorkflowDispatch.Proofs.Conduct
import WorkflowDispatch.Proofs.EarlierOutcome
import WorkflowDispatch.Proofs.Nesting

/-!
# The provenance of outcomes

Where the outcome that a context holds comes from, and the signals that a thread sends.  An outcome
was answered by a handle to a call that was made while this context was active.  A signal is one
that a known interface declares, and unless it is recorded it is declared to return nothing.
`State.Sound` says so of a whole history, and what is added to a history keeps it.

    ctx.Sound trace → ctx.WellFormed trace                              (Context.Sound.wellFormed)
    mode.accepts … → Protocol … turns outcome → its calls are licensed     (Protocol.licensed)
-/

namespace WorkflowDispatch

open WorkflowDispatch.Action

variable {σ ν : Type} {known : Descriptor → Prop}

/-! ## Definitions -/

/-- A context that is as it should be, given the history up to now: what it holds was answered while
it was active, by the handle that was asked for it. -/
structure Context.WellFormed (trace : List (Event Moment)) (ctx : Context) : Prop where
  batch_iff : ctx.batch.isSome = true ↔ ctx.mode = .signalWithStart
  batch_holds_nothing : ctx.mode = .signalWithStart → ctx.held = none
  start_holds_execution : ctx.mode = .start → ∀ v ∈ ctx.held, ∃ h args e,
    v = .execution e ∧ .note (.answered (some (openings trace)) h (.start args) e) ∈ trace
  execute_holds_future : ctx.mode = .execute → ∀ v ∈ ctx.held, ∃ h type f,
    v = .future f ∧ .note (.answered (some (openings trace)) h (.getResultAsync type) f) ∈ trace

/-- Whether the answer to the call is the outcome of calls in the mode. -/
def HandleCall.givesOutcome : HandleCall → Mode → Bool
  | .getResult _, .sync | .signal .., .sync | .query .., .sync => true
  | .start _, .start => true
  | .getResultAsync _, .execute => true
  | _, _ => false

/-- The value was answered to a call that gives outcomes in the mode, and the call was made in the
context that was opened last. -/
def AnsweredIn (trace : List (Event Moment)) (mode : Mode) (v : Value) : Prop :=
  ∃ h call answer, HandleCall.givesOutcome call mode = true ∧ v = call.value answer ∧
    .note (.answered (some (openings trace)) h call answer) ∈ trace

/-- The same for all modes at once, as each step keeps it. -/
structure Context.Sound (trace : List (Event Moment)) (ctx : Context) : Prop where
  batch_iff : ctx.batch.isSome = true ↔ ctx.mode = .signalWithStart
  held : ∀ v ∈ ctx.held, AnsweredIn trace ctx.mode v

/-- One of the known interfaces has a signal of this name that is declared to return this. -/
def DeclaresSignal (known : Descriptor → Prop) (name : String) (returns : ValueType) : Prop :=
  ∃ d, known d ∧ ∃ entry ∈ d.methods, entry.resolved = some ⟨.signal, name⟩ ∧
    entry.returns = returns

/-- A signal that is sent is declared, as one that returns nothing.  Of one that is recorded the
declared type is not looked at. -/
def Call.Licensed (known : Descriptor → Prop) : Call → Prop
  | .handle _ (.signal name _) => DeclaresSignal known name .void
  | .batch _ (.signal _ name _) => ∃ returns, DeclaresSignal known name returns
  | _ => True

/-- A thread whose context is sound, as were all that were seen before, and which sent declared
signals only. -/
structure State.Sound (known : Descriptor → Prop) (s : State σ Moment) : Prop where
  active : ∀ ctx ∈ s.context, ctx.Sound s.trace
  seen : ∀ before ctx, before ++ [.note (.seen (some ctx))] <+: s.trace → ctx.Sound before
  called : ∀ call ∈ s.calls, call.Licensed known

/-! ## Histories that grow -/

theorem HandleCall.givesOutcome_of_own {r : RoutedCall} {mode : Mode} {call : HandleCall}
    (own : r.ownCall? mode = some call) : call.givesOutcome mode = true := by
  cases mode with
  | sync =>
    cases role : r.resolved.role with
    | entryPoint | signal | query =>
      simp only [RoutedCall.ownCall?, role] at own
      rw [← Option.some.inj own]
      rfl
  | start | execute =>
    have same := Option.some.inj own
    rw [← same]
    rfl
  | signalWithStart => cases own

theorem AnsweredIn.traced {trace : List (Event Moment)} {mode : Mode} {v : Value}
    (answered : AnsweredIn trace mode v) {e : Event Moment} (other : e.opens = false) :
    AnsweredIn (trace ++ [e]) mode v := by
  obtain ⟨h, call, answer, gives, value, noted⟩ := answered
  refine ⟨h, call, answer, gives, value, ?_⟩
  rw [openings_traced trace other]
  exact List.mem_append_left [e] noted

theorem Context.Sound.wellFormed {trace : List (Event Moment)} {ctx : Context}
    (sound : ctx.Sound trace) : ctx.WellFormed trace where
  batch_iff := sound.batch_iff
  batch_holds_nothing mode := by
    cases held : ctx.held with
    | none => rfl
    | some v =>
      obtain ⟨h, call, answer, gives, -⟩ := sound.held v held
      rw [mode] at gives
      cases call <;> cases gives
  start_holds_execution mode v held := by
    obtain ⟨h, call, answer, gives, value, noted⟩ := sound.held v held
    rw [mode] at gives
    cases call with
    | start args => exact ⟨h, args, answer, value, noted⟩
    | signal | query | getResult | getResultAsync | signalWithStart | getOptions => cases gives
  execute_holds_future mode v held := by
    obtain ⟨h, call, answer, gives, value, noted⟩ := sound.held v held
    rw [mode] at gives
    cases call with
    | getResultAsync type => exact ⟨h, type, answer, value, noted⟩
    | start | signal | query | getResult | signalWithStart | getOptions => cases gives

namespace State.Sound

variable {s : State σ Moment}

/-- A thread of which nothing is known yet. -/
theorem initial (closed : s.context = none)
    (fresh : s.trace = []) : s.Sound known where
  active ctx found := by
    rw [closed] at found
    cases found
  seen before ctx noted := by
    rw [fresh] at noted
    have empty := List.prefix_nil.1 noted
    simp at empty
  called call made := by
    unfold State.calls at made
    rw [fresh] at made
    cases made

/-- An event is added that opens no context; a look shows the context that is active. -/
theorem traced (sound : s.Sound known) {e : Event Moment} (other : e.opens = false)
    (shows : ∀ ctx, e = .note (.seen (some ctx)) → ctx ∈ s.context)
    (licensed : ∀ call ∈ e.call?, call.Licensed known) :
    State.Sound known { s with trace := s.trace ++ [e] } where
  active ctx found :=
    have was := sound.active ctx found
    ⟨was.batch_iff, fun v held => (was.held v held).traced other⟩
  seen before ctx noted := by
    rcases List.prefix_concat_iff.1 noted with last | earlier
    · obtain ⟨same, look⟩ := List.append_inj' last rfl
      obtain rfl := same
      have active := shows ctx (List.head_eq_of_cons_eq look).symm
      exact sound.active ctx active
    · exact sound.seen before ctx earlier
  called call made := by
    rw [calls_traced] at made
    rcases List.mem_append.1 made with earlier | last
    · exact sound.called call earlier
    · exact licensed call (Option.mem_toList.1 last)

theorem logged (sound : s.Sound known) {line : LogLine} (other : line.category ≠ .context) :
    State.Sound known { s with trace := s.trace ++ [.log line] } :=
  sound.traced (by simp [Event.opens, other]) (fun ctx look => by cases look)
    (fun call made => by cases made)

theorem asked (sound : s.Sound known) {call : Call} (licensed : call.Licensed known) :
    State.Sound known { s with trace := s.trace ++ [call.event] } := by
  refine sound.traced call.opens_event (fun ctx look => ?_) fun made found => ?_
  · cases call <;> cases look
  · have same : call = made := by cases call <;> exact Option.some.inj found
    exact same ▸ licensed

theorem forgotten (sound : s.Sound known) : s.forgotten.Sound known where
  active ctx found := by
    obtain ⟨was, active, rfl⟩ := Option.map_eq_some_iff.1 found
    exact ⟨(sound.active was active).batch_iff, fun v held => by cases held⟩
  seen := sound.seen
  called := sound.called

theorem begun (sound : s.Sound known) (r : RoutedCall) : (r.begun s).Sound known :=
  sound.forgotten.logged nofun

/-- Nothing is known of a thread without a context but its past. -/
theorem closed (sound : s.Sound known) : State.Sound known { s with context := none } where
  active ctx found := by cases found
  seen := sound.seen
  called := sound.called

/-- Nothing else of the state matters. -/
theorem of_same (sound : s.Sound known) {t : State σ Moment} (context : t.context = s.context)
    (trace : t.trace = s.trace) : t.Sound known where
  active ctx found := by
    rw [trace]
    exact sound.active ctx (context ▸ found)
  seen before ctx noted := sound.seen before ctx (trace ▸ noted)
  called call made := by
    unfold State.calls at made
    rw [trace] at made
    exact sound.called call made

/-- An outcome is held that the handle answered in this context. -/
theorem kept (sound : s.Sound known) {v : Value}
    (answered : ∀ ctx ∈ s.context, AnsweredIn s.trace ctx.mode v) :
    State.Sound known { s with context := s.context.map (Context.keepOutcome v) } where
  active ctx found := by
    obtain ⟨was, active, rfl⟩ := Option.map_eq_some_iff.1 found
    refine ⟨(sound.active was active).batch_iff, fun held kept => ?_⟩
    obtain rfl := Option.some.inj kept
    exact answered was active
  seen := sound.seen
  called := sound.called

end State.Sound

/-- The answer is noted with the context that is still active. -/
theorem answered_of_run {c : Collaborators σ Moment} (leaves : c.Keep LeavesOpen) {h : HandleId}
    {call : HandleCall} {answer : call.Answer} {s t : State σ Moment}
    (active : s.context.isSome = true)
    (ran : runFrom (callHandle c.noted h call) s = (.ok answer, t)) :
    .note (.answered (some (openings t.trace)) h call answer) ∈ t.trace := by
  let asked : State σ Moment := { s with trace := s.trace ++ [.handleCall h call] }
  have number : asked.activeNumber = some (openings asked.trace) := by
    obtain ⟨ctx, active⟩ := Option.isSome_iff_exists.1 active
    show s.context.map _ = _
    rw [active]
    rfl
  have stays : openings (runFrom (c.handle h call) asked).2.trace = openings asked.trace :=
    (leaves.handle h call asked).number active
  replace ran : runFrom (noting h call (c.handle h call)) asked = (.ok answer, t) := ran
  rw [runFrom_noting] at ran
  rcases inner : runFrom (c.handle h call) asked with ⟨stop | same, u⟩
  · simp [inner] at ran
  · rw [inner] at ran stays
    obtain ⟨rfl, rfl⟩ : same = answer ∧ _ = t := by simpa using ran
    have now : openings (u.trace ++ [.note (.answered asked.activeNumber h call same)]) =
        openings asked.trace := (openings_traced u.trace rfl).trans stays
    show Event.note (Moment.answered (some (openings (_ ++ _))) h call same) ∈ _ ++ _
    rw [now, ← number]
    exact List.mem_append_right _ List.mem_cons_self

/-! ## Calls of known interfaces -/

theorem declaresSignal_of_routedCall {d : Descriptor} (declared : known d) {h : HandleId}
    {i : Nat} {args : List Value} {r : RoutedCall} (routed : d.routedCall h i args = .ok r)
    (signal : r.resolved.role = .signal) : DeclaresSignal known r.resolved.name r.returns := by
  obtain ⟨entry, ⟨role, name⟩, found, resolved, rfl⟩ := of_routedCall_eq_ok routed
  obtain rfl : role = .signal := signal
  exact ⟨d, declared, entry, List.mem_of_getElem? found, resolved, rfl⟩

theorem Attaching.licensed {h : HandleId} {args : List Value} {turns : List Turn}
    {ending : Ending StartResult} (attaching : Attaching h args turns ending) :
    ∀ call ∈ callsOf turns, call.Licensed known := by
  intro call made
  cases attaching with
  | started | failed =>
    obtain rfl : call = .handle h (.start args) := by simpa using made
    exact trivial
  | undecided | refused | attached =>
    obtain rfl | rfl : call = .handle h (.start args) ∨ call = .handle h .getOptions := by
      simpa using made
    · exact trivial
    · exact trivial

/-- A call that its mode accepts sends declared signals only. -/
theorem Protocol.licensed {d : Descriptor} (declared : known d) {h : HandleId} {i : Nat}
    {args : List Value} {r : RoutedCall} (routed : d.routedCall h i args = .ok r)
    {batch : Option BatchId} {mode : Mode}
    (accepted : mode.accepts r.resolved.role r.returns = true) {turns : List Turn}
    {outcome : Ending Value} (protocol : Protocol r batch mode r.resolved.role turns outcome) :
    ∀ call ∈ callsOf turns, call.Licensed known := by
  intro call made
  generalize role : r.resolved.role = played at protocol accepted
  cases protocol with
  | result _ attaching | future _ attaching =>
    rw [callsOf_append] at made
    rcases List.mem_append.1 made with before | last
    · exact attaching.licensed call before
    · obtain rfl := List.mem_singleton.1 last
      exact trivial
  | noResult attaching | noFuture attaching => exact attaching.licensed call made
  | signal =>
    obtain rfl := List.mem_singleton.1 made
    have signal := declaresSignal_of_routedCall declared routed role
    have void : r.returns = .void := by simpa [Mode.accepts, ValueType.isVoid] using accepted
    rwa [void] at signal
  | recordSignal =>
    obtain rfl := List.mem_singleton.1 made
    exact ⟨r.returns, declaresSignal_of_routedCall declared routed role⟩
  | query | start | recordStart =>
    obtain rfl := List.mem_singleton.1 made
    exact trivial

theorem Attaching.stop_turn {h : HandleId} {args : List Value} {turns : List Turn} {stop : Stop}
    (attaching : Attaching h args turns (.error stop)) :
    ∃ call, .asked call (.error stop) ∈ turns := by
  cases attaching with
  | failed | refused => exact ⟨_, List.mem_cons_self⟩
  | undecided => exact ⟨_, List.mem_cons_of_mem _ List.mem_cons_self⟩

/-- A call fails only as somebody that it asked did. -/
theorem Protocol.stop_turn {r : RoutedCall} {batch : Option BatchId} {mode : Mode} {role : Role}
    {turns : List Turn} {stop : Stop}
    (protocol : Protocol r batch mode role turns (.error stop)) :
    ∃ call, .asked call (.error stop) ∈ turns := by
  generalize ended : (.error stop : Ending Value) = ending at protocol
  cases protocol with
  | result =>
    subst ended
    exact ⟨_, List.mem_append_right _ List.mem_cons_self⟩
  | query =>
    subst ended
    exact ⟨_, List.mem_cons_self⟩
  | noResult attaching | noFuture attaching =>
    obtain rfl := Except.error.inj ended
    exact attaching.stop_turn
  | future answer =>
    rcases answer with other | f
    · obtain rfl := Except.error.inj ended
      exact ⟨_, List.mem_append_right _ List.mem_cons_self⟩
    · cases ended
  | signal answer | start answer | recordStart _ answer | recordSignal _ answer =>
    rcases answer with other | v
    · obtain rfl := Except.error.inj ended
      exact ⟨_, List.mem_cons_self⟩
    · cases ended

end WorkflowDispatch
