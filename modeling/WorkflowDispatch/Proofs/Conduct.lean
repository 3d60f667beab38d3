import WorkflowDispatch.Proofs.Reentry

/-!
# The conduct of a thread

What a thread may do with contexts, guards and calls, in any order and to any depth, and what the
handles and batches may do while they answer.  `Conduct known x` says that `x` is built from that,
with interfaces that `known` tells.  The trace is the history of the thread: it shows each opening
of a context, since that is logged, each call, and in notes what was answered and what was seen of
the context.  Contexts are numbered in the order in which they are opened.

    c.Keep LeavesOpen → c.noted.Keep LeavesOpen                          (LeavesOpen.noted)
    c.Keep LeavesOpen → Talk c s turns t → LeavesOpen s t, when only dispatch is logged
                                                                         (Talk.leavesOpen)
-/

namespace WorkflowDispatch

open WorkflowDispatch.Action

variable {σ ν α : Type}

/-! ## Histories -/

/-- What is noted of the contexts of a thread. -/
inductive Moment where
  /-- Whoever was in control looked at the context. -/
  | seen (context : Option Context)
  /-- A handle answered a call.  The number is that of the context that was active when the call was
  made, if one was. -/
  | answered (during : Option Nat) (h : HandleId) (call : HandleCall) (answer : call.Answer)

/-- Whether the event is the opening of a context.  Nothing else is logged in that category. -/
def Event.opens : Event ν → Bool
  | .log line => line.category == .context
  | _ => false

/-- How many contexts were opened in a history. -/
def openings (trace : List (Event ν)) : Nat := trace.countP Event.opens

/-- The number of the context that is active, if one is. -/
def State.activeNumber (s : State σ ν) : Option Nat := s.context.map fun _ => openings s.trace

/-- A context that is active stays so: it is not closed, nor closed and replaced by another. -/
structure LeavesOpen (s s' : State σ ν) : Prop where
  opened : StaysOpen s s'
  number : s.context.isSome = true → openings s'.trace = openings s.trace

namespace Action

/-- Looks at the context. -/
def look : Action σ Moment (Option Context) := do
  let found ← context
  record (.note (.seen found))
  return found

/-- Carries an answer out and notes it. -/
def noting (h : HandleId) (call : HandleCall) (x : Action σ Moment call.Answer) :
    Action σ Moment call.Answer := do
  let during := (← get).activeNumber
  let answer ← x
  record (.note (.answered during h call answer))
  return answer

/-- Catches a failure; nobody catches an end of everything. -/
def attempt (x : Action σ ν α) : Action σ ν (Except Failure α) := do
  match ← observe x with
  | .ok v => return .ok v
  | .error (.thrown failure) => return .error failure
  | .error stop => throw stop

/-- Tells whether a context is active. -/
def inContext (x : Bool → Action σ ν α) : Action σ ν α := do x (← context).isSome

end Action

/-- The same collaborators, with the answers of the handles noted. -/
def Collaborators.noted (c : Collaborators σ Moment) : Collaborators σ Moment where
  handle h call := noting h call (c.handle h call)
  batch := c.batch
  declare := c.declare

/-! ## Conduct -/

/-- What a thread may do.  Collaborators may do the same while they answer.  Of a call that is made
in a context they have to leave that context open; of a call without one nothing is asked. -/
inductive Conduct (known : Descriptor → Prop) : {α : Type} → Action σ Moment α → Prop where
  | pure {α : Type} (v : α) : Conduct known (pure v)
  | bind {α β : Type} {x : Action σ Moment α} {f : α → Action σ Moment β} (first : Conduct known x)
      (next : ∀ v, Conduct known (f v)) : Conduct known (x >>= f)
  | fail {α : Type} (failure : Failure) : Conduct known (Action.fail failure : Action σ Moment α)
  | stuck {α : Type} (reason : String) :
      Conduct known (throw (.stuck reason) : Action σ Moment α)
  | attempt {α : Type} {x : Action σ Moment α} (body : Conduct known x) :
      Conduct known (Action.attempt x)
  | outside {α : Type} (f : σ → α × σ) : Conduct known (Action.outside f)
  | futures {α : Type} (f : List FutureState → α × List FutureState) :
      Conduct known (Action.onFutures f)
  | look : Conduct known Action.look
  | enter (mode : Mode) (batch : Option BatchId) : Conduct known (Action.enter mode batch)
  | exit : Conduct known Action.exit
  | guard (mode : Mode) (batch : Option BatchId) : Conduct known (Guard.enter mode batch)
  | release (g : Guard) : Conduct known g.release
  | assign (target source : Guard) : Conduct known (Guard.assign target source)
  | route {c : Bool → Collaborators σ Moment}
      (handles : ∀ active h call, Conduct known ((c active).handle h call))
      (batches : ∀ active b call, Conduct known ((c active).batch b call))
      (leaves : (c true).Keep LeavesOpen) {router : Router} (declared : known router.descriptor)
      (h : HandleId) (target : Target) (args : List Value) :
      Conduct known (inContext fun active => router.route (c active).noted h target args)
  | call {c : Bool → Collaborators σ Moment}
      (handles : ∀ active h call, Conduct known ((c active).handle h call))
      (batches : ∀ active b call, Conduct known ((c active).batch b call))
      (leaves : (c true).Keep LeavesOpen) {stub : Stub} (declared : known stub.descriptor)
      (m : Member) (args : List Value) :
      Conduct known (inContext fun active => stub.call (c active).noted m args)
  | start {c : Collaborators σ Moment} (handles : ∀ h call, Conduct known (c.handle h call))
      (batches : ∀ b call, Conduct known (c.batch b call)) (leaves : c.Keep LeavesOpen)
      {stub : Stub} (declared : known stub.descriptor) (m : Member) (args : List Value) :
      Conduct known (stub.start c.noted m args)
  | execute {c : Collaborators σ Moment} (handles : ∀ h call, Conduct known (c.handle h call))
      (batches : ∀ b call, Conduct known (c.batch b call)) (leaves : c.Keep LeavesOpen)
      {stub : Stub} (declared : known stub.descriptor) (m : Member) (args : List Value) :
      Conduct known (stub.execute c.noted m args)
  | add {α : Type} {x : Action σ Moment α} (batch : BatchId) (body : Conduct known x) :
      Conduct known (Batch.recording batch x)
  | send {c : Collaborators σ Moment} (handles : ∀ h call, Conduct known (c.handle h call))
      (b : Batch) : Conduct known (b.send c.noted)

/-! ## Lemmas -/

theorem openings_append (trace more : List (Event ν)) :
    openings (trace ++ more) = openings trace + openings more := List.countP_append

/-- Only an opening adds to the openings. -/
theorem openings_traced (trace : List (Event ν)) {e : Event ν} (other : e.opens = false) :
    openings (trace ++ [e]) = openings trace := by
  rw [openings_append]
  simp [openings, other]

theorem Call.opens_event (call : Call) : (call.event : Event ν).opens = false := by
  cases call <;> rfl

theorem runFrom_noting (h : HandleId) (call : HandleCall) (x : Action σ Moment call.Answer)
    (s : State σ Moment) :
    runFrom (noting h call x) s =
      match runFrom x s with
      | (.ok answer, t) =>
        (.ok answer,
          { t with trace := t.trace ++ [.note (.answered s.activeNumber h call answer)] })
      | (.error stop, t) => (.error stop, t) := by
  show runFrom (x >>= _) s = _
  rw [runFrom_bind]
  rcases runFrom x s with ⟨stop | answer, t⟩ <;> rfl

theorem runFrom_attempt (x : Action σ ν α) (s : State σ ν) :
    runFrom (attempt x) s =
      match runFrom x s with
      | (.ok v, t) => (.ok (.ok v), t)
      | (.error (.thrown failure), t) => (.ok (.error failure), t)
      | (.error stop, t) => (.error stop, t) := by
  unfold attempt
  rw [runFrom_bind, runFrom_observe]
  rcases runFrom x s with ⟨(failure | e | reason) | v, t⟩ <;> rfl

theorem runFrom_inContext (x : Bool → Action σ ν α) (s : State σ ν) :
    runFrom (inContext x) s = runFrom (x s.context.isSome) s := rfl

namespace LeavesOpen

theorem refl (s : State σ ν) : LeavesOpen s s := ⟨staysOpen.refl s, fun _ => rfl⟩

theorem trans {s t u : State σ ν} (first : LeavesOpen s t) (second : LeavesOpen t u) :
    LeavesOpen s u := by
  refine ⟨staysOpen.trans first.opened second.opened, fun active => ?_⟩
  obtain ⟨ctx, active_eq⟩ := Option.isSome_iff_exists.1 active
  obtain ⟨held, still⟩ := first.opened ctx active_eq
  have again : t.context.isSome = true := by rw [still]; rfl
  rw [second.number again, first.number active]

theorem traced (s : State σ ν) {e : Event ν} (other : e.opens = false) :
    LeavesOpen s { s with trace := s.trace ++ [e] } :=
  ⟨staysOpen.traced s e, fun _ => openings_traced s.trace other⟩

/-- To note what was answered opens and closes nothing. -/
theorem noted {c : Collaborators σ Moment} (leaves : c.Keep LeavesOpen) :
    c.noted.Keep LeavesOpen where
  handle h call s := by
    have answered := leaves.handle h call s
    show LeavesOpen s (runFrom (noting h call (c.handle h call)) s).2
    rw [runFrom_noting]
    rcases run : runFrom (c.handle h call) s with ⟨stop | answer, t⟩
    · rw [run] at answered
      exact answered
    · rw [run] at answered
      exact answered.trans (traced t rfl)
  batch := leaves.batch

end LeavesOpen

/-! ## What is logged in a talk -/

/-- All that is logged in the talk is about dispatch. -/
def OnlyDispatch (turns : List Turn) : Prop :=
  ∀ line, .logged line ∈ turns → line.category = .dispatch

theorem Attaching.onlyDispatch {h : HandleId} {args : List Value} {turns : List Turn}
    {ending : Ending StartResult} (attaching : Attaching h args turns ending) :
    OnlyDispatch turns := by
  intro line logged
  cases attaching with
  | @attached failure =>
    have suppressed : line = suppressedLine failure := by simpa using logged
    rw [suppressed]
    rfl
  | started | failed | undecided | refused => simp at logged

theorem Protocol.onlyDispatch {r : RoutedCall} {batch : Option BatchId} {mode : Mode} {role : Role}
    {turns : List Turn} {outcome : Ending Value}
    (protocol : Protocol r batch mode role turns outcome) : OnlyDispatch turns := by
  cases protocol with
  | result _ attaching | future _ attaching =>
    intro line logged
    exact attaching.onlyDispatch line (by simpa using logged)
  | noResult attaching | noFuture attaching => exact attaching.onlyDispatch
  | signal | query | start | recordStart | recordSignal =>
    intro line logged
    simp at logged

theorem Talk.leavesOpen {c : Collaborators σ ν} (leaves : c.Keep LeavesOpen) {s t : State σ ν}
    {turns : List Turn} (dispatch : OnlyDispatch turns) (talk : Talk c s turns t) :
    LeavesOpen s t := by
  induction talk with
  | done s => exact .refl s
  | @logged s _ turns line rest ih =>
    have category : line.category = .dispatch := dispatch line (by simp)
    have other : (Event.log line : Event ν).opens = false := by simp [Event.opens, category]
    exact (LeavesOpen.traced s other).trans (ih fun l later => dispatch l (by simp [later]))
  | @asked s _ _ turns call ending answered rest ih =>
    have asked : LeavesOpen s { s with trace := s.trace ++ [call.event] } :=
      .traced s call.opens_event
    have later := ih fun l later => dispatch l (by simp [later])
    exact asked.trans ((leaves.place answered).trans later)

end WorkflowDispatch
