import WorkflowDispatch.Proofs.Conduct

/-!
# Guards own the context

A thread makes guards, moves them, assigns one over another and destroys them, in any order and some
of it in vain, and makes calls in between.  `start`, `execute` and the recording of a batch hold a
guard of their own while they run.  Of all these guards one is active when a context is, and none
otherwise.  To destroy a guard or to move another over it closes the context exactly when it was the
active one.  A guard that is moved gives what it had to close to the other one and has nothing
left.

    x.Keeps (Secures (n + 1) true) → (Guard.within mode batch x).Keeps (Secures n p)
                                                                             (Secures.within)
    Handling n p x → x.Keeps (Secures n p)                                   (Handling.secures)

This rests on one rule: nobody takes the context away from a call that runs in it.  A history in
which that happened is not `Lawful`, and nothing is said of it.
-/

namespace WorkflowDispatch

open WorkflowDispatch.Action

variable {σ τ ν α : Type}

/-! ## Definitions -/

/-- What is remembered of the guards of a thread. -/
inductive Deed where
  /-- Whoever was in control looked at the guards and at the context.  So many calls held a guard of
  their own then. -/
  | seen (guards : List (Option Guard)) (helpers : Nat) (context : Option Context)
  /-- No guard could be made. -/
  | failed (before after : Option Context)
  /-- A guard was destroyed, or another moved over it; `pinned` says that a call was running in the
  context that was active. -/
  | dropped (guard : Guard) (pinned : Bool) (before after : Option Context)
  /-- A guard was moved into a new one or over another one; all the guards before and after. -/
  | moved (source target : Nat) (before after : List (Option Guard))
  deriving DecidableEq

/-- The guards that a thread made, by number, and none once destroyed; what is remembered of them;
and whatever else the thread keeps. -/
structure Holdings (τ : Type) where
  guards : List (Option Guard)
  past : List Deed
  own : τ

/-- How many of the guards are active. -/
def activeGuards (guards : List (Option Guard)) : Nat := guards.countP (·.any Guard.active)

/-- The guards and as many helpers have one active guard between them if a context is active, and
none otherwise. -/
def OwnContext (guards : List (Option Guard)) (helpers : Nat) (context : Option Context) : Prop :=
  activeGuards guards + helpers = if context.isSome then 1 else 0

/-- The guard at `target` has what the one at `source` had to close, and that one has nothing left.
The other guards are as they were. -/
def HandsOn (source target : Nat) (before after : List (Option Guard)) : Prop :=
  ∃ former made emptied : Guard,
    before[source]? = some (some former) ∧
      after[target]? = some (some made) ∧ made.active = former.active ∧
      after[source]? = some (some emptied) ∧ emptied.active = false ∧
      ∀ i, i ≠ source → i ≠ target → after[i]? = before[i]?

/-- A guard does what it should to the context and to the guard that it is moved from. -/
def Deed.Right : Deed → Prop
  | .seen guards helpers context => OwnContext guards helpers context
  | .failed before after => after = before
  | .dropped guard _ before after =>
    (guard.active = true ↔ before.isSome = true ∧ after = none) ∧
      (guard.active = false → after = before)
  | .moved source target before after => HandsOn source target before after

/-- The guard of a context was released while a call was running in it. -/
def Deed.breaks : Deed → Bool
  | .dropped guard pinned _ _ => guard.active && pinned
  | .seen .. | .failed .. | .moved .. => false

/-- Nobody released the guard of a context while a call was running in it. -/
def Lawful (past : List Deed) : Prop := ∀ deed ∈ past, deed.breaks = false

instance (past : List Deed) : Decidable (Lawful past) := inferInstanceAs (Decidable (∀ _ ∈ _, _))

/-! ### What a thread does with guards -/

namespace Action

/-- Remembers what happened. -/
def remember (deed : Deed) : Action (Holdings τ) ν Unit :=
  outside fun o => ((), { o with past := o.past ++ [deed] })

/-- Looks at the guards and at the context. -/
def survey (helpers : Nat) : Action (Holdings τ) ν Unit := do
  let s ← get
  remember (.seen s.outside.guards helpers s.context)

/-- Reads everything and changes what is not about guards. -/
def onOwn (f : Holdings τ → α × τ) : Action (Holdings τ) ν α :=
  outside fun o => ((f o).1, { o with own := (f o).2 })

/-- Puts a guard, or that there is none any more, under a number. -/
def setGuard (i : Nat) (g : Option Guard) : Action (Holdings τ) ν Unit :=
  outside fun o => ((), { o with guards := o.guards.set i g })

/-- The number of a new guard. -/
def addGuard (g : Guard) : Action (Holdings τ) ν Nat :=
  outside fun o => (o.guards.length, { o with guards := o.guards ++ [some g] })

/-- The guard of a number. -/
def guardAt (i : Nat) : Action (Holdings τ) ν Guard := do
  ((← get).outside.guards[i]?.join).elim (throw (.stuck "there is no such guard")) pure

/-- The guards of the thread. -/
def guards : Action (Holdings τ) ν (List (Option Guard)) := return (← get).outside.guards

/-- Makes a guard.  One that cannot be made is not there. -/
def construct (mode : Mode) (batch : Option BatchId) : Action (Holdings τ) ν Nat := do
  let before ← context
  match ← observe (Guard.enter mode batch) with
  | .ok g => addGuard g
  | .error stop =>
    remember (.failed before (← context))
    throw stop

/-- Moves a guard into a new one. -/
def moveGuard (source : Nat) : Action (Holdings τ) ν Nat := do
  let (made, emptied) := (← guardAt source).moved
  let before ← guards
  setGuard source (some emptied)
  let target ← addGuard made
  remember (.moved source target before (← guards))
  return target

/-- Moves a guard over another; moved over itself it stays as it is. -/
def assignGuard (pinned : Bool) (target source : Nat) : Action (Holdings τ) ν Unit := do
  let t ← guardAt target
  let s ← guardAt source
  if target ≠ source then
    let before ← context
    let (assigned, emptied) ← t.assign s
    remember (.dropped t pinned before (← context))
    let former ← guards
    setGuard source (some emptied)
    setGuard target (some assigned)
    remember (.moved source target former (← guards))

/-- Destroys a guard. -/
def destroyGuard (pinned : Bool) (i : Nat) : Action (Holdings τ) ν Unit := do
  let g ← guardAt i
  let before ← context
  let _ ← g.release
  remember (.dropped g pinned before (← context))
  setGuard i none

end Action

/-- What a thread does while so many helpers hold a guard, and `pinned` within a call that runs in
the context that is active.  Handles and batches do the same while they answer.  Contexts are opened
and closed by guards only. -/
inductive Handling : Nat → Bool → {α : Type} → Action (Holdings τ) ν α → Prop where
  | pure {helpers : Nat} {pinned : Bool} {α : Type} (v : α) : Handling helpers pinned (pure v)
  | bind {helpers : Nat} {pinned : Bool} {α β : Type} {x : Action (Holdings τ) ν α}
      {f : α → Action (Holdings τ) ν β} (first : Handling helpers pinned x)
      (next : ∀ v, Handling helpers pinned (f v)) : Handling helpers pinned (x >>= f)
  | stop {helpers : Nat} {pinned : Bool} {α : Type} (stop : Stop) :
      Handling helpers pinned (throw stop : Action (Holdings τ) ν α)
  | observe {helpers : Nat} {pinned : Bool} {α : Type} {x : Action (Holdings τ) ν α}
      (body : Handling helpers pinned x) : Handling helpers pinned (Action.observe x)
  | record {helpers : Nat} {pinned : Bool} (e : Event ν) :
      Handling helpers pinned (Action.record e)
  | own {helpers : Nat} {pinned : Bool} {α : Type} (f : Holdings τ → α × τ) :
      Handling helpers pinned (onOwn f)
  | futures {helpers : Nat} {pinned : Bool} {α : Type}
      (f : List FutureState → α × List FutureState) :
      Handling helpers pinned (Action.onFutures f)
  | context {helpers : Nat} {pinned : Bool} : Handling helpers pinned Action.context
  | survey {helpers : Nat} {pinned : Bool} : Handling helpers pinned (survey helpers)
  | construct {helpers : Nat} {pinned : Bool} (mode : Mode) (batch : Option BatchId) :
      Handling helpers pinned (construct mode batch)
  | move {helpers : Nat} {pinned : Bool} (source : Nat) :
      Handling helpers pinned (moveGuard source)
  | assign {helpers : Nat} {pinned : Bool} (target source : Nat) :
      Handling helpers pinned (assignGuard pinned target source)
  | destroy {helpers : Nat} {pinned : Bool} (i : Nat) :
      Handling helpers pinned (destroyGuard pinned i)
  | route {helpers : Nat} {pinned : Bool} {c : Bool → Collaborators (Holdings τ) ν}
      (handles : ∀ active h call, Handling helpers (pinned || active) ((c active).handle h call))
      (batches : ∀ active b call, Handling helpers (pinned || active) ((c active).batch b call))
      (router : Router) (h : HandleId) (target : Target) (args : List Value) :
      Handling helpers pinned (inContext fun active => router.route (c active) h target args)
  | call {helpers : Nat} {pinned : Bool} {c : Bool → Collaborators (Holdings τ) ν}
      (handles : ∀ active h call, Handling helpers (pinned || active) ((c active).handle h call))
      (batches : ∀ active b call, Handling helpers (pinned || active) ((c active).batch b call))
      (stub : Stub) (m : Member) (args : List Value) :
      Handling helpers pinned (inContext fun active => stub.call (c active) m args)
  | start {helpers : Nat} {pinned : Bool} {c : Collaborators (Holdings τ) ν}
      (handles : ∀ h call, Handling (helpers + 1) true (c.handle h call))
      (batches : ∀ b call, Handling (helpers + 1) true (c.batch b call)) (stub : Stub) (m : Member)
      (args : List Value) : Handling helpers pinned (stub.start c m args)
  | execute {helpers : Nat} {pinned : Bool} {c : Collaborators (Holdings τ) ν}
      (handles : ∀ h call, Handling (helpers + 1) true (c.handle h call))
      (batches : ∀ b call, Handling (helpers + 1) true (c.batch b call)) (stub : Stub) (m : Member)
      (args : List Value) : Handling helpers pinned (stub.execute c m args)
  | add {helpers : Nat} {pinned : Bool} {α : Type} {x : Action (Holdings τ) ν α} (batch : BatchId)
      (body : Handling (helpers + 1) true x) : Handling helpers pinned (Batch.recording batch x)
  | send {helpers : Nat} {pinned : Bool} {c : Collaborators (Holdings τ) ν}
      (handles : ∀ h call, Handling helpers pinned (c.handle h call))
      (batches : ∀ b call, Handling helpers pinned (c.batch b call)) (b : Batch) :
      Handling helpers pinned (b.send c)

/-- The guards own the context, and always did what they should. -/
structure State.OwnedBy (helpers : Nat) (pinned : Bool) (s : State (Holdings τ) ν) : Prop where
  owned : OwnContext s.outside.guards helpers s.context
  /-- A call that runs in a context finds it open. -/
  pinned : pinned = true → s.context.isSome = true
  past : ∀ deed ∈ s.outside.past, deed.Right

/-- What happens between the states leaves the context with its owner. -/
def Secures (helpers : Nat) (pinned : Bool) (s s' : State (Holdings τ) ν) : Prop :=
  Lawful s'.outside.past →
    Lawful s.outside.past ∧ (s.OwnedBy helpers pinned → s'.OwnedBy helpers pinned)

/-! ## Counting guards -/

/-- To put another guard in the place of one changes the count by the two. -/
theorem activeGuards_set {guards : List (Option Guard)} {i : Nat} {former : Option Guard}
    (found : guards[i]? = some former) (g : Option Guard) :
    activeGuards (guards.set i g) + (former.any Guard.active).toNat =
      activeGuards guards + (g.any Guard.active).toNat := by
  unfold activeGuards
  induction guards generalizing i with
  | nil => cases found
  | cons first guards ih =>
    cases i with
    | zero =>
      obtain rfl : first = former := by simpa using found
      cases held : first.any Guard.active <;> cases holds : g.any Guard.active <;>
        simp [held, holds]
    | succ i =>
      have rest := ih (by simpa using found)
      simp only [List.set_cons_succ, List.countP_cons]
      omega

theorem activeGuards_append (guards : List (Option Guard)) (g : Guard) :
    activeGuards (guards ++ [some g]) = activeGuards guards + g.active.toNat := by
  unfold activeGuards
  rw [List.countP_append]
  cases holds : g.active <;> simp [holds]

/-- An active guard has a context to close, and is the only one. -/
theorem OwnContext.of_active {guards : List (Option Guard)} {helpers : Nat}
    {context : Option Context} (owned : OwnContext guards helpers context) {i : Nat} {g : Guard}
    (found : guards[i]? = some (some g)) (active : g.active = true) :
    context.isSome = true ∧ activeGuards guards = 1 ∧ helpers = 0 := by
  have counted := activeGuards_set found none
  rw [OwnContext] at owned
  simp only [Option.any_some, active, Bool.toNat_true, Option.any_none, Bool.toNat_false] at counted
  split at owned
  · next open_ => exact ⟨open_, by omega, by omega⟩
  · omega

/-! ## Moving guards -/

/-- A guard is moved and the others stay as they are. -/
theorem handsOn_of_moved {before after : List (Option Guard)} {source target : Nat} {g : Guard}
    (found : before[source]? = some (some g)) (made : after[target]? = some (some g.moved.1))
    (emptied : after[source]? = some (some g.moved.2))
    (others : ∀ i, i ≠ source → i ≠ target → after[i]? = before[i]?) :
    HandsOn source target before after :=
  have ⟨given, nothing⟩ := g.active_moved
  ⟨g, g.moved.1, g.moved.2, found, made, given, emptied, nothing, others⟩

/-- A guard that is moved into a new one. -/
theorem handsOn_append {guards : List (Option Guard)} {source target : Nat} {g : Guard}
    (found : guards[source]? = some (some g)) (new : target = guards.length) :
    HandsOn source target guards (guards.set source (some g.moved.2) ++ [some g.moved.1]) := by
  have held : source < guards.length := (List.getElem?_eq_some_iff.1 found).1
  refine handsOn_of_moved found ?_ ?_ fun i other another => ?_
  · simp [new]
  · simp [List.getElem?_append, held]
  · rw [List.getElem?_append, List.length_set]
    split
    · rw [List.getElem?_set_ne (Ne.symm other)]
    · rw [List.getElem?_eq_none (by simp; omega), List.getElem?_eq_none (by omega)]

/-- A guard that is moved over another one. -/
theorem handsOn_set {guards : List (Option Guard)} {source target : Nat} {g t : Guard}
    (apart : target ≠ source) (found : guards[source]? = some (some g))
    (there : guards[target]? = some (some t)) :
    HandsOn source target guards
      ((guards.set source (some g.moved.2)).set target (some g.moved.1)) := by
  have heldSource : source < guards.length := (List.getElem?_eq_some_iff.1 found).1
  have heldTarget : target < guards.length := (List.getElem?_eq_some_iff.1 there).1
  refine handsOn_of_moved found ?_ ?_ fun i other another => ?_
  · simp [heldTarget]
  · rw [List.getElem?_set_ne apart]
    simp [heldSource]
  · rw [List.getElem?_set_ne (Ne.symm another), List.getElem?_set_ne (Ne.symm other)]

/-! ## What is secured -/

theorem Lawful.of_append {past more : List Deed} (lawful : Lawful (past ++ more)) : Lawful past :=
  fun deed mem => lawful deed (List.mem_append_left more mem)

theorem Lawful.last {past : List Deed} {deed : Deed} (lawful : Lawful (past ++ [deed])) :
    deed.breaks = false :=
  lawful deed (List.mem_append_right past List.mem_cons_self)

/-- What was right and a right deed more. -/
theorem right_append {past : List Deed} {deed : Deed} (before : ∀ deed ∈ past, deed.Right)
    (right : deed.Right) : ∀ other ∈ past ++ [deed], other.Right := by
  intro other mem
  rcases List.mem_append.1 mem with earlier | this
  · exact before other earlier
  · rwa [List.mem_singleton.1 this]

/-- Where a context can be opened, no guard is active and no call is running in one. -/
theorem State.OwnedBy.of_opened {helpers : Nat} {pinned : Bool} {s : State (Holdings τ) ν}
    (secure : s.OwnedBy helpers pinned) {mode : Mode} {batch : Option BatchId} {ctx : Context}
    (opening : Context.enter? s.context mode batch = .ok ctx) :
    activeGuards s.outside.guards + helpers = 0 ∧ pinned = false := by
  have closed := (Context.of_enter?_eq_ok opening).1
  constructor
  · have owned := secure.owned
    rw [OwnContext, closed] at owned
    exact owned
  · cases running : pinned with
    | false => rfl
    | true =>
      have open_ := secure.pinned running
      rw [closed] at open_
      cases open_

namespace Secures

variable {helpers : Nat} {pinned : Bool}

/-- Where the number of active guards, what is remembered and whether a context is active stay as
they are. -/
theorem of_same {s t : State (Holdings τ) ν}
    (count : activeGuards t.outside.guards = activeGuards s.outside.guards)
    (past : t.outside.past = s.outside.past) (context : t.context.isSome = s.context.isSome) :
    Secures helpers pinned s t := by
  intro lawful
  rw [past] at lawful
  refine ⟨lawful, fun secure => ⟨?_, ?_, ?_⟩⟩
  · rw [OwnContext, count, context]
    exact secure.owned
  · rw [context]
    exact secure.pinned
  · rw [past]
    exact secure.past

theorem frame : Frame (Secures (τ := τ) (ν := ν) helpers pinned) where
  refl _ := of_same rfl rfl rfl
  trans first second lawful :=
    have ⟨between, later⟩ := second lawful
    have ⟨before, earlier⟩ := first between
    ⟨before, fun secure => later (earlier secure)⟩
  traced _ _ := of_same rfl rfl rfl
  forgotten _ := of_same rfl rfl Option.isSome_map
  kept _ _ := of_same rfl rfl Option.isSome_map

/-- A deed is remembered that is right where the guards own the context. -/
theorem remembered (s : State (Holdings τ) ν) (deed : Deed)
    (right : s.OwnedBy helpers pinned → deed.Right) :
    Secures helpers pinned s (runFrom (remember deed) s).2 := fun lawful =>
  ⟨lawful.of_append, fun secure =>
    ⟨secure.owned, secure.pinned, right_append secure.past (right secure)⟩⟩

/-- A guard goes, with its share of the active ones, and with the context if that was its own. -/
theorem dropped (helpers : Nat) (pinned : Bool) {s : State (Holdings τ) ν} {i : Nat} {g : Guard}
    (found : s.outside.guards[i]? = some (some g)) (guards : List (Option Guard))
    (counted : activeGuards guards + g.active.toNat = activeGuards s.outside.guards) :
    let after := g.leaves s.context
    Secures helpers pinned s
      { s with
        context := after
        outside :=
          ⟨guards, s.outside.past ++ [.dropped g pinned s.context after], s.outside.own⟩ } := by
  intro after lawful
  refine ⟨lawful.of_append, fun secure => ?_⟩
  have kept : (g.active && pinned) = false := lawful.last
  have owned := secure.owned
  cases active : g.active with
  | true =>
    -- The one active guard goes and the context with it.  No call runs there that would miss it.
    obtain ⟨open_, one, alone⟩ := owned.of_active found active
    have closed : after = none := by simp only [after, Guard.leaves, active, if_true]
    have free : pinned = false := by simpa [active] using kept
    have empty : activeGuards guards = 0 := by simp [active] at counted; omega
    refine ⟨?_, ?_, right_append secure.past ?_⟩
    · simp only [OwnContext, closed, empty, alone, Option.isSome_none]
      rfl
    · simp [free]
    · simp [Deed.Right, active, open_, closed]
  | false =>
    have same : after = s.context := by simp [after, Guard.leaves, active]
    have count : activeGuards guards = activeGuards s.outside.guards := by
      simpa [active] using counted
    refine ⟨?_, ?_, right_append secure.past ?_⟩
    · simpa only [OwnContext, same, count] using owned
    · simpa only [same] using secure.pinned
    · refine ⟨⟨fun on => ?_, fun ⟨open_, closed⟩ => ?_⟩, fun _ => same⟩
      · rw [active] at on
        cases on
      · rw [← same, closed] at open_
        cases open_

/-! ### What is done with guards -/

/-- Where there is no such guard nothing is done. -/
theorem ofGuardAt {i : Nat} {f : Guard → Action (Holdings τ) ν α} {s : State (Holdings τ) ν}
    (found : ∀ g, s.outside.guards[i]? = some (some g) →
      Secures helpers pinned s (runFrom (f g) s).2) :
    Secures helpers pinned s (runFrom (guardAt i >>= f) s).2 := by
  have run : runFrom (guardAt i) s = runFrom (s.outside.guards[i]?.join.elim
      (throw (.stuck "there is no such guard")) pure) s := rfl
  rw [runFrom_bind, run]
  cases slot : s.outside.guards[i]?.join with
  | none => exact frame.refl s
  | some g => exact found g (Option.join_eq_some_iff.1 slot)

theorem survey (s : State (Holdings τ) ν) :
    Secures helpers pinned s (runFrom (survey helpers) s).2 :=
  remembered s _ State.OwnedBy.owned

/-- A guard that is made has the context to itself; one that is not made leaves it alone. -/
theorem construct (mode : Mode) (batch : Option BatchId) (s : State (Holdings τ) ν) :
    Secures helpers pinned s (runFrom (construct mode batch) s).2 := by
  rcases enter_cases mode batch s with ⟨failure, entering⟩ | ⟨ctx, opening, entering⟩
  · have run : (runFrom (Action.construct mode batch) s).2 =
        (runFrom (remember (.failed s.context s.context)) s).2 := by
      unfold Action.construct Guard.enter
      rw [runFrom_bind, runFrom_context]
      simp only [runFrom_bind, runFrom_observe, entering]
      rfl
    rw [run]
    exact remembered s _ fun _ => rfl
  · have run : runFrom (Action.construct mode batch) s =
        runFrom (addGuard ⟨true⟩) (runFrom (Action.enter mode batch) s).2 := by
      unfold Action.construct Guard.enter
      rw [runFrom_bind, runFrom_context]
      simp only [runFrom_bind, runFrom_observe, entering]
      rfl
    rw [run, entering]
    refine fun lawful => ⟨lawful, fun secure => ⟨?_, fun _ => rfl, secure.past⟩⟩
    have held := (secure.of_opened opening).1
    show activeGuards (s.outside.guards ++ [some ⟨true⟩]) + helpers = 1
    rw [activeGuards_append]
    simp only [Bool.toNat_true]
    omega

theorem moveGuard (source : Nat) (s : State (Holdings τ) ν) :
    Secures helpers pinned s (runFrom (moveGuard source) s).2 := by
  refine ofGuardAt fun g found => ?_
  let guards := s.outside.guards.set source (some g.moved.2) ++ [some g.moved.1]
  let t : State (Holdings τ) ν := { s with outside := { s.outside with guards := guards } }
  have count : activeGuards guards = activeGuards s.outside.guards := by
    rw [activeGuards_append]
    exact activeGuards_set found (some g.moved.2)
  exact frame.trans (of_same (t := t) count rfl rfl)
    (remembered t (.moved source _ s.outside.guards guards) fun _ =>
      handsOn_append found List.length_set)

theorem assignGuard (target source : Nat) (s : State (Holdings τ) ν) :
    Secures helpers pinned s (runFrom (assignGuard pinned target source) s).2 := by
  refine ofGuardAt fun t found => ?_
  refine ofGuardAt fun g foundSource => ?_
  by_cases self : target = source
  · rw [if_neg (not_not_intro self)]
    exact frame.refl s
  · rw [if_pos self]
    have emptied := activeGuards_set foundSource (some .inactive)
    have there : (s.outside.guards.set source (some .inactive))[target]? = some (some t) := by
      rw [List.getElem?_set_ne (Ne.symm self)]
      exact found
    have assigned := activeGuards_set there (some g)
    have secured := dropped helpers pinned found
      ((s.outside.guards.set source (some .inactive)).set target (some g)) (by
        simp only [Option.any_some, Guard.inactive, Bool.toNat_false] at emptied assigned ⊢
        omega)
    have handed := handsOn_set self foundSource found
    rw [runFrom_bind, runFrom_context]
    show Secures helpers pinned s (runFrom (t.assign g >>= _) s).2
    rw [runFrom_bind, t.runFrom_assign]
    exact frame.trans secured
      (remembered _ (.moved source target s.outside.guards _) fun _ => handed)

theorem destroyGuard (i : Nat) (s : State (Holdings τ) ν) :
    Secures helpers pinned s (runFrom (destroyGuard pinned i) s).2 := by
  refine ofGuardAt fun g found => ?_
  have secured := dropped helpers pinned found (s.outside.guards.set i none)
    (activeGuards_set found none)
  rw [runFrom_bind, runFrom_context]
  show Secures helpers pinned s (runFrom (g.release >>= _) s).2
  rw [runFrom_bind, g.runFrom_release]
  exact secured

/-! ### Calls -/

/-- A helper's guard is one more while it is held. -/
theorem within {x : Action (Holdings τ) ν α} (body : x.Keeps (Secures (helpers + 1) true))
    (mode : Mode) (batch : Option BatchId) :
    (Guard.within mode batch x).Keeps (Secures helpers pinned) := by
  intro s
  rw [runFrom_within]
  rcases enter_cases mode batch s with ⟨failure, entering⟩ | ⟨ctx, opening, entering⟩
  · rw [entering]
    exact frame.refl s
  · rw [entering]
    intro lawful
    obtain ⟨before, later⟩ := body _ lawful
    refine ⟨before, fun secure => ?_⟩
    obtain ⟨unheld, free⟩ := secure.of_opened opening
    -- While the body runs the helper's guard is the active one, and no other can become so.
    have held : OwnContext s.outside.guards (helpers + 1) (some ctx) := by
      simp only [OwnContext, Option.isSome_some, if_true]
      omega
    have reached := later ⟨held, fun _ => rfl, secure.past⟩
    refine ⟨?_, fun on => absurd (free.symm.trans on) nofun, reached.past⟩
    have still := reached.owned
    rw [OwnContext, reached.pinned rfl] at still
    simp only [OwnContext, Option.isSome_none, Bool.false_eq_true, if_true, if_false] at still ⊢
    omega

/-- A call that is made in a context pins that while it runs. -/
theorem inContext {x : Bool → Action (Holdings τ) ν α}
    (calls : ∀ active, (x active).Keeps (Secures helpers (pinned || active))) :
    (inContext x).Keeps (Secures helpers pinned) := by
  intro s
  rw [runFrom_inContext]
  intro lawful
  obtain ⟨before, later⟩ := calls _ s lawful
  refine ⟨before, fun secure => ?_⟩
  have reached := later ⟨secure.owned, fun on => ?_, secure.past⟩
  · exact ⟨reached.owned, fun on => reached.pinned (by simp [on]), reached.past⟩
  · rcases Bool.or_eq_true_iff.1 on with on | open_
    · exact secure.pinned on
    · exact open_

end Secures

/-! ## Whatever the thread does -/

theorem Handling.secures {helpers : Nat} {pinned : Bool} {x : Action (Holdings τ) ν α}
    (handling : Handling helpers pinned x) : x.Keeps (Secures helpers pinned) := by
  -- What the handles and the batches of a call do stands among its premises, with the helper or the
  -- call that is one more there.
  induction handling with
  | pure v => exact .pure Secures.frame v
  | bind _ _ first next => exact .bind Secures.frame first next
  | stop e => exact .stop Secures.frame e
  | observe _ body => exact .observe body
  | record e => exact .record Secures.frame e
  | own f => exact fun s => Secures.of_same rfl rfl rfl
  | futures f => exact fun s => Secures.of_same rfl rfl rfl
  | context => exact .context Secures.frame
  | survey => exact Secures.survey
  | construct mode batch => exact Secures.construct mode batch
  | move source => exact Secures.moveGuard source
  | assign target source => exact Secures.assignGuard target source
  | destroy i => exact Secures.destroyGuard i
  | route _ _ router h target args handles batches =>
    exact Secures.inContext fun active =>
      .route Secures.frame ⟨handles active, batches active⟩ router h target args
  | call _ _ stub m args handles batches =>
    exact Secures.inContext fun active =>
      .call Secures.frame ⟨handles active, batches active⟩ stub m args
  | start _ _ stub m args handles batches =>
    have routed := Keeps.route Secures.frame ⟨handles, batches⟩ stub.router stub.handle
      (stub.descriptor.target m) args
    exact Secures.within (.bind Secures.frame routed fun _ =>
      .bind Secures.frame (.context Secures.frame) fun _ => .expect Secures.frame _) _ _
  | execute _ _ stub m args handles batches =>
    have routed := Keeps.route Secures.frame ⟨handles, batches⟩ stub.router stub.handle
      (stub.descriptor.target m) args
    refine Secures.within (.bind Secures.frame routed fun _ =>
      .bind Secures.frame (.bind Secures.frame (.context Secures.frame) fun _ =>
        .expect Secures.frame _) fun found => ?_) _ _
    cases found <;> exact .pure Secures.frame _
  | add batch _ body => exact Secures.within body _ _
  | send _ _ b handles batches => exact .send Secures.frame ⟨handles, batches⟩ b

/-! ## A guard that is handed on -/

/-- Handles that look at the guards while they start, and try to make one of their own. -/
def surveying (helpers : Nat) : Collaborators (Holdings Unit) Unit where
  handle _
    | .start _ => do
      survey helpers
      let _ ← observe (construct .sync none)
      return ⟨"greeter-1", "run-1"⟩
    | _ => Action.fail (.logic "not expected")
  batch _ _ := pure ()
  declare type := pure ⟨type.name, type, .empty, []⟩

theorem surveying_handle (helpers : Nat) (pinned : Bool) (h : HandleId) (call : HandleCall) :
    Handling helpers pinned ((surveying helpers).handle h call) := by
  cases call with
  | start args =>
    exact .bind .survey fun _ => .bind (.observe (.construct _ _)) fun _ => .pure _
  | signal | query | getResult | getResultAsync | signalWithStart | getOptions => exact .stop _

/-- A guard is made, moved and moved back, and destroyed while its context is open.  Another cannot
be made in the meantime, and one that was moved from is destroyed. -/
def handedOn : Action (Holdings Unit) Unit Unit := do
  let first ← construct .start none
  let _ ← observe (construct .sync none)
  let second ← moveGuard first
  assignGuard false second second
  let _ ← inContext fun _ => Router.route (surveying 0) ⟨greeter⟩ ⟨1, "ann"⟩ (.method 0) []
  assignGuard false first second
  destroyGuard false second
  survey 0
  destroyGuard false first
  let greet : Member := ⟨"Greeter", "greet", ⟨.string, [.string], false⟩⟩
  let _ ← Stub.start (surveying 1) ⟨⟨1, "ann"⟩, ⟨greeter⟩⟩ greet []

theorem handedOn_handling : Handling 0 false handedOn := by
  have batches {helpers : Nat} {pinned : Bool} (b : BatchId) (call : BatchCall) :
      Handling helpers pinned ((surveying helpers).batch b call) := .pure ()
  refine .bind (.construct _ _) fun first => .bind (.observe (.construct _ _)) fun _ => ?_
  refine .bind (.move first) fun second => .bind (.assign second second) fun _ => ?_
  refine .bind (.route (c := fun _ => surveying 0) (fun _ => surveying_handle 0 _)
    (fun _ => batches) _ _ _ _) fun _ => ?_
  refine .bind (.assign first second) fun _ => .bind (.destroy second) fun _ => ?_
  refine .bind .survey fun _ => .bind (.destroy first) fun _ => ?_
  exact .bind (.start (surveying_handle 1 true) batches _ _ _) fun _ => .pure ()

/-! ## Top theorem -/

/-- **Guards own the context.**  A thread makes, moves, assigns and destroys guards and makes calls,
and handles, batches and bodies do the same while they run, but nobody releases the guard of a
context while a call runs in it.  Whenever anybody looks, and in the end, one guard is active if a
context is, and none otherwise, counting those that calls hold.  A guard that is destroyed or moved
over closes the context exactly when it was the active one, and changes nothing otherwise, nor does
one that could not be made.  A guard that is moved gives what it had to close to the new guard or to
the one it is moved over, and has nothing left; no third guard is touched. -/
theorem guards_own_context {x : Action (Holdings τ) ν α} (handling : Handling 0 false x)
    {s : State (Holdings τ) ν} (closed : s.context = none) (unheld : s.outside.guards = [])
    (fresh : s.outside.past = []) (lawful : Lawful (runFrom x s).2.outside.past) :
    let t := (runFrom x s).2
    (∀ guards helpers context, .seen guards helpers context ∈ t.outside.past →
      activeGuards guards + helpers = if context.isSome then 1 else 0) ∧
    (activeGuards t.outside.guards = if t.context.isSome then 1 else 0) ∧
    (∀ g pinned before after, .dropped g pinned before after ∈ t.outside.past →
      (g.active = true ↔ before.isSome = true ∧ after = none) ∧
        (g.active = false → after = before)) ∧
    (∀ source target before after, .moved source target before after ∈ t.outside.past →
      HandsOn source target before after) ∧
    ∀ before after, .failed before after ∈ t.outside.past → after = before := by
  intro t
  have start : s.OwnedBy 0 false := by
    refine ⟨?_, nofun, ?_⟩
    · rw [OwnContext, closed, unheld]
      rfl
    · rw [fresh]
      exact fun _ mem => absurd mem List.not_mem_nil
  have reached := (handling.secures s lawful).2 start
  exact ⟨fun guards helpers context => reached.past (.seen guards helpers context),
    reached.owned, fun g pinned before after => reached.past (.dropped g pinned before after),
    fun source target before after => reached.past (.moved source target before after),
    fun before after => reached.past (.failed before after)⟩

/-- The guard that was handed on and back is the one that closes its context; the one it was moved
from has nothing left and does not, and neither does the one that could not be made. -/
theorem handedOn_owned :
    let run := runFrom handedOn (State.initial ⟨[], [], ()⟩)
    let started : Context := ⟨.start, none, some (.execution ⟨"greeter-1", "run-1"⟩)⟩
    Lawful run.2.outside.past ∧ run.1 = .ok () ∧
      (.dropped ⟨false⟩ false (some started) (some started) ∈ run.2.outside.past) ∧
      (.dropped ⟨true⟩ false (some started) none ∈ run.2.outside.past) ∧
      (.seen [some ⟨true⟩, none] 0 (some started) ∈ run.2.outside.past) ∧
      (.moved 1 0 [some ⟨false⟩, some ⟨true⟩] [some ⟨true⟩, some ⟨false⟩] ∈ run.2.outside.past) ∧
      HandsOn 1 0 [some ⟨false⟩, some ⟨true⟩] [some ⟨true⟩, some ⟨false⟩] ∧
      activeGuards [some ⟨true⟩, none] + 0 = 1 ∧
      activeGuards run.2.outside.guards = 0 := by
  intro run started
  have lawful : Lawful run.2.outside.past := by decide
  obtain ⟨seen, left, -, moved, -⟩ :=
    guards_own_context handedOn_handling (s := State.initial ⟨[], [], ()⟩) rfl rfl rfl lawful
  have looked : Deed.seen [some ⟨true⟩, none] 0 (some started) ∈ run.2.outside.past := by decide
  have back : Deed.moved 1 0 [some ⟨false⟩, some ⟨true⟩] [some ⟨true⟩, some ⟨false⟩] ∈
      run.2.outside.past := by decide
  exact ⟨lawful, rfl, by decide, by decide, looked, back, moved _ _ _ _ back, seen _ _ _ looked,
    left⟩

end WorkflowDispatch
