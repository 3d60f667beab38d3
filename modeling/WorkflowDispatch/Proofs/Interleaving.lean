import Mathlib.Logic.Function.Basic
import WorkflowDispatch.Proofs.CacheHistory
import WorkflowDispatch.Proofs.TwoRuns

/-!
# Threads side by side

Threads take turns.  Each has a context, handles, batches and futures of its own; the descriptor
cache is the one thing that they share, and any of them can fill or clear it at any moment.  As long
as an interface is declared in one way only, a thread cannot tell: a descriptor from the cache is
the one that resolving the declaration gives.  So a run of all threads is compared with a run of one
of them, which begins with an empty cache.

    s.cache.Fresh declares →
      (runFrom (descriptorOf c type (some type)) s).1.map CachedDescriptor.descriptor =
        granted declares type                                            (descriptorOf_granted)
    Routine declares x → Agree (SideBySide declares) x x                        (Routine.agree)
    SideBySide declares (p.state i) (q.state i) →
      SideBySide declares ((p.run schedule).2.state i)
        ((q.run (ofThread i schedule)).2.state i)                           (Threads.run_apart)
-/

namespace WorkflowDispatch

open WorkflowDispatch.Action

variable {ι σ ν ρ α : Type}

/-! ## Definitions -/

/-- The event tells where a descriptor comes from: a declaration was asked for, or one was resolved,
or the cache was hit or missed.  The resolver logs nothing else. -/
def Event.ofResolver : Event ν → Bool
  | .declare _ => true
  | .log line => line.category == .resolver
  | .handleCall .. | .batchCall .. | .deferred | .note _ => false

/-- What happened so far, but for where the descriptors came from. -/
def State.shown (s : State σ ν) : List (Event ν) := s.trace.filter fun e => !e.ofResolver

/-- Every cached descriptor is what the declaration of its type resolves to. -/
def Cache.Fresh (declares : InterfaceType → Declaration) (cache : Cache) : Prop :=
  ∀ type cached, cache.find? type = some cached →
    (declares type).resolve = .ok cached.descriptor ∧ cached.descriptor.type = type

/-- The same state of one thread in two runs.  The caches can differ, and with them what was logged
of the cache. -/
structure SideBySide (declares : InterfaceType → Declaration) (s t : State σ ν) : Prop where
  context_eq : t.context = s.context
  futures_eq : t.futures = s.futures
  outside_eq : t.outside = s.outside
  shown_eq : t.shown = s.shown
  fresh : s.cache.Fresh declares
  fresh' : t.cache.Fresh declares

/-- How a get of the descriptor of a type ends, whatever the cache holds. -/
def granted (declares : InterfaceType → Declaration) (type : InterfaceType) : Ending Descriptor :=
  match (declares type).resolve with
  | .error fault => .error (.thrown (Cause.toFailure fault))
  | .ok d =>
    if d.type = type then .ok d
    else .error (.thrown (Cause.toFailure (CacheError.foreignType d.name)))

/-- What a thread may do at one go.  What it learns it can keep in its state, for what it does
later.  Its handles and batches may do the same while they answer. -/
inductive Routine (declares : InterfaceType → Declaration) : {α : Type} → Action σ ν α → Prop where
  | pure {α : Type} (v : α) : Routine declares (pure v)
  | bind {α β : Type} {x : Action σ ν α} {f : α → Action σ ν β} (first : Routine declares x)
      (next : ∀ v, Routine declares (f v)) : Routine declares (x >>= f)
  | stop {α : Type} (stop : Stop) : Routine declares (throw stop : Action σ ν α)
  | observe {α : Type} {x : Action σ ν α} (body : Routine declares x) :
      Routine declares (Action.observe x)
  | record (e : Event ν) : Routine declares (Action.record e)
  | outside {α : Type} (f : σ → α × σ) : Routine declares (Action.outside f)
  | futures {α : Type} (f : List FutureState → α × List FutureState) :
      Routine declares (Action.onFutures f)
  | context : Routine declares Action.context
  | enter (mode : Mode) (batch : Option BatchId) : Routine declares (Action.enter mode batch)
  | exit : Routine declares Action.exit
  | guard (mode : Mode) (batch : Option BatchId) : Routine declares (Guard.enter mode batch)
  | release (g : Guard) : Routine declares g.release
  | assign (target source : Guard) : Routine declares (Guard.assign target source)
  | stub {c : Collaborators σ ν} (declared : ∀ type, c.declare type = pure (declares type))
      (type : InterfaceType) (handle? : Option HandleId) :
      Routine declares (Stub.make c type handle?)
  | settings {c : Collaborators σ ν} (declared : ∀ type, c.declare type = pure (declares type))
      (type : InterfaceType) (caller : WorkflowOptions) :
      Routine declares (newStartSettings c type caller)
  | clear : Routine declares clearCache
  | route {c : Collaborators σ ν} (handles : ∀ h call, Routine declares (c.handle h call))
      (batches : ∀ b call, Routine declares (c.batch b call)) (router : Router) (h : HandleId)
      (target : Target) (args : List Value) : Routine declares (router.route c h target args)
  | call {c : Collaborators σ ν} (handles : ∀ h call, Routine declares (c.handle h call))
      (batches : ∀ b call, Routine declares (c.batch b call)) (stub : Stub) (m : Member)
      (args : List Value) : Routine declares (stub.call c m args)
  | start {c : Collaborators σ ν} (handles : ∀ h call, Routine declares (c.handle h call))
      (batches : ∀ b call, Routine declares (c.batch b call)) (stub : Stub) (m : Member)
      (args : List Value) : Routine declares (stub.start c m args)
  | execute {c : Collaborators σ ν} (handles : ∀ h call, Routine declares (c.handle h call))
      (batches : ∀ b call, Routine declares (c.batch b call)) (stub : Stub) (m : Member)
      (args : List Value) : Routine declares (stub.execute c m args)
  | add {α : Type} {x : Action σ ν α} (batch : BatchId) (body : Routine declares x) :
      Routine declares (Batch.recording batch x)
  | send {c : Collaborators σ ν} (handles : ∀ h call, Routine declares (c.handle h call))
      (b : Batch) : Routine declares (b.send c)

/-! ### Threads that take turns -/

/-- What a thread does in one turn.  The answers of the two questions about the cache are not for
the thread to use. -/
inductive Operation (σ ν ρ : Type) where
  | act (x : Action σ ν ρ)
  | contains (type : InterfaceType)
  | size

/-- What an operation answers. -/
inductive Answer (ρ : Type) where
  | ended (ending : Ending ρ)
  | contained (answer : Bool)
  | counted (size : Nat)

/-- How a turn ended: the answer, and the context in which it left the thread. -/
structure Report (ρ : Type) where
  answer : Answer ρ
  context : Option Context

/-- The threads, and the cache that they share. -/
structure Threads (ι σ ν : Type) where
  cache : Cache
  /-- Each thread as its last turn left it.  The cache in there is out of date. -/
  own : ι → State σ ν

/-- The answer, if it is not one about the cache. -/
def Answer.ending? : Answer ρ → Option (Ending ρ)
  | .ended ending => some ending
  | .contained _ | .counted _ => none

/-- What a report tells, but for the answers about the cache. -/
def Report.plain (report : Report ρ) : Option (Ending ρ) × Option Context :=
  (report.answer.ending?, report.context)

/-- The operation asks about the cache, or it is one of the things that a thread may do. -/
def Operation.Allowed (declares : InterfaceType → Declaration) : Operation σ ν ρ → Prop
  | .act x => Routine declares x
  | .contains _ | .size => True

def Operation.perform (op : Operation σ ν ρ) (s : State σ ν) : Answer ρ × State σ ν :=
  match op with
  | .act x => (.ended (runFrom x s).1, (runFrom x s).2)
  | .contains type => (.contained (s.cache.contains type), s)
  | .size => (.counted s.cache.size, s)

namespace Threads

/-- The state in which the next turn of a thread begins. -/
def state (p : Threads ι σ ν) (i : ι) : State σ ν := { p.own i with cache := p.cache }

variable [DecidableEq ι]

/-- A turn of one thread. -/
def step (p : Threads ι σ ν) (i : ι) (op : Operation σ ν ρ) : Report ρ × Threads ι σ ν :=
  let done := op.perform (p.state i)
  (⟨done.1, done.2.context⟩, ⟨done.2.cache, Function.update p.own i done.2⟩)

/-- The turns of a schedule, one after another, with the reports of each thread. -/
def run (p : Threads ι σ ν) :
    List (ι × Operation σ ν ρ) → List (ι × Report ρ) × Threads ι σ ν
  | [] => ([], p)
  | (i, op) :: rest =>
    let done := p.step i op
    ((i, done.1) :: (done.2.run rest).1, (done.2.run rest).2)

end Threads

/-- What belongs to one thread. -/
def ofThread [DecidableEq ι] (i : ι) (entries : List (ι × α)) : List (ι × α) :=
  entries.filter fun entry => entry.1 = i

/-! ## Fresh caches -/

namespace Cache.Fresh

variable {declares : InterfaceType → Declaration} {cache : Cache}

theorem of_empty (empty : cache.entries = []) : cache.Fresh declares := by
  intro type cached found
  rw [find?, empty] at found
  cases found

theorem clear (cache : Cache) : cache.clear.Fresh declares := of_empty rfl

theorem insert (fresh : cache.Fresh declares) {type : InterfaceType} {d : Descriptor}
    (resolved : (declares type).resolve = .ok d) (own : d.type = type) :
    (cache.insert type d).1.Fresh declares := by
  intro other cached found
  by_cases same : other = type
  · rw [same, find?_insert] at found
    obtain rfl := Option.some.inj found
    rw [same]
    exact ⟨resolved, own⟩
  · rw [find?_insert_of_ne cache d same] at found
    exact fresh other cached found

end Cache.Fresh

/-! ## Side by side -/

theorem shown_traced (s : State σ ν) (e : Event ν) :
    State.shown { s with trace := s.trace ++ [e] } =
      s.shown ++ [e].filter fun e => !e.ofResolver :=
  List.filter_append _ _

theorem shown_traced_of_resolver (s : State σ ν) {e : Event ν} (resolver : e.ofResolver = true) :
    State.shown { s with trace := s.trace ++ [e] } = s.shown := by
  rw [shown_traced]
  simp [resolver]

/-- The calls of handles and batches are shown. -/
theorem calls_of_shown (s : State σ ν) : s.shown.filterMap Event.call? = s.calls := by
  unfold State.shown State.calls
  rw [List.filterMap_filter]
  refine List.filterMap_congr fun e _ => ?_
  cases e with
  | declare | handleCall | batchCall | deferred | note => rfl
  | log line => cases Event.ofResolver (.log line : Event ν) <;> rfl

namespace SideBySide

variable {declares : InterfaceType → Declaration} {s t : State σ ν}

theorem self (fresh : s.cache.Fresh declares) : SideBySide declares s s :=
  ⟨rfl, rfl, rfl, rfl, fresh, fresh⟩

theorem traced (beside : SideBySide declares s t) (e : Event ν) :
    SideBySide declares { s with trace := s.trace ++ [e] }
      { t with trace := t.trace ++ [e] } := by
  refine { beside with shown_eq := ?_ }
  rw [shown_traced, shown_traced, beside.shown_eq]

/-- What is logged of the cache is not shown. -/
theorem unshown (beside : SideBySide declares s t) {e : Event ν} (resolver : e.ofResolver = true) :
    SideBySide declares s { t with trace := t.trace ++ [e] } :=
  { beside with shown_eq := (shown_traced_of_resolver t resolver).trans beside.shown_eq }

theorem cached (beside : SideBySide declares s t) {cache : Cache}
    (fresh : cache.Fresh declares) : SideBySide declares s { t with cache := cache } :=
  { beside with fresh' := fresh }

/-- Each goes on to a state that is alike to its own. -/
theorem advance (beside : SideBySide declares s t) {s' t' : State σ ν}
    (left : SideBySide declares s s') (right : SideBySide declares t t') :
    SideBySide declares s' t' where
  context_eq := (right.context_eq.trans beside.context_eq).trans left.context_eq.symm
  futures_eq := (right.futures_eq.trans beside.futures_eq).trans left.futures_eq.symm
  outside_eq := (right.outside_eq.trans beside.outside_eq).trans left.outside_eq.symm
  shown_eq := (right.shown_eq.trans beside.shown_eq).trans left.shown_eq.symm
  fresh := left.fresh'
  fresh' := right.fresh'

theorem sameContext : SameContext (SideBySide (σ := σ) (ν := ν) declares) where
  logged beside line := beside.traced (.log line)
  called beside call := beside.traced call.event
  outside_eq beside := beside.outside_eq
  outside_set beside _ := { beside with outside_eq := rfl }
  futures_eq beside := beside.futures_eq
  futures_set beside _ := { beside with futures_eq := rfl }
  context_eq beside := beside.context_eq
  placed beside _ := { beside with context_eq := rfl }

end SideBySide

/-! ## Descriptors -/

section

variable {declares : InterfaceType → Declaration} {c : Collaborators σ ν}
  (declared : ∀ type, c.declare type = pure (declares type))

include declared

theorem runFrom_askDeclaration (type : InterfaceType) (s : State σ ν) :
    runFrom (askDeclaration c type) s =
      (.ok (declares type), { s with trace := s.trace ++ [.declare type] }) := by
  unfold askDeclaration
  rw [declared, runFrom_bind, runFrom_record]
  rfl

/-- A get gives the descriptor that the declaration resolves to, or the reason why there is none,
and but for the cache nothing is changed. -/
theorem descriptorOf_granted {s : State σ ν} (fresh : s.cache.Fresh declares)
    (type : InterfaceType) :
    (runFrom (descriptorOf c type (some type)) s).1.map CachedDescriptor.descriptor =
        granted declares type ∧
      SideBySide declares s (runFrom (descriptorOf c type (some type)) s).2 := by
  obtain ⟨asked, lookup⟩ := descriptorOf_lookup c type (some type) s
  have missed : SideBySide declares s (s.missed type) := (SideBySide.self fresh).unshown rfl
  generalize (runFrom (descriptorOf c type (some type)) s).1 = got at lookup ⊢
  generalize (runFrom (descriptorOf c type (some type)) s).2 = t at lookup ⊢
  unfold granted
  cases lookup with
  | hit found =>
    obtain ⟨resolved, own⟩ := fresh type _ found
    rw [resolved]
    refine ⟨?_, (SideBySide.self fresh).unshown rfl⟩
    show Except.ok _ = if _ then _ else _
    rw [if_pos own]
  | undeclared _ ran =>
    rw [runFrom_askDeclaration declared] at ran
    cases ran
  | unresolved _ ran refused =>
    rw [runFrom_askDeclaration declared] at ran
    cases ran
    rw [refused]
    exact ⟨rfl, missed.unshown rfl⟩
  | foreign _ ran resolved other =>
    rw [runFrom_askDeclaration declared] at ran
    cases ran
    rw [resolved]
    refine ⟨?_, (missed.unshown rfl).unshown rfl⟩
    show Except.error _ = if _ then _ else _
    rw [if_neg other]
  | stored _ ran resolved own =>
    rw [runFrom_askDeclaration declared] at ran
    cases ran
    rw [resolved]
    refine ⟨?_, ((missed.unshown rfl).unshown rfl).cached (fresh.insert resolved own)⟩
    show Except.ok _ = if _ then _ else _
    rw [if_pos own]
    rfl

/-- A stub, or the settings of a start, are made of the descriptor, whichever get it is from. -/
theorem Fetch.agree {f : Fetch} (declaring : f.declaring = some f.type)
    (finish : ∀ cached cached' : CachedDescriptor, cached.descriptor = cached'.descriptor →
      f.finish cached = f.finish cached') :
    Agree (SideBySide declares) (f.carryOut c) (f.carryOut c) := by
  intro s t beside
  obtain ⟨got, left⟩ := descriptorOf_granted declared beside.fresh f.type
  obtain ⟨got', right⟩ := descriptorOf_granted declared beside.fresh' f.type
  rw [f.runFrom_carryOut c s, f.runFrom_carryOut c t, declaring]
  refine ⟨?_, beside.advance left right⟩
  have same := got.trans got'.symm
  generalize (runFrom (descriptorOf c f.type (some f.type)) s).1 = ending at same ⊢
  generalize (runFrom (descriptorOf c f.type (some f.type)) t).1 = ending' at same ⊢
  -- The numbers under which the two descriptors are stored can differ; only `finish` sees them.
  rcases ending with stop | cached <;> rcases ending' with stop' | cached'
  · obtain rfl : stop = stop' := Except.error.inj same
    rfl
  · cases same
  · cases same
  · exact finish cached cached' (Except.ok.inj same)

end

/-! ## One thread in two runs -/

/-- Whatever a thread does at one go, it cannot tell the two runs apart. -/
theorem Routine.agree {declares : InterfaceType → Declaration} {x : Action σ ν α}
    (routine : Routine declares x) : Agree (SideBySide declares) x x := by
  have same : SameContext (SideBySide (σ := σ) (ν := ν) declares) := SideBySide.sameContext
  -- The handles and the batches of a call are among its premises: they agree by induction.
  induction routine with
  | pure v => exact .pure v
  | bind _ _ first next => exact .bind first next
  | stop e => exact .stop e
  | observe _ body => exact .observe body
  | record e => exact fun _ _ beside => ⟨rfl, beside.traced e⟩
  | outside f => exact same.outside f
  | futures f => exact same.futures f
  | context => exact same.context
  | enter mode batch => exact same.enter mode batch
  | exit => exact same.setContext none
  | guard mode batch => exact same.guard mode batch
  | release g => exact same.release g
  | assign target source => exact same.assign target source
  | stub declared type handle? =>
    refine Fetch.agree declared (f := .stub type handle?) rfl fun cached cached' alike => ?_
    cases handle? with
    | none => rfl
    | some handle =>
      show Except.ok _ = .ok _
      rw [alike]
  | settings declared type caller =>
    refine Fetch.agree declared (f := .settings type caller) rfl fun cached cached' alike => ?_
    simp only [Fetch.finish, alike]
  | clear => exact fun s t beside => ⟨rfl, { beside with fresh := .clear _, fresh' := .clear _ }⟩
  | route _ _ router h target args handles batches =>
    exact same.route ⟨handles, batches⟩ router h target args
  | call _ _ stub m args handles batches => exact same.call ⟨handles, batches⟩ stub m args
  | start _ _ stub m args handles batches => exact same.start ⟨handles, batches⟩ stub m args
  | execute _ _ stub m args handles batches => exact same.execute ⟨handles, batches⟩ stub m args
  | add batch _ body => exact same.within body _ _
  | send _ b handles => exact same.send handles b

/-- A turn ends alike in the two runs, except that the questions about the cache can be answered
differently. -/
theorem Operation.perform_apart {declares : InterfaceType → Declaration} {op : Operation σ ν ρ}
    (allowed : op.Allowed declares) {s t : State σ ν} (beside : SideBySide declares s t) :
    (op.perform s).1.ending? = (op.perform t).1.ending? ∧
      SideBySide declares (op.perform s).2 (op.perform t).2 := by
  cases op with
  | act x =>
    obtain ⟨same, after⟩ := Routine.agree allowed s t beside
    exact ⟨congrArg some same, after⟩
  | contains | size => exact ⟨rfl, beside⟩

/-! ## Threads -/

namespace Threads

variable [DecidableEq ι] {declares : InterfaceType → Declaration} {p q : Threads ι σ ν} {i : ι}

theorem state_step_self (p : Threads ι σ ν) (i : ι) (op : Operation σ ν ρ) :
    (p.step i op).2.state i = (op.perform (p.state i)).2 := by
  unfold step
  simp only [state, Function.update_self]

/-- The turn of another thread changes nothing but the cache. -/
theorem state_step_of_ne (p : Threads ι σ ν) {i j : ι} (other : i ≠ j) (op : Operation σ ν ρ) :
    (p.step j op).2.state i =
      { p.state i with cache := (op.perform (p.state j)).2.cache } := by
  unfold step
  simp only [state, Function.update_of_ne other]

/-- A turn of the thread itself, in both runs. -/
theorem step_apart (beside : SideBySide declares (p.state i) (q.state i))
    {op : Operation σ ν ρ} (allowed : op.Allowed declares) :
    (p.step i op).1.plain = (q.step i op).1.plain ∧
      SideBySide declares ((p.step i op).2.state i) ((q.step i op).2.state i) := by
  obtain ⟨same, after⟩ := op.perform_apart allowed beside
  rw [state_step_self, state_step_self]
  exact ⟨Prod.ext same after.context_eq.symm, after⟩

/-- A turn of another thread, in the one run only. -/
theorem step_elsewhere (beside : SideBySide declares (p.state i) (q.state i)) {j : ι}
    (other : i ≠ j) {op : Operation σ ν ρ} (allowed : op.Allowed declares) :
    SideBySide declares ((p.step j op).2.state i) (q.state i) := by
  have fresh : p.cache.Fresh declares := beside.fresh
  -- All that is left of the other thread's turn is the cache, which is fresh after it as before.
  have after := (op.perform_apart allowed (.self (s := p.state j) fresh)).2
  rw [state_step_of_ne p other]
  exact { beside with fresh := after.fresh }

/-- The turns of one thread go alike among those of the others and on their own. -/
theorem run_apart {schedule : List (ι × Operation σ ν ρ)}
    (allowed : ∀ entry ∈ schedule, entry.2.Allowed declares)
    (beside : SideBySide declares (p.state i) (q.state i)) :
    (ofThread i (p.run schedule).1).map (fun entry => entry.2.plain) =
        (q.run (ofThread i schedule)).1.map (fun entry => entry.2.plain) ∧
      SideBySide declares ((p.run schedule).2.state i)
        ((q.run (ofThread i schedule)).2.state i) := by
  induction schedule generalizing p q with
  | nil => exact ⟨rfl, beside⟩
  | cons entry rest ih =>
    obtain ⟨j, op⟩ := entry
    have first : op.Allowed declares := allowed (j, op) List.mem_cons_self
    have later : ∀ entry ∈ rest, entry.2.Allowed declares :=
      fun entry mem => allowed entry (List.mem_cons_of_mem _ mem)
    by_cases own : j = i
    · obtain rfl := own
      obtain ⟨report, after⟩ := step_apart beside first
      obtain ⟨reports, end_⟩ := ih later after
      have turn : ofThread j ((j, op) :: rest) = (j, op) :: ofThread j rest :=
        List.filter_cons_of_pos (by simp)
      have told : ofThread j (p.run ((j, op) :: rest)).1 =
          (j, (p.step j op).1) :: ofThread j ((p.step j op).2.run rest).1 :=
        List.filter_cons_of_pos (by simp)
      rw [turn, told]
      exact ⟨congrArg₂ List.cons report reports, end_⟩
    · have after := step_elsewhere beside (Ne.symm own) first
      have turn : ofThread i ((j, op) :: rest) = ofThread i rest :=
        List.filter_cons_of_neg (by simpa using own)
      have told : ofThread i (p.run ((j, op) :: rest)).1 =
          ofThread i ((p.step j op).2.run rest).1 :=
        List.filter_cons_of_neg (by simpa using own)
      rw [turn, told]
      exact ih later after

end Threads

/-! ## Two threads that greet -/

/-- Every interface declares a greeting that starts its workflow, and all but one declare it twice.
-/
def greetings (type : InterfaceType) : Declaration where
  name := type.name
  type := type
  defaults := .empty
  methods :=
    let greet := .make "greet" (some ⟨type.name, "greet", .string, [.string], false⟩) .string
      [.role ⟨.entryPoint, "Greet"⟩]
    if type.name = "Greeter" then [greet] else [greet, greet]

/-- Handles that start what they are asked to start. -/
def welcoming : Collaborators Unit Unit where
  handle _
    | .start _ => pure ⟨"greeter-1", "run-1"⟩
    | _ => Action.fail (.logic "not expected")
  batch _ _ := pure ()
  declare type := pure (greetings type)

/-- Makes a stub and starts a greeting through it. -/
def greetThrough (type : InterfaceType) : Action Unit Unit Value := do
  let stub ← Stub.make welcoming type (some ⟨1, "ann"⟩)
  stub.start welcoming ⟨type.name, "greet", ⟨.string, [.string], false⟩⟩ [.string "Ann"]

theorem greetThrough_routine (type : InterfaceType) : Routine greetings (greetThrough type) := by
  have handles (h : HandleId) (call : HandleCall) :
      Routine greetings (welcoming.handle h call) := by
    cases call with
    | start args => exact .pure _
    | signal | query | getResult | getResultAsync | signalWithStart | getOptions => exact .stop _
  exact .bind (.stub (fun _ => rfl) type _) fun stub =>
    .start handles (fun _ _ => .pure ()) stub _ _

/-- One thread greets twice.  In between another uses the cache, fails to resolve an interface, and
clears the cache. -/
def inTurns : List (Bool × Operation Unit Unit Value) :=
  [(true, .act (greetThrough ⟨"Greeter"⟩)), (false, .act (greetThrough ⟨"Greeter"⟩)),
    (true, .act (greetThrough ⟨"Twins"⟩)), (true, .act (do clearCache; return .empty)),
    (false, .contains ⟨"Greeter"⟩), (false, .act (greetThrough ⟨"Greeter"⟩))]

theorem inTurns_allowed : ∀ entry ∈ inTurns, entry.2.Allowed greetings := by
  intro entry mem
  simp only [inTurns, List.mem_cons, List.not_mem_nil, or_false] at mem
  rcases mem with rfl | rfl | rfl | rfl | rfl | rfl
  · exact greetThrough_routine _
  · exact greetThrough_routine _
  · exact greetThrough_routine _
  · exact .bind .clear fun _ => .pure _
  · trivial
  · exact greetThrough_routine _

/-! ## Top theorem -/

/-- **Threads do not influence each other.**  Any number of threads take turns in any order; they
share the descriptor cache, and every interface is declared in one way.  Each thread gets from its
turns the same values and failures, in the same contexts, as when it takes them alone and begins
with an empty cache; it makes the same calls, logs the same but for what is told of the cache, and
is left in the same state.  Only what it asks about the cache can be answered differently. -/
theorem threads_do_not_interfere [DecidableEq ι] {declares : InterfaceType → Declaration}
    {schedule : List (ι × Operation σ ν ρ)}
    (allowed : ∀ entry ∈ schedule, entry.2.Allowed declares) {p : Threads ι σ ν}
    (fresh : p.cache.Fresh declares) (i : ι) :
    let together := p.run schedule
    let alone := Threads.run { p with cache := .empty } (ofThread i schedule)
    (ofThread i together.1).map (fun entry => entry.2.plain) =
        alone.1.map (fun entry => entry.2.plain) ∧
      (together.2.own i).shown = (alone.2.own i).shown ∧
      (together.2.own i).calls = (alone.2.own i).calls ∧
      (together.2.own i).context = (alone.2.own i).context ∧
      (together.2.own i).futures = (alone.2.own i).futures ∧
      (together.2.own i).outside = (alone.2.own i).outside := by
  intro together alone
  have start : SideBySide declares (p.state i)
      (Threads.state { p with cache := .empty } i) :=
    (SideBySide.self (s := p.state i) fresh).cached (.of_empty rfl)
  obtain ⟨reports, beside⟩ := Threads.run_apart allowed start
  have shown : (together.2.own i).shown = (alone.2.own i).shown := beside.shown_eq.symm
  refine ⟨reports, shown, ?_, beside.context_eq.symm, beside.futures_eq.symm,
    beside.outside_eq.symm⟩
  rw [← calls_of_shown, ← calls_of_shown, shown]

/-- The cache was cleared under the greeting thread: it learns that when it asks, and from nothing
else. -/
theorem inTurns_greets :
    let p : Threads Bool Unit Unit := ⟨.empty, fun _ => .initial ()⟩
    let together := p.run inTurns
    let alone := Threads.run { p with cache := .empty } (ofThread false inTurns)
    let started : Option (Ending Value) × Option Context :=
      (some (.ok (.execution ⟨"greeter-1", "run-1"⟩)), none)
    (∀ entry ∈ inTurns, entry.2.Allowed greetings) ∧ p.cache.Fresh greetings ∧
      alone.1.map (fun entry => entry.2.plain) = [started, (none, none), started] ∧
      (ofThread false together.1).map (fun entry => entry.2.plain) =
        [started, (none, none), started] ∧
      (together.2.own false).calls = (alone.2.own false).calls ∧
      (false, ⟨.contained false, none⟩) ∈ together.1 ∧
      (false, ⟨.contained true, none⟩) ∈ alone.1 := by
  intro p together alone started
  have fresh : p.cache.Fresh greetings := .of_empty rfl
  obtain ⟨reports, -, calls, -, -, -⟩ := threads_do_not_interfere inTurns_allowed fresh false
  have given : alone.1.map (fun entry => entry.2.plain) = [started, (none, none), started] := rfl
  refine ⟨inTurns_allowed, fresh, given, reports.trans given, calls, ?_, ?_⟩
  · exact .tail _ (.tail _ (.tail _ (.tail _ (.head _))))
  · exact .tail _ (.head _)

end WorkflowDispatch
