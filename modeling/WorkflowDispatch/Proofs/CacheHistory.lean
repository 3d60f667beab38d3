import Mathlib.Data.List.Basic
import WorkflowDispatch.Proofs.Reentry
import WorkflowDispatch.Proofs.Unambiguous

/-!
# The history of the descriptor cache

The threads use the cache one after another: each use is carried out under the lock.  It is a get,
directly or for a stub or for start settings, or a question, or a clear.  A get ends in one of six
ways, and only one of them changes the cache: there the declaration was asked for, resolved and
found to be of the type.  So what is stored can be followed back to the turn that stored it, and
forward until the cache is cleared; a type that is not stored is asked for again.

    Lookup c type declaring s asked (runFrom (descriptorOf c type declaring) s).1 …
                                                                          (descriptorOf_lookup)
    CacheRun c s turns s' → NoClear turns →
      s.cache.find? type = some cached → s'.cache.find? type = some cached
                                                                        (CacheRun.find?_eq_some)
-/

namespace WorkflowDispatch

open WorkflowDispatch.Action

variable {σ ν : Type}

/-! ## Uses -/

/-- What a descriptor is got for: itself, a stub, or the settings of a start. -/
inductive Fetch where
  | descriptor (type : InterfaceType) (declaring : Option InterfaceType)
  | stub (type : InterfaceType) (handle? : Option HandleId)
  | settings (type : InterfaceType) (caller : WorkflowOptions)

namespace Fetch

abbrev Answer : Fetch → Type
  | descriptor .. => CachedDescriptor
  | stub .. => Stub
  | settings .. => StartSettings

/-- The type whose descriptor is got. -/
def type : Fetch → InterfaceType
  | descriptor type _ => type
  | stub type _ => type
  | settings type _ => type

/-- Whose declaration is asked for when the cache has none. -/
def declaring : Fetch → Option InterfaceType
  | descriptor _ declaring => declaring
  | stub type _ => some type
  | settings type _ => some type

def carryOut (c : Collaborators σ ν) : (f : Fetch) → Action σ ν f.Answer
  | descriptor type declaring => descriptorOf c type declaring
  | stub type handle? => Stub.make c type handle?
  | settings type caller => newStartSettings c type caller

/-- What is made of the descriptor. -/
def finish : (f : Fetch) → CachedDescriptor → Ending f.Answer
  | descriptor .., cached => .ok cached
  | stub _ (some handle), cached => .ok ⟨handle, ⟨cached.descriptor⟩⟩
  | stub _ none, _ => .error (.thrown (Cause.toFailure StubError.noHandle))
  | settings _ caller, cached =>
    match cached.descriptor.startSettings caller with
    | .ok made => .ok made
    | .error cause => .error (.thrown (Cause.toFailure cause))

end Fetch

/-- A use of the cache. -/
inductive CacheUse where
  | fetch (f : Fetch)
  | contains (type : InterfaceType)
  | size
  | clear

namespace CacheUse

abbrev Answer : CacheUse → Type
  | fetch f => f.Answer
  | contains _ => Bool
  | size => Nat
  | clear => Unit

def carryOut (c : Collaborators σ ν) : (u : CacheUse) → Action σ ν u.Answer
  | fetch f => f.carryOut c
  | contains type => do return (← get).cache.contains type
  | size => do return (← get).cache.size
  | clear => clearCache

end CacheUse

/-! ## Lookups -/

/-- A line of the resolver was logged. -/
def State.reported (s : State σ ν) (level : LogLevel) (message : String) : State σ ν :=
  { s with trace := s.trace ++ [.log ⟨.resolver, level, message⟩] }

/-- A type that was not found is reported. -/
def State.missed (s : State σ ν) (type : InterfaceType) : State σ ν :=
  s.reported .trace ("descriptor cache miss: " ++ type.name)

/-- How a get can go, with what the declare function ended with if it was called. -/
inductive Lookup (c : Collaborators σ ν) (type : InterfaceType) :
    Option InterfaceType → State σ ν → Option (Ending Declaration) → Ending CachedDescriptor →
      State σ ν → Prop where
  /-- There is no declare function. -/
  | unnamed (s : State σ ν) :
      Lookup c type none s none (.error (.thrown (Cause.toFailure CacheError.noDeclaration))) s
  | hit {declaring : InterfaceType} {s : State σ ν} {cached : CachedDescriptor}
      (found : s.cache.find? type = some cached) :
      Lookup c type (some declaring) s none (.ok cached)
        (s.reported .trace ("descriptor cache hit: " ++ cached.descriptor.name))
  /-- The declare function throws. -/
  | undeclared {declaring : InterfaceType} {s t : State σ ν} {stop : Stop}
      (missing : s.cache.find? type = none)
      (asked : runFrom (askDeclaration c declaring) (s.missed type) = (.error stop, t)) :
      Lookup c type (some declaring) s (some (.error stop)) (.error stop) t
  | unresolved {declaring : InterfaceType} {s t : State σ ν} {d : Declaration}
      {fault : ResolveError} (missing : s.cache.find? type = none)
      (asked : runFrom (askDeclaration c declaring) (s.missed type) = (.ok d, t))
      (refused : d.resolve = .error fault) :
      Lookup c type (some declaring) s (some (.ok d)) (.error (.thrown (Cause.toFailure fault))) t
  /-- The declaration is that of another type. -/
  | foreign {declaring : InterfaceType} {s t : State σ ν} {d : Declaration}
      {descriptor : Descriptor} (missing : s.cache.find? type = none)
      (asked : runFrom (askDeclaration c declaring) (s.missed type) = (.ok d, t))
      (resolved : d.resolve = .ok descriptor) (other : descriptor.type ≠ type) :
      Lookup c type (some declaring) s (some (.ok d))
        (.error (.thrown (Cause.toFailure (CacheError.foreignType descriptor.name))))
        (t.reported .debug descriptor.summary)
  | stored {declaring : InterfaceType} {s t : State σ ν} {d : Declaration}
      {descriptor : Descriptor} (missing : s.cache.find? type = none)
      (asked : runFrom (askDeclaration c declaring) (s.missed type) = (.ok d, t))
      (resolved : d.resolve = .ok descriptor) (own : descriptor.type = type) :
      Lookup c type (some declaring) s (some (.ok d)) (.ok (t.cache.insert type descriptor).2)
        { t.reported .debug descriptor.summary with
          cache := (t.cache.insert type descriptor).1 }

/-! ## Runs -/

/-- A use of the cache in its turn. -/
structure CacheTurn (σ ν : Type) where
  use : CacheUse
  before : State σ ν
  after : State σ ν

/-- The uses take place one after another.  In between anything can happen that leaves the cache as
it is: another thread takes over, or the world changes. -/
inductive CacheRun (c : Collaborators σ ν) (s : State σ ν) :
    List (CacheTurn σ ν) → State σ ν → Prop where
  | start : CacheRun c s [] s
  | elsewhere {turns : List (CacheTurn σ ν)} {t t' : State σ ν} (run : CacheRun c s turns t)
      (same : t'.cache = t.cache) : CacheRun c s turns t'
  | used {turns : List (CacheTurn σ ν)} {t t' : State σ ν} (run : CacheRun c s turns t)
      (use : CacheUse) (carried : (runFrom (use.carryOut c) t).2 = t') :
      CacheRun c s (turns ++ [⟨use, t, t'⟩]) t'

def NoClear (turns : List (CacheTurn σ ν)) : Prop := ∀ turn ∈ turns, turn.use ≠ .clear

/-- No get for the type has a declare function. -/
def NoGet (type : InterfaceType) (turns : List (CacheTurn σ ν)) : Prop :=
  ∀ turn ∈ turns, ∀ f, turn.use = .fetch f → f.type = type → f.declaring = none

/-- A declare function that is called under the lock does not use the cache. -/
def Collaborators.DeclaresApart (c : Collaborators σ ν) : Prop :=
  ∀ type, (c.declare type).Keeps fun s t => t.cache = s.cache

/-- A get of the run stored the descriptor: it is the resolution of what the declare function
returned then, and the cache was not cleared since. -/
def Stored (c : Collaborators σ ν) (turns : List (CacheTurn σ ν)) (type : InterfaceType)
    (cached : CachedDescriptor) : Prop :=
  ∃ earlier turn later f declaring d, turns = earlier ++ turn :: later ∧ NoClear later ∧
    turn.use = .fetch f ∧ f.type = type ∧ f.declaring = some declaring ∧
    Lookup c type (some declaring) turn.before (some (.ok d)) (.ok cached) turn.after ∧
    d.resolve = .ok cached.descriptor

/-- The cache holds one descriptor for each of its types, and that is the one stored for it. -/
structure Cache.Consistent (cache : Cache) (c : Collaborators σ ν)
    (turns : List (CacheTurn σ ν)) : Prop where
  own_type : ∀ type cached, cache.find? type = some cached → cached.descriptor.type = type
  stored : ∀ type cached, cache.find? type = some cached → Stored c turns type cached
  distinct : (cache.entries.map Prod.fst).Nodup

/-- Until the cache is cleared every get for the type gives this descriptor and calls nobody. -/
def Serves (c : Collaborators σ ν) (type : InterfaceType) (cached : CachedDescriptor)
    (s : State σ ν) : Prop :=
  ∀ turns t, CacheRun c s turns t → NoClear turns →
    ∀ next : Fetch, next.type = type → next.declaring.isSome = true →
      runFrom (next.carryOut c) t = (next.finish cached,
        t.reported .trace ("descriptor cache hit: " ++ cached.descriptor.name))

/-- The next get for the type that has a declare function calls it. -/
def AsksNext (c : Collaborators σ ν) (type : InterfaceType) (s : State σ ν) : Prop :=
  ∀ turns t, CacheRun c s turns t → NoGet type turns →
    ∀ next : Fetch, next.type = type → next.declaring.isSome = true →
      ∃ declared got t', Lookup c type next.declaring t (some declared) got t' ∧
        runFrom (next.carryOut c) t = (got >>= next.finish, t')

/-! ## Gets -/

section

variable (c : Collaborators σ ν)

theorem runFrom_descriptorOf_hit {type : InterfaceType} {s : State σ ν}
    {cached : CachedDescriptor} (found : s.cache.find? type = some cached) (name : InterfaceType) :
    runFrom (descriptorOf c type (some name)) s =
      (.ok cached, s.reported .trace ("descriptor cache hit: " ++ cached.descriptor.name)) := by
  have read : runFrom (get : Action σ ν (State σ ν)) s = (.ok s, s) := rfl
  unfold descriptorOf
  rw [runFrom_bind, read]
  simp only [found]
  rfl

/-- Where nothing is found the declare function is called. -/
theorem runFrom_descriptorOf_miss {type : InterfaceType} {s : State σ ν}
    (missing : s.cache.find? type = none) (name : InterfaceType) :
    runFrom (descriptorOf c type (some name)) s =
      runFrom (askDeclaration c name >>= fun d => Action.resolve d >>= fun descriptor =>
        if descriptor.type = type then storeDescriptor type descriptor
        else refuse (CacheError.foreignType descriptor.name)) (s.missed type) := by
  have read : runFrom (get : Action σ ν (State σ ν)) s = (.ok s, s) := rfl
  unfold descriptorOf
  rw [runFrom_bind, read]
  simp only [missing]
  rfl

/-- All that a get can do. -/
theorem descriptorOf_lookup (type : InterfaceType) (declaring : Option InterfaceType)
    (s : State σ ν) : ∃ asked, Lookup c type declaring s asked
      (runFrom (descriptorOf c type declaring) s).1
      (runFrom (descriptorOf c type declaring) s).2 := by
  match declaring with
  | none => exact ⟨none, .unnamed s⟩
  | some declaring =>
    cases found : s.cache.find? type with
    | some cached =>
      rw [runFrom_descriptorOf_hit c found]
      exact ⟨none, .hit found⟩
    | none =>
      rw [runFrom_descriptorOf_miss c found, runFrom_bind]
      rcases asked : runFrom (askDeclaration c declaring) (s.missed type) with ⟨stop | d, t⟩
      · exact ⟨_, .undeclared found asked⟩
      · show ∃ declared, Lookup c type (some declaring) s declared
          (runFrom (Action.resolve d >>= _) t).1 (runFrom (Action.resolve d >>= _) t).2
        rw [runFrom_bind, runFrom_resolve]
        cases resolved : d.resolve with
        | error fault => exact ⟨_, .unresolved found asked resolved⟩
        | ok descriptor =>
          by_cases own : descriptor.type = type
          · simp only [if_pos own]
            exact ⟨_, .stored found asked resolved own⟩
          · simp only [if_neg own]
            exact ⟨_, .foreign found asked resolved own⟩

/-- A stub or the settings of a start are made of what the get gives, and nothing else is used. -/
theorem Fetch.runFrom_carryOut (f : Fetch) (s : State σ ν) :
    runFrom (f.carryOut c) s =
      ((runFrom (descriptorOf c f.type f.declaring) s).1 >>= f.finish,
        (runFrom (descriptorOf c f.type f.declaring) s).2) := by
  rcases got : runFrom (descriptorOf c f.type f.declaring) s with ⟨stop | cached, t⟩
  · cases f with
    | descriptor type declaring => exact got
    | stub type _ | settings type _ =>
      show runFrom (descriptorOf c type (some type) >>= _) s = _
      rw [runFrom_bind, show runFrom (descriptorOf c type (some type)) s = _ from got]
      rfl
  · cases f with
    | descriptor type declaring => exact got
    | stub type handle? =>
      show runFrom (descriptorOf c type (some type) >>= _) s = _
      rw [runFrom_bind, show runFrom (descriptorOf c type (some type)) s = _ from got]
      cases handle? <;> rfl
    | settings type caller =>
      show runFrom (descriptorOf c type (some type) >>= _) s = _
      rw [runFrom_bind, show runFrom (descriptorOf c type (some type)) s = _ from got]
      show runFrom (Action.expect (cached.descriptor.startSettings caller)) t =
        ((match cached.descriptor.startSettings caller with
          | .ok made => .ok made
          | .error cause => .error (.thrown (Cause.toFailure cause))), t)
      cases cached.descriptor.startSettings caller <;> rfl

end

namespace Lookup

variable {c : Collaborators σ ν} {type : InterfaceType} {declaring : Option InterfaceType}
  {s t : State σ ν} {asked : Option (Ending Declaration)} {got : Ending CachedDescriptor}

/-- A declare function that is asked leaves the cache as it is. -/
theorem cache_of_asked (apart : c.DeclaresApart) {name : InterfaceType}
    {declared : Ending Declaration}
    (ran : runFrom (askDeclaration c name) (s.missed type) = (declared, t)) :
    t.cache = s.cache := by
  have kept : (runFrom (askDeclaration c name) (s.missed type)).2.cache = s.cache := apart name _
  rw [ran] at kept
  exact kept

/-- A get leaves the cache as it is, or it stores what it gives. -/
theorem cache_cases (apart : c.DeclaresApart) (lookup : Lookup c type declaring s asked got t) :
    t.cache = s.cache ∨
      ∃ name d descriptor, declaring = some name ∧ asked = some (.ok d) ∧
        d.resolve = .ok descriptor ∧ descriptor.type = type ∧ s.cache.find? type = none ∧
        got = .ok (s.cache.insert type descriptor).2 ∧
        t.cache = (s.cache.insert type descriptor).1 := by
  cases lookup with
  | unnamed | hit => exact .inl rfl
  | undeclared _ ran | unresolved _ ran => exact .inl (cache_of_asked apart ran)
  | foreign _ ran =>
    have kept := cache_of_asked apart ran
    exact .inl kept
  | @stored name s t d descriptor missing ran resolved own =>
    -- What is stored is put into the cache as the declare function found it.
    have kept := cache_of_asked apart ran
    rw [kept]
    exact .inr ⟨name, d, descriptor, rfl, rfl, resolved, own, missing, rfl, rfl⟩

theorem cache_of_error (apart : c.DeclaresApart) {stop : Stop}
    (lookup : Lookup c type declaring s asked (.error stop) t) : t.cache = s.cache := by
  obtain same | ⟨_, _, _, _, _, _, _, _, got, _⟩ := lookup.cache_cases apart
  · exact same
  · cases got

/-- What a get gives is in the cache. -/
theorem find?_of_ok {cached : CachedDescriptor}
    (lookup : Lookup c type declaring s asked (.ok cached) t) :
    t.cache.find? type = some cached := by
  cases lookup with
  | hit found => exact found
  | stored => exact Cache.find?_insert ..

/-- What is in the cache is given. -/
theorem eq_of_found {name : InterfaceType} {cached : CachedDescriptor}
    (found : s.cache.find? type = some cached)
    (lookup : Lookup c type (some name) s asked got t) :
    got = .ok cached ∧
      t = s.reported .trace ("descriptor cache hit: " ++ cached.descriptor.name) := by
  cases lookup with
  | hit found' =>
    obtain rfl := Option.some.inj (found.symm.trans found')
    exact ⟨rfl, rfl⟩
  | undeclared missing | unresolved missing | foreign missing | stored missing =>
    rw [found] at missing
    cases missing

/-- For what is not in the cache a declare function is called. -/
theorem asked_of_missing {name : InterfaceType} (missing : s.cache.find? type = none)
    (lookup : Lookup c type (some name) s asked got t) : ∃ declared, asked = some declared := by
  cases lookup with
  | hit found =>
    rw [missing] at found
    cases found
  | undeclared | unresolved | foreign | stored => exact ⟨_, rfl⟩

end Lookup

/-! ## What a use does to the cache -/

section

variable {c : Collaborators σ ν}

/-- The cache stays as it is, or is cleared, or a get stores in it what it gives. -/
theorem CacheUse.cache_cases (apart : c.DeclaresApart) (use : CacheUse) {s t : State σ ν}
    (carried : (runFrom (use.carryOut c) s).2 = t) :
    (use ≠ .clear ∧ t.cache = s.cache) ∨ (use = .clear ∧ t.cache = s.cache.clear) ∨
      ∃ f name d descriptor, use = .fetch f ∧ f.declaring = some name ∧
        d.resolve = .ok descriptor ∧ descriptor.type = f.type ∧
        s.cache.find? f.type = none ∧ t.cache = (s.cache.insert f.type descriptor).1 ∧
        Lookup c f.type (some name) s (some (.ok d))
          (.ok (s.cache.insert f.type descriptor).2) t := by
  cases use with
  | contains _ | size =>
    rw [← carried]
    exact .inl ⟨nofun, rfl⟩
  | clear =>
    rw [← carried]
    exact .inr (.inl ⟨rfl, rfl⟩)
  | fetch f =>
    obtain ⟨asked, lookup⟩ := descriptorOf_lookup c f.type f.declaring s
    have ends : (runFrom (descriptorOf c f.type f.declaring) s).2 = t := by
      rw [← carried]
      exact (congrArg Prod.snd (f.runFrom_carryOut c s)).symm
    rw [ends] at lookup
    obtain same | ⟨name, d, descriptor, named, rfl, resolved, own, missing, got, stored⟩ :=
      lookup.cache_cases apart
    · exact .inl ⟨nofun, same⟩
    · rw [got, named] at lookup
      exact .inr (.inr
        ⟨f, name, d, descriptor, rfl, named, resolved, own, missing, stored, lookup⟩)

namespace CacheRun

variable {s t : State σ ν} {turns : List (CacheTurn σ ν)} {type : InterfaceType}

/-- What is stored stays until the cache is cleared. -/
theorem find?_eq_some (apart : c.DeclaresApart) (run : CacheRun c s turns t)
    (uncleared : NoClear turns) {cached : CachedDescriptor}
    (found : s.cache.find? type = some cached) : t.cache.find? type = some cached := by
  induction run with
  | start => exact found
  | elsewhere _ same ih =>
    rw [same]
    exact ih uncleared
  | used _ use carried ih =>
    have still := ih fun turn mem => uncleared turn (List.mem_append_left _ mem)
    obtain ⟨-, same⟩ | ⟨clears, -⟩ | ⟨f, _, _, descriptor, -, -, -, -, missing, stored, -⟩ :=
      use.cache_cases apart carried
    · rw [same]
      exact still
    · exact absurd clears (uncleared _ (List.mem_append_right _ (.head _)))
    · -- Something is stored only for a type that is missing, which this one is not.
      have other : type ≠ f.type := by
        rintro rfl
        rw [still] at missing
        cases missing
      rw [stored, Cache.find?_insert_of_ne _ descriptor other]
      exact still

/-- What is not stored is not there until it is asked for. -/
theorem find?_eq_none (apart : c.DeclaresApart) (run : CacheRun c s turns t)
    (unasked : NoGet type turns) (missing : s.cache.find? type = none) :
    t.cache.find? type = none := by
  induction run with
  | start => exact missing
  | elsewhere _ same ih =>
    rw [same]
    exact ih unasked
  | used _ use carried ih =>
    have still := ih fun turn mem => unasked turn (List.mem_append_left _ mem)
    obtain ⟨-, same⟩ | ⟨-, clears⟩ | ⟨f, name, _, descriptor, gets, named, -, -, -, stored, -⟩ :=
      use.cache_cases apart carried
    · rw [same]
      exact still
    · rw [clears]
      rfl
    · have other : type ≠ f.type := by
        rintro rfl
        have unnamed := unasked _ (List.mem_append_right _ (.head _)) f gets rfl
        rw [named] at unnamed
        cases unnamed
      rw [stored, Cache.find?_insert_of_ne _ descriptor other]
      exact still

end CacheRun

/-! ## Consistency -/

theorem noClear_nil : NoClear ([] : List (CacheTurn σ ν)) :=
  fun _ mem => absurd mem List.not_mem_nil

/-- A further turn that does not clear the cache leaves it known who stored a descriptor. -/
theorem Stored.concat {turns : List (CacheTurn σ ν)} {type : InterfaceType}
    {cached : CachedDescriptor} (stored : Stored c turns type cached) {turn : CacheTurn σ ν}
    (uncleared : turn.use ≠ .clear) : Stored c (turns ++ [turn]) type cached := by
  obtain ⟨earlier, storing, later, f, name, d, rfl, still, rest⟩ := stored
  refine ⟨earlier, storing, later ++ [turn], f, name, d, by simp, ?_, rest⟩
  intro other mem
  rcases List.mem_append.1 mem with mem | mem
  · exact still other mem
  · rw [List.mem_singleton.1 mem]
    exact uncleared

namespace Cache.Consistent

theorem of_empty {cache : Cache} (empty : cache.entries = []) : cache.Consistent c [] := by
  have missing (type : InterfaceType) : cache.find? type = none := by
    unfold Cache.find?
    rw [empty]
    rfl
  refine ⟨fun type cached found => ?_, fun type cached found => ?_, ?_⟩
  · rw [missing] at found
    cases found
  · rw [missing] at found
    cases found
  · rw [empty]
    exact List.nodup_nil

variable {cache : Cache} {turns : List (CacheTurn σ ν)}

/-- A turn in which nothing is cleared or stored changes nothing. -/
theorem concat (consistent : cache.Consistent c turns) {turn : CacheTurn σ ν}
    (uncleared : turn.use ≠ .clear) : cache.Consistent c (turns ++ [turn]) where
  own_type := consistent.own_type
  stored type cached found := (consistent.stored type cached found).concat uncleared
  distinct := consistent.distinct

theorem clear (cache : Cache) (c : Collaborators σ ν) (turns : List (CacheTurn σ ν)) :
    cache.clear.Consistent c turns where
  own_type _ _ found := by cases found
  stored _ _ found := by cases found
  distinct := List.nodup_nil

/-- What a get stores is the resolution of what was declared in its turn. -/
theorem insert {s t : State σ ν} {f : Fetch} {name : InterfaceType} {d : Declaration}
    {descriptor : Descriptor} (consistent : s.cache.Consistent c turns)
    (named : f.declaring = some name) (resolved : d.resolve = .ok descriptor)
    (own : descriptor.type = f.type) (missing : s.cache.find? f.type = none)
    (lookup : Lookup c f.type (some name) s (some (.ok d))
      (.ok (s.cache.insert f.type descriptor).2) t) :
    (s.cache.insert f.type descriptor).1.Consistent c (turns ++ [⟨.fetch f, s, t⟩]) := by
  have uncleared : CacheUse.fetch f ≠ .clear := nofun
  -- The new entry is accounted for by this turn, each older one by the turn that stored it.
  refine ⟨fun type cached found => ?_, fun type cached found => ?_, ?_⟩
  · by_cases same : type = f.type
    · subst same
      rw [Cache.find?_insert] at found
      obtain rfl := Option.some.inj found
      exact own
    · rw [Cache.find?_insert_of_ne _ _ same] at found
      exact consistent.own_type type cached found
  · by_cases same : type = f.type
    · subst same
      rw [Cache.find?_insert] at found
      obtain rfl := Option.some.inj found
      exact ⟨turns, ⟨.fetch f, s, t⟩, [], f, name, d, rfl, noClear_nil, rfl, rfl, named, lookup,
        resolved⟩
    · rw [Cache.find?_insert_of_ne _ _ same] at found
      exact (consistent.stored type cached found).concat uncleared
  · show (f.type :: s.cache.entries.map Prod.fst).Nodup
    refine List.nodup_cons.2 ⟨fun mem => ?_, consistent.distinct⟩
    obtain ⟨entry, mem, same⟩ := List.mem_map.1 mem
    have differs := List.lookup_eq_none_iff.1 missing entry mem
    simp [same] at differs

/-- Every use keeps the cache consistent with the turns so far. -/
theorem used (apart : c.DeclaresApart) {s t : State σ ν}
    (consistent : s.cache.Consistent c turns) (use : CacheUse)
    (carried : (runFrom (use.carryOut c) s).2 = t) :
    t.cache.Consistent c (turns ++ [⟨use, s, t⟩]) := by
  obtain ⟨uncleared, same⟩ | ⟨-, clears⟩ | ⟨f, name, d, descriptor, rfl, named, resolved, own,
    missing, stored, lookup⟩ := use.cache_cases apart carried
  · rw [same]
    exact consistent.concat uncleared
  · rw [clears]
    exact clear ..
  · rw [stored]
    exact consistent.insert named resolved own missing lookup

end Cache.Consistent

/-- Over a whole run the cache stays consistent. -/
theorem CacheRun.consistent (apart : c.DeclaresApart) {s t : State σ ν}
    {turns : List (CacheTurn σ ν)} (empty : s.cache.entries = []) (run : CacheRun c s turns t) :
    t.cache.Consistent c turns := by
  induction run with
  | start => exact .of_empty empty
  | elsewhere _ same ih =>
    rw [same]
    exact ih
  | used _ use carried ih => exact ih.used apart use carried

/-! ## Later gets -/

/-- A get that has a declare function. -/
theorem Fetch.lookup_of_declaring (f : Fetch) (named : f.declaring.isSome = true)
    (s : State σ ν) : ∃ name asked got t, f.declaring = some name ∧
      Lookup c f.type (some name) s asked got t ∧
      runFrom (f.carryOut c) s = (got >>= f.finish, t) := by
  obtain ⟨name, declaring⟩ := Option.isSome_iff_exists.1 named
  obtain ⟨asked, lookup⟩ := descriptorOf_lookup c f.type f.declaring s
  have ran := f.runFrom_carryOut c s
  rw [declaring] at lookup ran
  exact ⟨name, asked, _, _, declaring, lookup, ran⟩

theorem serves_of_found (apart : c.DeclaresApart) {s : State σ ν} {type : InterfaceType}
    {cached : CachedDescriptor} (found : s.cache.find? type = some cached) :
    Serves c type cached s := by
  rintro turns t run uncleared next rfl named
  have still := run.find?_eq_some apart uncleared found
  obtain ⟨name, asked, got, t', -, lookup, ran⟩ := next.lookup_of_declaring named t
  obtain ⟨rfl, rfl⟩ := lookup.eq_of_found still
  exact ran

theorem asksNext_of_missing (apart : c.DeclaresApart) {s : State σ ν} {type : InterfaceType}
    (missing : s.cache.find? type = none) : AsksNext c type s := by
  rintro turns t run unasked next rfl named
  have still := run.find?_eq_none apart unasked missing
  obtain ⟨name, asked, got, t', declaring, lookup, ran⟩ := next.lookup_of_declaring named t
  obtain ⟨declared, rfl⟩ := lookup.asked_of_missing still
  rw [declaring]
  exact ⟨declared, got, t', lookup, ran⟩

end

theorem Cache.contains_eq (cache : Cache) (type : InterfaceType) :
    cache.contains type = decide (type ∈ cache.entries.map Prod.fst) := by
  unfold Cache.contains Cache.find?
  rw [Bool.eq_iff_iff, List.lookup_isSome_iff, decide_eq_true_iff, List.mem_map]
  refine exists_congr fun entry => and_congr_right fun _ => ?_
  rw [beq_iff_eq]
  exact eq_comm

/-! ## Top theorem -/

/-- **The descriptor cache is consistent over every run.**  Whoever uses it in whatever order: each
cached descriptor has the type it is stored under and is the resolution of a declaration that a get
asked for since the cache was last cleared; the size is the number of types that the cache says it
contains.  Any get then goes as a lookup does, and a stub or the settings of a start are made of
what it gives.  A descriptor that was got is given by each later get until the cache is cleared, and
no declare function is called for it.  A get that fails leaves the cache as it was, and when the
type was not cached the next get for it calls its declare function. -/
theorem cache_consistent_over_runs {c : Collaborators σ ν} (apart : c.DeclaresApart)
    {s s' : State σ ν} {turns : List (CacheTurn σ ν)} (empty : s.cache.entries = [])
    (run : CacheRun c s turns s') :
    (∀ type cached, s'.cache.find? type = some cached →
        cached.descriptor.type = type ∧ Stored c turns type cached) ∧
      (∃ types : List InterfaceType, types.Nodup ∧
        runFrom (CacheUse.size.carryOut c) s' = (.ok types.length, s') ∧
        ∀ type, runFrom ((CacheUse.contains type).carryOut c) s' =
          (.ok (decide (type ∈ types)), s')) ∧
      ∀ f : Fetch, ∃ asked got t, Lookup c f.type f.declaring s' asked got t ∧
        runFrom (f.carryOut c) s' = (got >>= f.finish, t) ∧
        (∀ cached, got = .ok cached → Serves c f.type cached t) ∧
        ∀ stop, got = .error stop → t.cache = s'.cache ∧
          (s'.cache.contains f.type = false → AsksNext c f.type t) := by
  have consistent := run.consistent apart empty
  refine ⟨fun type cached found => ?_, ⟨s'.cache.entries.map Prod.fst, consistent.distinct, ?_, ?_⟩,
    fun f => ?_⟩
  · exact ⟨consistent.own_type type cached found, consistent.stored type cached found⟩
  · rw [List.length_map]
    rfl
  · intro type
    rw [← Cache.contains_eq]
    rfl
  · obtain ⟨asked, lookup⟩ := descriptorOf_lookup c f.type f.declaring s'
    refine ⟨asked, _, _, lookup, f.runFrom_carryOut c s', fun cached got => ?_,
      fun stop got => ?_⟩
    · rw [got] at lookup
      exact serves_of_found apart lookup.find?_of_ok
    · rw [got] at lookup
      have same := lookup.cache_of_error apart
      refine ⟨same, fun absent => asksNext_of_missing apart ?_⟩
      rw [same]
      exact Option.not_isSome_iff_eq_none.1 (by simpa [Cache.contains] using absent)

/-- Collaborators whose first declare function throws; after that a greeter is declared. -/
def wavering : Collaborators Bool Unit where
  handle _ _ := throw (.stuck "no handle answers")
  batch _ _ := throw (.stuck "no batch answers")
  declare type := do
    let declares ← Action.outside fun declares => (declares, true)
    if declares then
      return ⟨"Greeter", type, .empty, [.make "greet" none .string [.role ⟨.entryPoint, ""⟩]]⟩
    else Action.fail (.runtime "not yet")

/-- The first get fails, the second asks again, and a stub is made from what that gives, also when
the declare function would throw once more. -/
theorem greeter_is_declared_again :
    let type : InterfaceType := ⟨"Greeter"⟩
    let get : Fetch := .descriptor type (some type)
    let first := runFrom (get.carryOut wavering) (.initial false)
    let second := runFrom (get.carryOut wavering) first.2
    let later := { second.2 with outside := false }
    first.1 = .error (.thrown (.runtime "not yet")) ∧ first.2.cache = .empty ∧
      ∃ cached, second.1 = .ok cached ∧ Stored wavering
        [⟨.fetch get, .initial false, first.2⟩, ⟨.fetch get, first.2, second.2⟩] type cached ∧
      runFrom ((Fetch.stub type (some ⟨1, "ann"⟩)).carryOut wavering) later =
        (.ok ⟨⟨1, "ann"⟩, ⟨cached.descriptor⟩⟩,
          later.reported .trace ("descriptor cache hit: " ++ cached.descriptor.name)) := by
  intro type get first second later
  have apart : wavering.DeclaresApart := by
    intro _ s
    obtain ⟨_, _, _, _, _ | _⟩ := s <;> rfl
  have failing : CacheRun wavering (.initial false) _ first.2 := .used .start (.fetch get) rfl
  have storing : CacheRun wavering (.initial false) _ second.2 := failing.used (.fetch get) rfl
  obtain ⟨cached, found⟩ : ∃ cached, second.2.cache.find? type = some cached := ⟨_, rfl⟩
  obtain ⟨-, -, gets⟩ := cache_consistent_over_runs apart rfl failing
  obtain ⟨asked, got, t, lookup, ran, serves, -⟩ := gets get
  obtain ⟨stored, -, -⟩ := cache_consistent_over_runs apart rfl storing
  have given : second = (.ok cached, second.2) := by
    obtain rfl := Option.some.inj found
    rfl
  have same : (got >>= get.finish, t) = (.ok cached, second.2) := ran.symm.trans given
  rcases got with stop | cached'
  · cases same
  · obtain ⟨answer, rfl⟩ := Prod.mk.inj same
    obtain rfl : cached' = cached := Except.ok.inj answer
    have next := serves cached' rfl [] later (.elsewhere .start rfl) noClear_nil
      (.stub type (some ⟨1, "ann"⟩)) rfl rfl
    exact ⟨rfl, rfl, cached', congrArg Prod.fst given, (stored type cached' found).2, next⟩

end WorkflowDispatch
