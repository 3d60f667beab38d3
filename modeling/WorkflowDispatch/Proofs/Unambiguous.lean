import WorkflowDispatch.Action.Descriptor

/-!
# Unambiguous declarations

A declaration is accepted when its methods are unambiguous, which does not depend on their order:
each has at most one role, no two share a role and a name, and at most one starts the workflow.
Otherwise the error is that of the first method at which the methods read so far are no longer
unambiguous.  The reader compares a method with the table entries of those before it; as long as
these are unambiguous the entries say the same as the declaration.

    Unambiguous before →
      m.fault? interface (before.map entry) = none ∧ Unambiguous (before ++ [m]), or a fault that
      reports the defect of m                                                       (fault?_cases)
    Unambiguous before →
      resolveMethods interface (before.map entry) rest = .ok entries ∧ Unambiguous (before ++ rest),
      or the fault of the first method that breaks this                     (resolveMethods_cases)
-/

namespace WorkflowDispatch

open WorkflowDispatch.Action

variable {σ ν : Type}

/-! ## Definitions -/

namespace DeclaredMethod

/-- The method is marked with the role, and the name is that of the marker or, when that is empty,
the identifier. -/
def Plays (m : DeclaredMethod) (role : Role) (name : String) : Prop :=
  ∃ mark ∈ m.roleMarks, mark.role = role ∧
    name = if mark.name = "" then m.identifier else mark.name

/-- The method is marked as one that starts the workflow. -/
def Starts (m : DeclaredMethod) : Prop := ∃ name, m.Plays .entryPoint name

end DeclaredMethod

/-- Nothing in the methods is ambiguous. -/
structure Unambiguous (methods : List DeclaredMethod) : Prop where
  one_role : ∀ m ∈ methods, m.roleMarks.length ≤ 1
  names_differ : methods.Pairwise fun m m' => ∀ role name, m.Plays role name → ¬m'.Plays role name
  one_start : methods.Pairwise fun m m' => m.Starts → ¬m'.Starts

/-- The methods before this one are unambiguous, and with this one they are not. -/
structure BreaksFirst (methods before : List DeclaredMethod) (m : DeclaredMethod) : Prop where
  among : before ++ [m] <+: methods
  fine : Unambiguous before
  broken : ¬Unambiguous (before ++ [m])

/-- What is reported of a method that breaks a rule after those before it. -/
inductive Defect (interface : String) (before : List DeclaredMethod) (m : DeclaredMethod) :
    WorkflowError → Prop where
  | manyRoles (several : 1 < m.roleMarks.length) :
      Defect interface before m (.ofKind .ambiguousRole
        (interface ++ "::" ++ m.identifier ++
          " must carry at most one of WorkflowMethod, SignalMethod or QueryMethod"))
  | nameTaken {role : Role} {name : String} {earlier : DeclaredMethod}
      (one : m.roleMarks.length ≤ 1) (plays : m.Plays role name) (mem : earlier ∈ before)
      (taken : earlier.Plays role name) :
      Defect interface before m (.ofKind .duplicateName
        (interface ++ "::" ++ m.identifier ++ " resolves to " ++ role.name ++ " name '" ++ name ++
          "' which is already taken"))
  | manyStarts {name : String} {first : DeclaredMethod}
      (one : m.roleMarks.length ≤ 1) (plays : m.Plays .entryPoint name)
      (free : ∀ earlier ∈ before, ¬earlier.Plays .entryPoint name) (mem : first ∈ before)
      (starts : first.Starts) :
      Defect interface before m (.ofKind .ambiguousRole
        (interface ++ " declares more than one workflow method: " ++ first.identifier ++ " and " ++
          m.identifier))

/-! ## Entries -/

namespace DeclaredMethod

variable {m : DeclaredMethod} {role role' : Role} {name name' : String}

theorem not_plays_of_nil (unmarked : m.roleMarks = []) : ¬m.Plays role name := by
  rintro ⟨mark, mem, -⟩
  rw [unmarked] at mem
  cases mem

theorem not_starts_of_nil (unmarked : m.roleMarks = []) : ¬m.Starts := by
  rintro ⟨name, plays⟩
  exact not_plays_of_nil unmarked plays

theorem plays_iff_of_singleton {mark : RoleMark} (marked : m.roleMarks = [mark]) :
    m.Plays role name ↔ mark.resolve m.identifier = ⟨role, name⟩ := by
  unfold Plays RoleMark.resolve
  rw [marked]
  simp only [List.mem_singleton, exists_eq_left, ResolvedRole.mk.injEq, String.isEmpty_iff]
  constructor
  · rintro ⟨same, rfl⟩
    exact ⟨same, rfl⟩
  · rintro ⟨same, rfl⟩
    exact ⟨same, rfl⟩

/-- The table entry of a method says which role the method plays. -/
theorem entry_resolved_eq_some_iff (one : m.roleMarks.length ≤ 1) :
    m.entry.resolved = some ⟨role, name⟩ ↔ m.Plays role name := by
  unfold entry
  match marked : m.roleMarks with
  | [] => simp [not_plays_of_nil marked]
  | [mark] => simp [plays_iff_of_singleton marked]
  | _ :: _ :: _ => simp [marked] at one

theorem isEntryPoint_entry_iff (one : m.roleMarks.length ≤ 1) :
    m.entry.isEntryPoint = true ↔ m.Starts := by
  unfold Starts
  simp only [← entry_resolved_eq_some_iff one]
  unfold DescribedMethod.isEntryPoint
  match m.entry.resolved with
  | none => simp
  | some ⟨role, name⟩ => simp

/-- A method with one marker plays one role, under one name. -/
theorem Plays.unique (one : m.roleMarks.length ≤ 1) (plays : m.Plays role name)
    (other : m.Plays role' name') : role = role' ∧ name = name' := by
  rw [← entry_resolved_eq_some_iff one] at plays other
  rw [plays] at other
  simpa using other

end DeclaredMethod

/-! ## Unambiguous methods -/

namespace Unambiguous

variable {before methods : List DeclaredMethod} {m : DeclaredMethod}

theorem nil : Unambiguous [] where
  one_role _ mem := by cases mem
  names_differ := .nil
  one_start := .nil

theorem of_prefix (unambiguous : Unambiguous methods) (among : before <+: methods) :
    Unambiguous before where
  one_role m mem := unambiguous.one_role m (among.subset mem)
  names_differ := unambiguous.names_differ.sublist among.sublist
  one_start := unambiguous.one_start.sublist among.sublist

/-- What one more method must respect. -/
theorem concat_iff (unambiguous : Unambiguous before) :
    Unambiguous (before ++ [m]) ↔
      m.roleMarks.length ≤ 1 ∧
        (∀ earlier ∈ before, ∀ role name, earlier.Plays role name → ¬m.Plays role name) ∧
        ∀ earlier ∈ before, earlier.Starts → ¬m.Starts := by
  constructor
  · intro whole
    refine ⟨whole.one_role m (by simp), fun earlier mem => ?_, fun earlier mem => ?_⟩
    · exact (List.pairwise_append.1 whole.names_differ).2.2 earlier mem m (by simp)
    · exact (List.pairwise_append.1 whole.one_start).2.2 earlier mem m (by simp)
  · rintro ⟨one, names, start⟩
    refine ⟨fun other mem => ?_, ?_, ?_⟩
    · rcases List.mem_append.1 mem with mem | mem
      · exact unambiguous.one_role other mem
      · rw [List.mem_singleton.1 mem]
        exact one
    · refine List.pairwise_append.2 ⟨unambiguous.names_differ, List.pairwise_singleton _ _, ?_⟩
      intro earlier mem other last
      rw [List.mem_singleton.1 last]
      exact names earlier mem
    · refine List.pairwise_append.2 ⟨unambiguous.one_start, List.pairwise_singleton _ _, ?_⟩
      intro earlier mem other last
      rw [List.mem_singleton.1 last]
      exact start earlier mem

/-- One method at most starts the workflow. -/
theorem start_unique (unambiguous : Unambiguous methods) {first second : DeclaredMethod}
    (mem : first ∈ methods) (mem' : second ∈ methods) (starts : first.Starts)
    (starts' : second.Starts) : first = second := by
  obtain ⟨i, lt, rfl⟩ := List.getElem_of_mem mem
  obtain ⟨j, lt', rfl⟩ := List.getElem_of_mem mem'
  have apart := List.pairwise_iff_getElem.1 unambiguous.one_start
  rcases Nat.lt_trichotomy i j with less | rfl | more
  · exact absurd starts' (apart i j lt lt' less starts)
  · rfl
  · exact absurd starts (apart j i lt' lt more starts')

end Unambiguous

/-- Where a method breaks the rules, the whole is not unambiguous. -/
theorem BreaksFirst.not_unambiguous {methods before : List DeclaredMethod} {m : DeclaredMethod}
    (breaks : BreaksFirst methods before m) : ¬Unambiguous methods :=
  fun fine => breaks.broken (fine.of_prefix breaks.among)

/-- Only one method breaks the rules first. -/
theorem BreaksFirst.unique {methods before before' : List DeclaredMethod} {m m' : DeclaredMethod}
    (breaks : BreaksFirst methods before m) (breaks' : BreaksFirst methods before' m') :
    before = before' ∧ m = m' := by
  -- The shorter of the two readings would stand within an unambiguous one.
  have within {b b' : List DeclaredMethod} {n n' : DeclaredMethod}
      (first : BreaksFirst methods b n) (second : BreaksFirst methods b' n') :
      ¬b.length < b'.length := by
    intro shorter
    have inside : b ++ [n] <+: b' :=
      List.prefix_of_prefix_length_le first.among
        ((List.prefix_append b' [n']).trans second.among) (by simp; omega)
    exact first.broken (second.fine.of_prefix inside)
  have length : before.length = before'.length := by
    have := within breaks breaks'
    have := within breaks' breaks
    omega
  have same : before ++ [m] = before' ++ [m'] :=
    List.prefix_of_prefix_length_le breaks.among breaks'.among (by simp [length]) |>.eq_of_length
      (by simp [length])
  obtain ⟨rfl, last⟩ := List.append_inj same length
  exact ⟨rfl, List.head_eq_of_cons_eq last⟩

/-! ## Faults -/

section

variable {before : List DeclaredMethod} {m : DeclaredMethod} {role : Role} {name : String}

/-- The entries show which names are taken. -/
theorem any_entry_iff (fine : Unambiguous before) :
    (before.map DeclaredMethod.entry).any (·.resolved == some ⟨role, name⟩) = true ↔
      ∃ earlier ∈ before, earlier.Plays role name := by
  rw [List.any_map, List.any_eq_true]
  refine exists_congr fun earlier => and_congr_right fun mem => ?_
  rw [← DeclaredMethod.entry_resolved_eq_some_iff (fine.one_role earlier mem)]
  exact beq_iff_eq

/-- The entries show whether one starts the workflow already. -/
theorem find?_entry_cases (fine : Unambiguous before) :
    ((before.map DeclaredMethod.entry).find? DescribedMethod.isEntryPoint = none ∧
        ∀ earlier ∈ before, ¬earlier.Starts) ∨
      ∃ first ∈ before, first.Starts ∧
        (before.map DeclaredMethod.entry).find? DescribedMethod.isEntryPoint =
          some first.entry := by
  rw [List.find?_map]
  cases found : before.find? (DescribedMethod.isEntryPoint ∘ DeclaredMethod.entry) with
  | none =>
    refine .inl ⟨rfl, fun earlier mem starts => ?_⟩
    have unmarked := List.find?_eq_none.1 found earlier mem
    exact unmarked ((DeclaredMethod.isEntryPoint_entry_iff (fine.one_role earlier mem)).2 starts)
  | some first =>
    have mem := List.mem_of_find?_eq_some found
    have starts := List.find?_some found
    exact .inr ⟨first, mem,
      (DeclaredMethod.isEntryPoint_entry_iff (fine.one_role first mem)).1 starts, rfl⟩

theorem fault?_of_nil (unmarked : m.roleMarks = []) (interface : String)
    (earlier : List DescribedMethod) : m.fault? interface earlier = none := by
  unfold DeclaredMethod.fault?
  rw [unmarked]

theorem fault?_of_several (several : 1 < m.roleMarks.length) (interface : String)
    (earlier : List DescribedMethod) :
    m.fault? interface earlier = some (.manyRoles (m.qualified interface)) := by
  unfold DeclaredMethod.fault?
  match marked : m.roleMarks with
  | [] | [_] => simp [marked] at several
  | _ :: _ :: _ => rfl

theorem fault?_of_singleton {mark : RoleMark} (marked : m.roleMarks = [mark])
    (resolved : mark.resolve m.identifier = ⟨role, name⟩) (interface : String)
    (earlier : List DescribedMethod) :
    m.fault? interface earlier =
      if earlier.any (·.resolved == some ⟨role, name⟩) then
        some (.nameTaken (m.qualified interface) ⟨role, name⟩)
      else if role = .entryPoint then
        (earlier.find? DescribedMethod.isEntryPoint).map fun first =>
          .manyEntryPoints interface first.identifier m.identifier
      else none := by
  unfold DeclaredMethod.fault?
  rw [marked]
  simp only [resolved]

/-- All that can be found at a method after unambiguous ones: nothing is wrong, or what is reported
is a defect. -/
theorem fault?_cases (interface : String) (fine : Unambiguous before) (m : DeclaredMethod) :
    (m.fault? interface (before.map DeclaredMethod.entry) = none ∧ Unambiguous (before ++ [m])) ∨
      ∃ fault, m.fault? interface (before.map DeclaredMethod.entry) = some fault ∧
        ¬Unambiguous (before ++ [m]) ∧ Defect interface before m (Cause.toError fault) := by
  rw [fine.concat_iff]
  match marked : m.roleMarks with
  | [] =>
    refine .inl ⟨fault?_of_nil marked _ _, by simp, fun earlier mem role name _ => ?_,
      fun earlier mem _ => ?_⟩
    · exact DeclaredMethod.not_plays_of_nil marked
    · exact DeclaredMethod.not_starts_of_nil marked
  | [mark] =>
    have one : m.roleMarks.length ≤ 1 := by simp [marked]
    obtain ⟨role, name, resolved⟩ : ∃ role name, mark.resolve m.identifier = ⟨role, name⟩ :=
      ⟨_, _, rfl⟩
    have plays : m.Plays role name := (DeclaredMethod.plays_iff_of_singleton marked).2 resolved
    rw [fault?_of_singleton marked resolved]
    -- A second start under the name of the first is reported for its name.
    by_cases taken : ∃ earlier ∈ before, earlier.Plays role name
    · rw [if_pos ((any_entry_iff fine).2 taken)]
      obtain ⟨earlier, mem, takes⟩ := taken
      refine .inr ⟨_, rfl, fun respects => ?_, .nameTaken one plays mem takes⟩
      exact respects.2.1 earlier mem role name takes plays
    · rw [if_neg fun found => taken ((any_entry_iff fine).1 found)]
      have names (earlier) (mem : earlier ∈ before) (role' name')
          (takes : earlier.Plays role' name') : ¬m.Plays role' name' := by
        intro plays'
        obtain ⟨rfl, rfl⟩ := plays.unique one plays'
        exact taken ⟨earlier, mem, takes⟩
      by_cases starting : role = .entryPoint
      · rw [if_pos starting]
        subst starting
        obtain ⟨unfound, free⟩ | ⟨first, mem, starts, found⟩ := find?_entry_cases fine
        · rw [unfound]
          refine .inl ⟨rfl, by simp, names, fun earlier mem starts => ?_⟩
          exact absurd starts (free earlier mem)
        · rw [found]
          refine .inr ⟨_, rfl, fun respects => ?_, ?_⟩
          · exact respects.2.2 first mem starts ⟨name, plays⟩
          · exact .manyStarts one plays (fun earlier mem takes => taken ⟨earlier, mem, takes⟩) mem
              starts
      · rw [if_neg starting]
        refine .inl ⟨rfl, by simp, names, ?_⟩
        rintro earlier mem - ⟨name', starts⟩
        exact starting (plays.unique one starts).1
  | _ :: _ :: _ =>
    have several : 1 < m.roleMarks.length := by simp [marked]
    refine .inr ⟨_, fault?_of_several several _ _, fun respects => ?_, .manyRoles several⟩
    have one := respects.1
    simp at one

/-- What is reported of a method does not depend on how it is found. -/
theorem Defect.unique {interface : String} (fine : Unambiguous before) {e e' : WorkflowError}
    (defect : Defect interface before m e) (other : Defect interface before m e') : e = e' := by
  cases defect with
  | manyRoles several =>
    cases other with
    | manyRoles => rfl
    | nameTaken one | manyStarts one => omega
  | nameTaken one plays mem taken =>
    cases other with
    | manyRoles several => omega
    | nameTaken _ plays' =>
      obtain ⟨rfl, rfl⟩ := plays.unique one plays'
      rfl
    | manyStarts _ plays' free =>
      obtain ⟨rfl, rfl⟩ := plays.unique one plays'
      exact absurd taken (free _ mem)
  | manyStarts one plays free mem starts =>
    cases other with
    | manyRoles several => omega
    | nameTaken _ plays' mem' taken =>
      obtain ⟨rfl, rfl⟩ := plays.unique one plays'
      exact absurd taken (free _ mem')
    | manyStarts _ _ _ mem' starts' => rw [fine.start_unique mem mem' starts starts']

end

/-! ## Runs -/

/-- All that reading methods after unambiguous ones can do. -/
theorem resolveMethods_cases (interface : String) {before : List DeclaredMethod}
    (fine : Unambiguous before) (rest : List DeclaredMethod) :
    (Unambiguous (before ++ rest) ∧
        ∃ entries, resolveMethods interface (before.map DeclaredMethod.entry) rest = .ok entries) ∨
      ∃ read m fault, BreaksFirst (before ++ rest) read m ∧
        Defect interface read m (Cause.toError fault) ∧
        resolveMethods interface (before.map DeclaredMethod.entry) rest = .error fault := by
  induction rest generalizing before with
  | nil =>
    rw [List.append_nil]
    exact .inl ⟨fine, _, rfl⟩
  | cons m rest ih =>
    unfold resolveMethods
    obtain ⟨silent, still⟩ | ⟨fault, found, broken, defect⟩ := fault?_cases interface fine m
    · -- What was read so far is unambiguous again: the rest is read after it.
      have next := ih still
      rw [List.map_append, ← List.append_cons] at next
      rw [silent]
      exact next
    · rw [found]
      have among : before ++ [m] <+: before ++ m :: rest := ⟨rest, List.append_assoc ..⟩
      exact .inr ⟨before, m, fault, ⟨among, fine, broken⟩, defect, rfl⟩

theorem runFrom_resolve (d : Declaration) (s : State σ ν) :
    runFrom (Action.resolve d) s =
      match d.resolve with
      | .ok descriptor =>
        (.ok descriptor,
          { s with trace := s.trace ++ [.log ⟨.resolver, .debug, descriptor.summary⟩] })
      | .error fault => (.error (.thrown (Cause.toFailure fault)), s) := by
  unfold Action.resolve
  rw [runFrom_bind]
  cases d.resolve with
  | error fault => rfl
  | ok descriptor =>
    show runFrom (Action.log _ _ _ >>= _) s = _
    rw [runFrom_bind, runFrom_log]
    rfl

/-! ## Top theorem -/

/-- **A declaration is accepted exactly when it is unambiguous.**  Otherwise one method is the first
at which the methods read so far are ambiguous; there is one error to be reported of it, and this
error is thrown.  Then nothing is logged. -/
theorem resolve_ok_iff_unambiguous (d : Declaration) (s : State σ ν) :
    let run := runFrom (Action.resolve d) s
    ((∃ descriptor, run.1 = .ok descriptor) ↔ Unambiguous d.methods) ∧
      (¬Unambiguous d.methods → ∃ before m, BreaksFirst d.methods before m) ∧
      ∀ before m, BreaksFirst d.methods before m →
        ∃ e, (∀ e', Defect d.name before m e' ↔ e' = e) ∧
          run = (.error (.thrown e.toFailure), s) := by
  intro run
  have ran : run = _ := runFrom_resolve d s
  unfold Declaration.resolve at ran
  obtain ⟨fine, entries, read⟩ | ⟨before, m, fault, breaks, defect, failed⟩ :=
    resolveMethods_cases d.name .nil d.methods
  · rw [show resolveMethods d.name [] d.methods = _ from read] at ran
    refine ⟨⟨fun _ => fine, fun _ => ⟨_, congrArg Prod.fst ran⟩⟩, fun broken => absurd fine broken,
      fun before m breaks => ?_⟩
    exact absurd fine breaks.not_unambiguous
  · rw [show resolveMethods d.name [] d.methods = _ from failed] at ran
    refine ⟨⟨?_, fun fine => absurd fine breaks.not_unambiguous⟩, fun _ => ⟨before, m, breaks⟩,
      fun before' m' breaks' => ⟨Cause.toError fault, fun e' => ?_, ran⟩⟩
    · rintro ⟨descriptor, accepted⟩
      rw [ran] at accepted
      cases accepted
    · obtain ⟨rfl, rfl⟩ := breaks.unique breaks'
      constructor
      · intro other
        exact other.unique breaks.fine defect
      · rintro rfl
        exact defect

/-- The second method that starts the workflow has the name of the first too: that is reported, and
the two roles of the last method are not. -/
theorem repeated_greet_is_reported :
    let greet : DeclaredMethod := .make "greet" none .string [.role ⟨.entryPoint, ""⟩]
    let note : DeclaredMethod := .make "note" none .void []
    let again : DeclaredMethod := .make "again" none .string [.role ⟨.entryPoint, "greet"⟩]
    let stop : DeclaredMethod := .make "stop" none .void [.role ⟨.signal, ""⟩, .role ⟨.query, ""⟩]
    let d : Declaration := ⟨"Greeter", ⟨"Greeter"⟩, .empty, [greet, note, again, stop]⟩
    let s : State Unit Unit := .initial ()
    let e : WorkflowError := .ofKind .duplicateName
      "Greeter::again resolves to EntryPoint name 'greet' which is already taken"
    BreaksFirst d.methods [greet, note] again ∧
      runFrom (Action.resolve d) s = (.error (.thrown e.toFailure), s) := by
  intro greet note again stop d s e
  have fine : Unambiguous [greet, note] :=
    (resolve_ok_iff_unambiguous { d with methods := [greet, note] } s).1.1 ⟨_, rfl⟩
  have broken : ¬Unambiguous [greet, note, again] := by
    intro fine
    obtain ⟨descriptor, accepted⟩ :=
      (resolve_ok_iff_unambiguous { d with methods := [greet, note, again] } s).1.2 fine
    cases accepted
  have breaks : BreaksFirst d.methods [greet, note] again := ⟨⟨[stop], rfl⟩, fine, broken⟩
  have plays : again.Plays .entryPoint "greet" := ⟨⟨.entryPoint, "greet"⟩, .head _, rfl, rfl⟩
  have taken : greet.Plays .entryPoint "greet" := ⟨⟨.entryPoint, ""⟩, .head _, rfl, rfl⟩
  have defect : Defect "Greeter" [greet, note] again e :=
    .nameTaken (by decide) plays (.head _) taken
  obtain ⟨e', reported, ran⟩ := (resolve_ok_iff_unambiguous d s).2.2 _ _ breaks
  rw [← (reported e).1 defect] at ran
  exact ⟨breaks, ran⟩

end WorkflowDispatch
