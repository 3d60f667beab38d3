import WorkflowDispatch.Proofs.ResolvedTable
import WorkflowDispatch.Proofs.Talk

/-!
# Ambiguous roles

How a declaration is refused whose only defects are its roles: a method has several of them, or
several methods start the workflow.  The names of methods are compared before the starts are
counted, so the order of the methods matters: where the second method that starts the workflow has
the name of the first, the name is reported and not the role.

    RolesAmbiguous methods → ¬Unambiguous methods                   (RolesAmbiguous.not_unambiguous)
    RepeatsStart d.methods → the error is a taken name, otherwise an ambiguous role
                                                                           (resolve_ambiguous_cases)
-/

namespace WorkflowDispatch

open WorkflowDispatch.Action

variable {σ ν α : Type}

/-! ## Definitions -/

/-- The method has one role marker, which is of this role, and it is known by this name. -/
def DeclaredMethod.PlaysOnly (m : DeclaredMethod) (role : Role) (name : String) : Prop :=
  m.roleMarks.length = 1 ∧ m.Plays role name

/-- No two methods of the role are known by one name. -/
def NamesDiffer (role : Role) (methods : List DeclaredMethod) : Prop :=
  methods.Pairwise fun m m' => ∀ name, m.PlaysOnly role name → ¬m'.PlaysOnly role name

/-- A method has several roles, or several methods start the workflow. -/
def RolesAmbiguous (methods : List DeclaredMethod) : Prop :=
  (∃ m ∈ methods, 1 < m.roleMarks.length) ∨ 2 ≤ methods.countP DeclaredMethod.startsWorkflow

/-- The second method that starts the workflow has the name of the first, and no method before it
has several roles. -/
def RepeatsStart (methods : List DeclaredMethod) : Prop :=
  ∃ before first between second after name,
    methods = before ++ first :: between ++ second :: after ∧
    (∀ m ∈ before ++ between, m.roleMarks.length ≤ 1 ∧ ¬m.Starts) ∧
    first.PlaysOnly .entryPoint name ∧ second.PlaysOnly .entryPoint name

/-! ## Roles -/

section

variable {m : DeclaredMethod} {role : Role} {name : String} {methods : List DeclaredMethod}

theorem DeclaredMethod.Plays.only (plays : m.Plays role name) (one : m.roleMarks.length ≤ 1) :
    m.PlaysOnly role name := by
  have marked : 0 < m.roleMarks.length := by
    obtain ⟨mark, mem, -⟩ := plays
    exact List.length_pos_of_mem mem
  exact ⟨by omega, plays⟩

/-- Of unambiguous methods at most one starts the workflow. -/
theorem Unambiguous.countP_starts_le (fine : Unambiguous methods) :
    methods.countP DeclaredMethod.startsWorkflow ≤ 1 := by
  have apart := fine.one_start
  clear fine
  induction methods with
  | nil => simp
  | cons m rest ih =>
    obtain ⟨alone, rest_apart⟩ := List.pairwise_cons.1 apart
    rw [List.countP_cons]
    by_cases starts : m.startsWorkflow = true
    · have none_after : rest.countP DeclaredMethod.startsWorkflow = 0 := by
        rw [List.countP_eq_zero]
        intro other mem starts'
        exact alone other mem ((startsWorkflow_iff m).1 starts)
          ((startsWorkflow_iff other).1 starts')
      exact Nat.le_of_eq (by rw [none_after, if_pos starts])
    · rw [if_neg starts]
      exact ih rest_apart

/-- While one method at most starts the workflow, only signals and queries can share a name. -/
theorem Unambiguous.of_names_differ (one_role : ∀ m ∈ methods, m.roleMarks.length ≤ 1)
    (one_start : methods.Pairwise fun m m' => m.Starts → ¬m'.Starts)
    (signals : NamesDiffer .signal methods) (queries : NamesDiffer .query methods) :
    Unambiguous methods where
  one_role := one_role
  one_start := one_start
  names_differ := by
    refine List.pairwise_iff_forall_sublist.2 fun {m m'} inOrder role name plays plays' => ?_
    have only := plays.only (one_role m (inOrder.subset (by simp)))
    have only' := plays'.only (one_role m' (inOrder.subset (by simp)))
    cases role with
    | entryPoint =>
      exact List.pairwise_iff_forall_sublist.1 one_start inOrder ⟨name, plays⟩ ⟨name, plays'⟩
    | signal => exact List.pairwise_iff_forall_sublist.1 signals inOrder name only only'
    | query => exact List.pairwise_iff_forall_sublist.1 queries inOrder name only only'

theorem RolesAmbiguous.not_unambiguous (ambiguous : RolesAmbiguous methods) :
    ¬Unambiguous methods := by
  intro fine
  rcases ambiguous with ⟨m, mem, several⟩ | several
  · have one := fine.one_role m mem
    omega
  · have one := fine.countP_starts_le
    omega

theorem RolesAmbiguous.perm {methods' : List DeclaredMethod} (ambiguous : RolesAmbiguous methods)
    (same : methods'.Perm methods) : RolesAmbiguous methods' := by
  rcases ambiguous with ⟨m, mem, several⟩ | several
  · exact .inl ⟨m, same.mem_iff.2 mem, several⟩
  · exact .inr (by rwa [same.countP_eq])

theorem NamesDiffer.perm {methods' : List DeclaredMethod} (differ : NamesDiffer role methods)
    (same : methods'.Perm methods) : NamesDiffer role methods' := by
  refine (same.pairwise_iff ?_).2 differ
  intro m m' apart name plays plays'
  exact apart name plays' plays

/-- In a role that no method has alone no name is shared. -/
theorem NamesDiffer.of_unmarked
    (unmarked : ∀ m ∈ methods, m.roleMarks.map RoleMark.role ≠ [role]) :
    NamesDiffer role methods := by
  refine List.pairwise_iff_forall_sublist.2 fun {m m'} inOrder name only _ => ?_
  obtain ⟨one, mark, mem, rfl, -⟩ := only
  obtain ⟨single, marked⟩ := List.length_eq_one_iff.1 one
  rw [marked, List.mem_singleton] at mem
  refine unmarked m (inOrder.subset (.head _)) ?_
  rw [marked, mem]
  rfl

end

/-! ## Defects -/

section

variable {interface : String} {methods before : List DeclaredMethod} {m : DeclaredMethod}
  {e : WorkflowError}

/-- What is reported is an ambiguous role, or a name that an earlier method of the role has. -/
theorem Defect.code_cases (defect : Defect interface before m e) :
    e.code = .ofKind .ambiguousRole ∨
      e.code = .ofKind .duplicateName ∧ m.roleMarks.length ≤ 1 ∧
        ∃ role name, m.Plays role name ∧ ∃ earlier ∈ before, earlier.Plays role name := by
  cases defect with
  | manyRoles several => exact .inl rfl
  | nameTaken one plays mem taken => exact .inr ⟨rfl, one, _, _, plays, _, mem, taken⟩
  | manyStarts one plays free mem starts => exact .inl rfl

variable (signals : NamesDiffer .signal methods) (queries : NamesDiffer .query methods)

include signals queries

/-- Where signals and queries have names of their own, a name that is taken is that of a start. -/
theorem BreaksFirst.repeatsStart {role : Role} {name : String} {earlier : DeclaredMethod}
    (breaks : BreaksFirst methods before m) (one : m.roleMarks.length ≤ 1)
    (plays : m.Plays role name) (mem : earlier ∈ before) (taken : earlier.Plays role name) :
    RepeatsStart methods := by
  obtain ⟨after, whole⟩ := breaks.among
  obtain ⟨front, between, rfl⟩ := List.append_of_mem mem
  have only := plays.only one
  have only' := taken.only (breaks.fine.one_role earlier mem)
  -- The two methods stand in the declaration in this order.
  have inOrder : [earlier, m].Sublist methods := by
    rw [← whole]
    simp
  have apart {role' : Role} (differ : NamesDiffer role' methods) : role ≠ role' := by
    rintro rfl
    exact List.pairwise_iff_forall_sublist.1 differ inOrder name only' only
  cases role with
  | signal => exact absurd rfl (apart signals)
  | query => exact absurd rfl (apart queries)
  | entryPoint =>
    refine ⟨front, earlier, between, m, after, name, by simp [← whole], ?_, only', only⟩
    intro other mem'
    have inside : other ∈ front ++ earlier :: between := by
      rcases List.mem_append.1 mem' with mem' | mem'
      · exact List.mem_append_left _ mem'
      · exact List.mem_append_right _ (List.mem_cons_of_mem _ mem')
    refine ⟨breaks.fine.one_role other inside, fun starts => ?_⟩
    obtain ⟨before_apart, earlier_apart, across⟩ :=
      List.pairwise_append.1 breaks.fine.one_start
    rcases List.mem_append.1 mem' with mem' | mem'
    · exact across other mem' earlier (.head _) starts ⟨name, taken⟩
    · exact (List.pairwise_cons.1 earlier_apart).1 other mem' ⟨name, taken⟩ starts

/-- A start that repeats the name of the first one is the first defect. -/
theorem RepeatsStart.breaksFirst (repeats : RepeatsStart methods) (interface : String) :
    ∃ before m e, BreaksFirst methods before m ∧ Defect interface before m e ∧
      e.code = .ofKind .duplicateName := by
  obtain ⟨before, first, between, second, after, name, rfl, quiet, only, only'⟩ := repeats
  have among : before ++ first :: between ++ [second] <+: before ++ first :: between ++
      second :: after := ⟨after, by simp⟩
  have inside : (before ++ first :: between).Sublist (before ++ first :: between ++
      second :: after) := List.sublist_append_left _ _
  have fine : Unambiguous (before ++ first :: between) := by
    refine .of_names_differ ?_ ?_ (signals.sublist inside) (queries.sublist inside)
    · intro m mem
      rcases List.mem_append.1 mem with mem | mem
      · exact (quiet m (List.mem_append_left _ mem)).1
      rcases List.mem_cons.1 mem with rfl | mem
      · exact Nat.le_of_eq only.1
      · exact (quiet m (List.mem_append_right _ mem)).1
    · -- Of any two methods one is not the first start, and that one starts nothing.
      have silent {part : List DeclaredMethod} (within : part ⊆ before ++ between) :
          part.Pairwise fun m m' => m.Starts → ¬m'.Starts := by
        refine List.pairwise_iff_forall_sublist.2 fun {m m'} inOrder starts _ => ?_
        exact (quiet m (within (inOrder.subset (.head _)))).2 starts
      refine List.pairwise_append.2 ⟨silent (List.subset_append_left _ _), List.pairwise_cons.2
        ⟨fun m mem _ => (quiet m (List.mem_append_right _ mem)).2,
          silent (List.subset_append_right _ _)⟩, fun m mem _ _ starts => ?_⟩
      exact absurd starts (quiet m (List.mem_append_left _ mem)).2
  have mem : first ∈ before ++ first :: between := by simp
  have defect : Defect interface (before ++ first :: between) second _ :=
    .nameTaken (Nat.le_of_eq only'.1) only'.2 mem only.2
  refine ⟨_, second, _, ⟨among, fine, fun whole => ?_⟩, defect, rfl⟩
  have apart := (List.pairwise_append.1 whole.one_start).2.2 first mem second (.head _)
  exact apart ⟨name, only.2⟩ ⟨name, only'.2⟩

end

/-! ## Refusals -/

/-- A refusal is of one kind. -/
theorem Action.RefusedAs.kind_unique {x : Action σ ν α} {s : State σ ν} {kind kind' : ErrorKind}
    (refused : x.RefusedAs kind s) (other : x.RefusedAs kind' s) : kind = kind' := by
  obtain ⟨failure, isKind, run⟩ := refused
  obtain ⟨failure', isKind', run'⟩ := other
  obtain ⟨thrown, -⟩ := Prod.mk.inj (run.symm.trans run')
  obtain rfl := Stop.thrown.inj (Except.error.inj thrown)
  have code := (beq_iff_eq.1 isKind).symm.trans (beq_iff_eq.1 isKind')
  have number : kind.number = kind'.number := (ErrorCode.mk.inj (Option.some.inj code)).2
  exact LawfulNumbered.number_inj kind kind' number

/-- A declaration that is not unambiguous is refused for the first method that makes it so. -/
theorem resolve_refused {d : Declaration} (broken : ¬Unambiguous d.methods) (s : State σ ν) :
    ∃ before m e, BreaksFirst d.methods before m ∧ Defect d.name before m e ∧
      runFrom (Action.resolve d) s = (.error (.thrown e.toFailure), s) := by
  have run := runFrom_resolve d s
  unfold Declaration.resolve at run
  obtain ⟨fine, -⟩ | ⟨before, m, fault, breaks, defect, failed⟩ :=
    resolveMethods_cases d.name .nil d.methods
  · exact absurd fine broken
  · rw [show resolveMethods d.name [] d.methods = _ from failed] at run
    exact ⟨before, m, _, breaks, defect, run⟩

theorem refusedAs_of_code {x : Action σ ν α} {s : State σ ν} {e : WorkflowError}
    {kind : ErrorKind} (code : e.code = .ofKind kind)
    (run : runFrom x s = (.error (.thrown e.toFailure), s)) : x.RefusedAs kind s := by
  refine ⟨e.toFailure, ?_, run⟩
  unfold Failure.isOfKind
  rw [e.code?_toFailure, code]
  exact beq_self_eq_true _

/-- All that can be reported where the roles are ambiguous. -/
theorem resolve_ambiguous_cases {d : Declaration} (signals : NamesDiffer .signal d.methods)
    (queries : NamesDiffer .query d.methods) (ambiguous : RolesAmbiguous d.methods)
    (s : State σ ν) :
    RepeatsStart d.methods ∧ (Action.resolve d).RefusedAs .duplicateName s ∨
      ¬RepeatsStart d.methods ∧ (Action.resolve d).RefusedAs .ambiguousRole s := by
  obtain ⟨before, m, e, breaks, defect, run⟩ := resolve_refused ambiguous.not_unambiguous s
  obtain code | ⟨code, one, role, name, plays, earlier, mem, taken⟩ := defect.code_cases
  · refine .inr ⟨fun repeats => ?_, refusedAs_of_code code run⟩
    obtain ⟨before', m', e', breaks', defect', code'⟩ :=
      repeats.breaksFirst signals queries d.name
    obtain ⟨rfl, rfl⟩ := breaks.unique breaks'
    rw [defect.unique breaks.fine defect', code'] at code
    cases code
  · exact .inl ⟨breaks.repeatsStart signals queries one plays mem taken,
      refusedAs_of_code code run⟩

theorem NamesDiffer.not_repeatsStart {methods : List DeclaredMethod}
    (differ : NamesDiffer .entryPoint methods) : ¬RepeatsStart methods := by
  rintro ⟨before, first, between, second, after, name, rfl, -, only, only'⟩
  have inOrder : [first, second].Sublist (before ++ first :: between ++ second :: after) := by
    simp
  exact List.pairwise_iff_forall_sublist.1 differ inOrder name only only'

/-- Any two methods can be put in front, so the starts have different names if none is ever
repeated. -/
theorem NamesDiffer.of_not_repeatsStart {methods : List DeclaredMethod}
    (unrepeated : ∀ methods' : List DeclaredMethod, methods'.Perm methods →
      ¬RepeatsStart methods') : NamesDiffer .entryPoint methods := by
  refine List.pairwise_iff_forall_sublist.2 fun {first second} inOrder name only only' => ?_
  obtain ⟨rest, same⟩ := inOrder.exists_perm_append
  exact unrepeated _ same.symm ⟨[], first, [], second, rest, name, rfl, by simp, only, only'⟩

/-! ## Top theorem -/

/-- **Where the roles are ambiguous, that is reported unless a start repeats a name.**  No two
signals and no two queries share a name.  The declaration is never accepted; the report is that of
a name taken twice exactly when the second method that starts the workflow has the name of the
first and no method before it has several roles.  So it is that of an ambiguous role in every order
of the methods exactly when no two starts share a name. -/
theorem ambiguity_reported_iff (d : Declaration) (signals : NamesDiffer .signal d.methods)
    (queries : NamesDiffer .query d.methods) (ambiguous : RolesAmbiguous d.methods)
    (s : State σ ν) :
    ((Action.resolve d).RefusedAs .ambiguousRole s ↔ ¬RepeatsStart d.methods) ∧
      ((Action.resolve d).RefusedAs .duplicateName s ↔ RepeatsStart d.methods) ∧
      ((∀ methods : List DeclaredMethod, methods.Perm d.methods →
          (Action.resolve { d with methods := methods }).RefusedAs .ambiguousRole s) ↔
        NamesDiffer .entryPoint d.methods) := by
  have reported (methods : List DeclaredMethod) (same : methods.Perm d.methods) :=
    resolve_ambiguous_cases (d := { d with methods := methods }) (signals.perm same)
      (queries.perm same) (ambiguous.perm same) s
  have apart {x : Action σ ν Descriptor} (taken : x.RefusedAs .duplicateName s) :
      ¬x.RefusedAs .ambiguousRole s := by
    intro ambiguous
    cases taken.kind_unique ambiguous
  refine ⟨?_, ?_, ⟨fun always => ?_, fun differ methods same => ?_⟩⟩
  · obtain ⟨repeats, taken⟩ | ⟨unrepeated, refused⟩ := reported d.methods (.refl _)
    · exact iff_of_false (apart taken) (not_not_intro repeats)
    · exact iff_of_true refused unrepeated
  · obtain ⟨repeats, taken⟩ | ⟨unrepeated, refused⟩ := reported d.methods (.refl _)
    · exact iff_of_true taken repeats
    · exact iff_of_false (fun taken => apart taken refused) unrepeated
  · refine .of_not_repeatsStart fun methods same repeats => ?_
    obtain ⟨-, taken⟩ | ⟨unrepeated, -⟩ := reported methods same
    · exact apart taken (always methods same)
    · exact unrepeated repeats
  · obtain ⟨repeats, -⟩ | ⟨-, refused⟩ := reported methods same
    · exact absurd repeats (differ.perm same).not_repeatsStart
    · exact refused

/-- A method with two roles is reported, although a start repeats a name behind it; in another
order of the three it is not. -/
theorem two_roles_hide_repeated_start :
    let stop : DeclaredMethod := .make "stop" none .void [.role ⟨.signal, ""⟩, .role ⟨.query, ""⟩]
    let greet : DeclaredMethod := .make "greet" none .string [.role ⟨.entryPoint, "Greet"⟩]
    let hello : DeclaredMethod := .make "hello" none .string [.role ⟨.entryPoint, "Greet"⟩]
    let d : Declaration := ⟨"Greeter", ⟨"Greeter"⟩, .empty, [stop, greet, hello]⟩
    let s : State Unit Unit := .initial ()
    RolesAmbiguous d.methods ∧ (Action.resolve d).RefusedAs .ambiguousRole s ∧
      ¬RepeatsStart d.methods ∧
      ¬∀ methods : List DeclaredMethod, methods.Perm d.methods →
        (Action.resolve { d with methods := methods }).RefusedAs .ambiguousRole s := by
  intro stop greet hello d s
  have signals : NamesDiffer .signal d.methods := .of_unmarked (by decide)
  have queries : NamesDiffer .query d.methods := .of_unmarked (by decide)
  have ambiguous : RolesAmbiguous d.methods := .inl ⟨stop, .head _, by decide⟩
  have refused : (Action.resolve d).RefusedAs .ambiguousRole s := ⟨_, rfl, rfl⟩
  obtain ⟨role_reported, -, in_every_order⟩ := ambiguity_reported_iff d signals queries ambiguous s
  refine ⟨ambiguous, refused, role_reported.1 refused, fun always => ?_⟩
  have shared : greet.PlaysOnly .entryPoint "Greet" ∧ hello.PlaysOnly .entryPoint "Greet" :=
    ⟨⟨rfl, _, .head _, rfl, rfl⟩, ⟨rfl, _, .head _, rfl, rfl⟩⟩
  have inOrder : [greet, hello].Sublist d.methods := List.sublist_cons_self _ _
  exact List.pairwise_iff_forall_sublist.1 (in_every_order.1 always) inOrder "Greet" shared.1
    shared.2

/-- Two methods that start the workflow under one name are not reported as an ambiguous role. -/
theorem repeated_start_is_duplicate :
    let greet : DeclaredMethod := .make "greet" none .string [.role ⟨.entryPoint, "Greet"⟩]
    let hello : DeclaredMethod := .make "hello" none .string [.role ⟨.entryPoint, "Greet"⟩]
    let d : Declaration := ⟨"Greeter", ⟨"Greeter"⟩, .empty, [greet, hello]⟩
    let s : State Unit Unit := .initial ()
    let e : WorkflowError := .ofKind .duplicateName
      "Greeter::hello resolves to EntryPoint name 'Greet' which is already taken"
    NamesDiffer .signal d.methods ∧ NamesDiffer .query d.methods ∧ RolesAmbiguous d.methods ∧
      runFrom (Action.resolve d) s = (.error (.thrown e.toFailure), s) ∧
      ¬(Action.resolve d).RefusedAs .ambiguousRole s := by
  intro greet hello d s e
  have signals : NamesDiffer .signal d.methods := .of_unmarked (by decide)
  have queries : NamesDiffer .query d.methods := .of_unmarked (by decide)
  have taken : (Action.resolve d).RefusedAs .duplicateName s := refusedAs_of_code (e := e) rfl rfl
  refine ⟨signals, queries, .inr (by decide), rfl, fun ambiguous => ?_⟩
  cases taken.kind_unique ambiguous

end WorkflowDispatch
