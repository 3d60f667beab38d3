import WorkflowDispatch.Proofs.Unambiguous
import WorkflowDispatch.Routing.Target

/-!
# The table of an accepted declaration

A descriptor says what the declaration says, row by row, and within a role a name belongs to one
row.  The methods can be read in one pass that notes the index of the row of the starting method
before the row is there, and the names that are taken; what it has noted after some methods is what
the table of these methods shows, so that the index is in range whenever it is looked at.

    Unambiguous before → (Reading.ofTable (d.tableOf before)).next d.name m =
      match m.fault? d.name (before.map entry) with
      | some fault => .error fault
      | none => .ok (.ofTable (d.tableOf (before ++ [m])))                        (next_ofTable)
    d.read = d.resolve.map Reading.ofTable                                              (read_eq)
-/

namespace WorkflowDispatch

/-! ## Algorithm -/

/-- What is noted while the methods are read. -/
structure Reading where
  entries : List DescribedMethod
  /-- The index of the method that starts the workflow. -/
  entryPoint : Option Nat
  /-- The names that are taken, each in its role. -/
  taken : List ResolvedRole
  options : WorkflowOptions
  deriving DecidableEq, Repr

namespace Reading

/-- The identifier of the entry at an index, which is taken to be there. -/
def identifierAt (r : Reading) (index : Nat) : String :=
  (r.entries[index]?.map DescribedMethod.identifier).getD ""

/-- Reads one more method. -/
def next (interface : String) (r : Reading) (m : DeclaredMethod) : Except ResolveError Reading :=
  match m.roleMarks with
  | [] => .ok { r with entries := r.entries ++ [m.entry] }
  | [mark] =>
    let resolved := mark.resolve m.identifier
    if resolved ∈ r.taken then .error (.nameTaken (m.qualified interface) resolved)
    else
      let noted := { r with entries := r.entries ++ [m.entry], taken := r.taken ++ [resolved] }
      if resolved.role = .entryPoint then
        match r.entryPoint with
        | some first => .error (.manyEntryPoints interface (r.identifierAt first) m.identifier)
        | none =>
          .ok { noted with
            entryPoint := some r.entries.length
            options := r.options.merge m.markedOptions }
      else .ok noted
  | _ => .error (.manyRoles (m.qualified interface))

/-- What a table shows of its methods. -/
def ofTable (t : Descriptor) : Reading :=
  ⟨t.methods, t.entryPoint, t.methods.filterMap DescribedMethod.resolved, t.declaredOptions⟩

end Reading

/-- Reads all methods in one pass. -/
def Declaration.read (d : Declaration) : Except ResolveError Reading :=
  d.methods.foldlM (Reading.next d.name) ⟨[], none, [], d.defaults⟩

/-- The table of some of the methods, if nothing is wrong with them. -/
def Declaration.tableOf (d : Declaration) (methods : List DeclaredMethod) : Descriptor :=
  ⟨d.name, d.type, methods.map DeclaredMethod.entry, { d with methods := methods }.startOptions⟩

/-! ## What a table says -/

/-- The row says of the method what its declaration says. -/
structure DescribedMethod.Describes (e : DescribedMethod) (m : DeclaredMethod) : Prop where
  identifier_eq : e.identifier = m.identifier
  member_eq : e.member = m.member
  returns_eq : e.returns = m.returns
  resolved_iff : ∀ role name, e.resolved = some ⟨role, name⟩ ↔ m.Plays role name
  unresolved_iff : e.resolved = none ↔ m.roleMarks = []

/-- The table describes the methods one by one, and what is looked up in it is found. -/
structure Descriptor.Tabulates (t : Descriptor) (d : Declaration) : Prop where
  length_eq : t.methods.length = d.methods.length
  describes : ∀ (i : Nat) (m : DeclaredMethod) (e : DescribedMethod),
    d.methods[i]? = some m → t.methods[i]? = some e → e.Describes m
  /-- Within a role a name determines the row. -/
  name_inj : ∀ (i j : Nat) (e e' : DescribedMethod) (own : ResolvedRole),
    t.methods[i]? = some e → t.methods[j]? = some e' →
      e.resolved = some own → e'.resolved = some own → i = j
  entryPoint_isSome_iff : t.entryPoint.isSome = true ↔ ∃ m ∈ d.methods, m.Starts
  workflowType_eq : ∀ i, t.entryPoint = some i → ∃ e name, t.methods[i]? = some e ∧
    e.resolved = some ⟨.entryPoint, name⟩ ∧ t.workflowType = some name
  workflowType_eq_none : t.entryPoint = none → t.workflowType = none
  /-- The first of the rows with a member is found. -/
  find_eq_some_iff : ∀ member i, t.find member = some i ↔
    (∃ e, t.methods[i]? = some e ∧ e.member = some member) ∧
      ∀ j < i, ∀ e, t.methods[j]? = some e → e.member ≠ some member
  find_eq_none_iff : ∀ member, t.find member = none ↔ ∀ e ∈ t.methods, e.member ≠ some member
  target_found : ∀ member i, t.target member = .method i → ∃ e, t.method i = .ok e

/-! ## Tables -/

section

variable {m : DeclaredMethod} {before : List DeclaredMethod}

theorem startsWorkflow_iff (m : DeclaredMethod) : m.startsWorkflow = true ↔ m.Starts := by
  unfold DeclaredMethod.startsWorkflow DeclaredMethod.Starts DeclaredMethod.Plays
  rw [List.any_eq_true]
  constructor
  · rintro ⟨mark, mem, role⟩
    exact ⟨_, mark, mem, by simpa using role, rfl⟩
  · rintro ⟨name, mark, mem, role, -⟩
    exact ⟨mark, mem, by simpa using role⟩

theorem entry_describes (one : m.roleMarks.length ≤ 1) : m.entry.Describes m where
  identifier_eq := rfl
  member_eq := rfl
  returns_eq := rfl
  resolved_iff _ _ := DeclaredMethod.entry_resolved_eq_some_iff one
  unresolved_iff := by simp [DeclaredMethod.entry]

end

namespace Descriptor

variable (t : Descriptor)

theorem isEntryPoint_iff (e : DescribedMethod) :
    e.isEntryPoint = true ↔ ∃ name, e.resolved = some ⟨.entryPoint, name⟩ := by
  unfold DescribedMethod.isEntryPoint
  match e.resolved with
  | none => simp
  | some ⟨role, name⟩ => simp

/-- The starting method is found at its index, and the workflow has its name. -/
theorem workflowType_of_entryPoint {i : Nat} (noted : t.entryPoint = some i) :
    ∃ e name, t.methods[i]? = some e ∧ e.resolved = some ⟨.entryPoint, name⟩ ∧
      t.workflowType = some name := by
  obtain ⟨lt, starts, -⟩ := List.findIdx?_eq_some_iff_getElem.1 noted
  obtain ⟨name, resolved⟩ := (isEntryPoint_iff _).1 starts
  refine ⟨t.methods[i], name, List.getElem?_eq_getElem lt, resolved, ?_⟩
  have found : t.methods.findIdx? DescribedMethod.isEntryPoint = some i := noted
  unfold workflowType
  rw [List.find?_eq_bind_findIdx?_getElem?, found]
  simp [List.getElem?_eq_getElem lt, resolved]

theorem workflowType_eq_none (unnoted : t.entryPoint = none) : t.workflowType = none := by
  have absent : t.methods.findIdx? DescribedMethod.isEntryPoint = none := unnoted
  unfold workflowType
  rw [List.find?_eq_bind_findIdx?_getElem?, absent]
  rfl

theorem find_eq_some_iff (member : Member) (i : Nat) :
    t.find member = some i ↔
      (∃ e, t.methods[i]? = some e ∧ e.member = some member) ∧
        ∀ j < i, ∀ e, t.methods[j]? = some e → e.member ≠ some member := by
  unfold find
  rw [List.findIdx?_eq_some_iff_getElem]
  constructor
  · rintro ⟨lt, same, first⟩
    refine ⟨⟨t.methods[i], List.getElem?_eq_getElem lt, by simpa using same⟩, ?_⟩
    intro j less e row stored
    obtain ⟨lt', rfl⟩ := List.getElem?_eq_some_iff.1 row
    exact first j less (by simpa using stored)
  · rintro ⟨⟨e, row, stored⟩, first⟩
    obtain ⟨lt, rfl⟩ := List.getElem?_eq_some_iff.1 row
    refine ⟨lt, by simpa using stored, fun j less same => ?_⟩
    exact first j less _ (List.getElem?_eq_getElem (by omega)) (by simpa using same)

theorem find_eq_none_iff (member : Member) :
    t.find member = none ↔ ∀ e ∈ t.methods, e.member ≠ some member := by
  unfold find
  rw [List.findIdx?_eq_none_iff]
  simp

theorem method_of_target {member : Member} {i : Nat} (aimed : t.target member = .method i) :
    ∃ e, t.method i = .ok e := by
  unfold target at aimed
  cases found : t.find member with
  | none =>
    rw [found] at aimed
    cases aimed
  | some j =>
    rw [found] at aimed
    obtain rfl := Target.method.inj aimed
    obtain ⟨⟨e, row, -⟩, -⟩ := (t.find_eq_some_iff member j).1 found
    exact ⟨e, (t.method_eq_ok_iff j e).2 row⟩

end Descriptor

/-! ## One pass -/

section

variable {d : Declaration} {before : List DeclaredMethod} {m : DeclaredMethod}

theorem mem_taken_iff (t : Descriptor) (own : ResolvedRole) :
    own ∈ (Reading.ofTable t).taken ↔ t.methods.any (·.resolved == some own) = true := by
  unfold Reading.ofTable
  simp [List.mem_filterMap]

/-- The method whose identifier is reported is the one at the index that was noted. -/
theorem identifierAt_entryPoint (t : Descriptor) :
    (t.methods.find? DescribedMethod.isEntryPoint).map DescribedMethod.identifier =
      t.entryPoint.map (Reading.ofTable t).identifierAt := by
  rw [List.find?_eq_bind_findIdx?_getElem?]
  cases noted : t.entryPoint with
  | none =>
    rw [show t.methods.findIdx? _ = none from noted]
    rfl
  | some i =>
    obtain ⟨e, -, row, -⟩ := t.workflowType_of_entryPoint noted
    rw [show t.methods.findIdx? _ = some i from noted]
    simp [Reading.identifierAt, Reading.ofTable, row]

/-- What one more row changes in the table. -/
theorem ofTable_concat (d : Declaration) (before : List DeclaredMethod) (m : DeclaredMethod) :
    Reading.ofTable (d.tableOf (before ++ [m])) =
      { entries := (d.tableOf before).methods ++ [m.entry]
        entryPoint := (d.tableOf before).entryPoint.or
          (if m.entry.isEntryPoint then some (d.tableOf before).methods.length else none)
        taken := (Reading.ofTable (d.tableOf before)).taken ++ m.entry.resolved.toList
        options := (d.tableOf (before ++ [m])).declaredOptions } := by
  have entries : (d.tableOf (before ++ [m])).methods = (d.tableOf before).methods ++ [m.entry] :=
    List.map_append
  have last : ([m.entry].findIdx? DescribedMethod.isEntryPoint).map
      (· + (d.tableOf before).methods.length) =
        if m.entry.isEntryPoint then some (d.tableOf before).methods.length else none := by
    cases starts : m.entry.isEntryPoint <;> simp [List.findIdx?_cons, starts]
  have own : [m.entry].filterMap DescribedMethod.resolved = m.entry.resolved.toList := by
    cases resolved : m.entry.resolved <;> simp [resolved]
  unfold Reading.ofTable Descriptor.entryPoint
  rw [entries, List.findIdx?_append, List.filterMap_append, last, own]

/-- The first method that starts the workflow decides the options. -/
theorem declaredOptions_concat (d : Declaration)
    (free : m.Starts → ∀ earlier ∈ before, ¬earlier.Starts) :
    (d.tableOf (before ++ [m])).declaredOptions =
      if m.startsWorkflow then (d.tableOf before).declaredOptions.merge m.markedOptions
      else (d.tableOf before).declaredOptions := by
  unfold Declaration.tableOf Declaration.startOptions
  simp only [List.find?_append]
  cases starts : m.startsWorkflow with
  | false => simp [starts]
  | true =>
    have none_before : before.find? DeclaredMethod.startsWorkflow = none := by
      refine List.find?_eq_none.2 fun earlier mem starting => ?_
      exact free ((startsWorkflow_iff m).1 starts) earlier mem ((startsWorkflow_iff _).1 starting)
    simp [none_before, starts]

/-- A method that does not start the workflow adds its row and its name. -/
theorem ofTable_concat_of_not_starts (d : Declaration) (one : m.roleMarks.length ≤ 1)
    (idle : ¬m.Starts) :
    Reading.ofTable (d.tableOf (before ++ [m])) =
      { Reading.ofTable (d.tableOf before) with
        entries := (d.tableOf before).methods ++ [m.entry]
        taken := (Reading.ofTable (d.tableOf before)).taken ++ m.entry.resolved.toList } := by
  have unmarked : m.startsWorkflow = false := by
    rw [← Bool.not_eq_true, startsWorkflow_iff]
    exact idle
  have row : m.entry.isEntryPoint = false := by
    rw [← Bool.not_eq_true, DeclaredMethod.isEntryPoint_entry_iff one]
    exact idle
  rw [ofTable_concat, declaredOptions_concat d fun starts => absurd starts idle]
  simp [Reading.ofTable, row, unmarked]

/-- The first method that starts the workflow has its index noted, and its options count. -/
theorem ofTable_concat_of_starts (d : Declaration) (one : m.roleMarks.length ≤ 1)
    (starts : m.Starts) (free : ∀ earlier ∈ before, ¬earlier.Starts)
    (unnoted : (d.tableOf before).entryPoint = none) :
    Reading.ofTable (d.tableOf (before ++ [m])) =
      { entries := (d.tableOf before).methods ++ [m.entry]
        entryPoint := some (d.tableOf before).methods.length
        taken := (Reading.ofTable (d.tableOf before)).taken ++ m.entry.resolved.toList
        options := (d.tableOf before).declaredOptions.merge m.markedOptions } := by
  have marked : m.startsWorkflow = true := (startsWorkflow_iff m).2 starts
  have row : m.entry.isEntryPoint = true := (DeclaredMethod.isEntryPoint_entry_iff one).2 starts
  rw [ofTable_concat, declaredOptions_concat d fun _ => free]
  simp [unnoted, row, marked]

theorem next_of_singleton {mark : RoleMark} {role : Role} {name : String}
    (marked : m.roleMarks = [mark]) (resolved : mark.resolve m.identifier = ⟨role, name⟩)
    (interface : String) (r : Reading) :
    r.next interface m =
      if ⟨role, name⟩ ∈ r.taken then .error (.nameTaken (m.qualified interface) ⟨role, name⟩)
      else if role = .entryPoint then
        match r.entryPoint with
        | some first => .error (.manyEntryPoints interface (r.identifierAt first) m.identifier)
        | none => .ok ⟨r.entries ++ [m.entry], some r.entries.length, r.taken ++ [⟨role, name⟩],
            r.options.merge m.markedOptions⟩
      else
        .ok { r with entries := r.entries ++ [m.entry], taken := r.taken ++ [⟨role, name⟩] } := by
  unfold Reading.next
  rw [marked]
  simp only [resolved]

/-- Reading one more method finds what is wrong with it, or notes what the longer table shows. -/
theorem next_ofTable (d : Declaration) (fine : Unambiguous before) (m : DeclaredMethod) :
    (Reading.ofTable (d.tableOf before)).next d.name m =
      match m.fault? d.name (before.map DeclaredMethod.entry) with
      | some fault => .error fault
      | none => .ok (.ofTable (d.tableOf (before ++ [m]))) := by
  match marked : m.roleMarks with
  | [] =>
    have unresolved : m.entry.resolved = none := by simp [DeclaredMethod.entry, marked]
    rw [fault?_of_nil marked, ofTable_concat_of_not_starts d (by simp [marked])
      (DeclaredMethod.not_starts_of_nil marked)]
    unfold Reading.next
    rw [marked]
    simp [Reading.ofTable, unresolved]
  | [mark] =>
    have one : m.roleMarks.length ≤ 1 := by simp [marked]
    obtain ⟨role, name, resolved⟩ : ∃ role name, mark.resolve m.identifier = ⟨role, name⟩ :=
      ⟨_, _, rfl⟩
    have plays : m.Plays role name := (DeclaredMethod.plays_iff_of_singleton marked).2 resolved
    have own : m.entry.resolved = some ⟨role, name⟩ :=
      (DeclaredMethod.entry_resolved_eq_some_iff one).2 plays
    have taken := mem_taken_iff (d.tableOf before) ⟨role, name⟩
    rw [next_of_singleton marked resolved, fault?_of_singleton marked resolved]
    by_cases held : (before.map DeclaredMethod.entry).any (·.resolved == some ⟨role, name⟩) = true
    · rw [if_pos (taken.2 held), if_pos held]
    rw [if_neg fun mem => held (taken.1 mem), if_neg held]
    by_cases starting : role = .entryPoint
    · subst starting
      rw [if_pos rfl, if_pos rfl]
      -- The one looks at the index that was noted, the other for the first row that starts.
      have reported := identifierAt_entryPoint (d.tableOf before)
      obtain ⟨unfound, free⟩ | ⟨first, -, -, found⟩ := find?_entry_cases fine
      · rw [show (d.tableOf before).methods.find? _ = none from unfound] at reported
        have unnoted : (d.tableOf before).entryPoint = none := by simpa using reported.symm
        rw [unfound, ofTable_concat_of_starts d one ⟨name, plays⟩ free unnoted, own,
          show (Reading.ofTable (d.tableOf before)).entryPoint = none from unnoted]
        rfl
      · rw [show (d.tableOf before).methods.find? _ = some first.entry from found] at reported
        obtain ⟨i, noted, identifier⟩ := Option.map_eq_some_iff.1 reported.symm
        rw [found, show (Reading.ofTable (d.tableOf before)).entryPoint = some i from noted]
        simp [identifier]
    · have idle : ¬m.Starts := by
        rintro ⟨name', starts⟩
        exact starting (plays.unique one starts).1
      rw [if_neg starting, if_neg starting, ofTable_concat_of_not_starts d one idle, own]
      rfl
  | _ :: _ :: _ =>
    rw [fault?_of_several (by simp [marked])]
    unfold Reading.next
    rw [marked]

/-- Reading the rest of the methods in one pass resolves them. -/
theorem foldlM_next_ofTable (d : Declaration) (fine : Unambiguous before)
    (rest : List DeclaredMethod) :
    rest.foldlM (Reading.next d.name) (.ofTable (d.tableOf before)) =
      (resolveMethods d.name (before.map DeclaredMethod.entry) rest).map fun _ =>
        .ofTable (d.tableOf (before ++ rest)) := by
  induction rest generalizing before with
  | nil =>
    rw [List.append_nil]
    rfl
  | cons m rest ih =>
    rw [List.foldlM_cons, next_ofTable d fine]
    unfold resolveMethods
    obtain ⟨silent, still⟩ | ⟨fault, found, -⟩ := fault?_cases d.name fine m
    · have next := ih still
      rw [List.map_append, ← List.append_cons] at next
      rw [silent]
      exact next
    · rw [found]
      rfl

/-- An accepted declaration has the table of its methods, and they are unambiguous. -/
theorem of_resolve_eq_ok {t : Descriptor} (accepted : d.resolve = .ok t) :
    t = d.tableOf d.methods ∧ Unambiguous d.methods := by
  unfold Declaration.resolve at accepted
  obtain ⟨fine, entries, read⟩ | ⟨before, m, fault, -, -, failed⟩ :=
    resolveMethods_cases d.name .nil d.methods
  · obtain rfl := resolveMethods_eq_ok read
    rw [show resolveMethods d.name [] d.methods = _ from read] at accepted
    exact ⟨(Except.ok.inj accepted).symm, fine⟩
  · rw [show resolveMethods d.name [] d.methods = _ from failed] at accepted
    cases accepted

/-- Unambiguous methods are accepted. -/
theorem resolve_eq_ok_of_unambiguous (fine : Unambiguous d.methods) :
    d.resolve = .ok (d.tableOf d.methods) := by
  unfold Declaration.resolve
  obtain ⟨-, entries, read⟩ | ⟨before, m, fault, breaks, -, -⟩ :=
    resolveMethods_cases d.name .nil d.methods
  · obtain rfl := resolveMethods_eq_ok read
    rw [show resolveMethods d.name [] d.methods = _ from read]
    rfl
  · exact absurd fine breaks.not_unambiguous

/-- One pass over the methods comes to the same as comparing each with the rows before it. -/
theorem read_eq (d : Declaration) : d.read = d.resolve.map Reading.ofTable := by
  have read : d.read = (resolveMethods d.name [] d.methods).map fun _ =>
      .ofTable (d.tableOf d.methods) := foldlM_next_ofTable d .nil d.methods
  unfold Declaration.resolve
  rw [read]
  cases resolved : resolveMethods d.name [] d.methods with
  | error fault => rfl
  | ok entries =>
    obtain rfl := resolveMethods_eq_ok resolved
    rfl

end

/-! ## Accepted declarations -/

/-- In the rows of unambiguous methods a name belongs, within its role, to one row. -/
theorem Unambiguous.entry_inj {methods : List DeclaredMethod} (fine : Unambiguous methods)
    {i j : Nat} {e e' : DescribedMethod} {own : ResolvedRole}
    (row : (methods.map DeclaredMethod.entry)[i]? = some e)
    (row' : (methods.map DeclaredMethod.entry)[j]? = some e')
    (plays : e.resolved = some own) (plays' : e'.resolved = some own) : i = j := by
  rw [List.getElem?_map, Option.map_eq_some_iff] at row row'
  obtain ⟨m, declared, rfl⟩ := row
  obtain ⟨m', declared', rfl⟩ := row'
  obtain ⟨lt, rfl⟩ := List.getElem?_eq_some_iff.1 declared
  obtain ⟨lt', rfl⟩ := List.getElem?_eq_some_iff.1 declared'
  have names := List.pairwise_iff_getElem.1 fine.names_differ
  obtain ⟨role, name⟩ := own
  rw [DeclaredMethod.entry_resolved_eq_some_iff (fine.one_role _ (List.getElem_mem _))]
    at plays plays'
  rcases Nat.lt_trichotomy i j with less | same | more
  · exact absurd plays' (names i j lt lt' less role name plays)
  · exact same
  · exact absurd plays (names j i lt' lt more role name plays')

/-- The starting method is noted exactly when there is one. -/
theorem Unambiguous.entryPoint_isSome_iff {d : Declaration} (fine : Unambiguous d.methods) :
    (d.tableOf d.methods).entryPoint.isSome = true ↔ ∃ m ∈ d.methods, m.Starts := by
  unfold Descriptor.entryPoint Declaration.tableOf
  rw [List.findIdx?_isSome, List.any_map, List.any_eq_true]
  exact exists_congr fun m => and_congr_right fun mem =>
    DeclaredMethod.isEntryPoint_entry_iff (fine.one_role m mem)

/-! ## Top theorem -/

/-- **The descriptor of an accepted declaration is its table.**  The rows describe the methods one
by one; within a role a name determines the row; the index of the starting method is noted exactly
when there is one, and its row is there; members are found at the first row that has them, and a
call is never aimed past the rows.  Reading the methods in one pass notes the same. -/
theorem resolve_tabulates {d : Declaration} {t : Descriptor} (accepted : d.resolve = .ok t) :
    t.Tabulates d ∧ d.read = .ok (.ofTable t) := by
  have read := read_eq d
  rw [accepted] at read
  obtain ⟨rfl, fine⟩ := of_resolve_eq_ok accepted
  refine ⟨?_, read⟩
  exact {
    length_eq := List.length_map ..
    describes := fun i m e declared row => by
      rw [show (d.tableOf d.methods).methods[i]? = _ from List.getElem?_map .., declared] at row
      obtain rfl := Option.some.inj row
      exact entry_describes (fine.one_role m (List.mem_of_getElem? declared))
    name_inj := fun i j e e' own row row' => fine.entry_inj row row'
    entryPoint_isSome_iff := fine.entryPoint_isSome_iff
    workflowType_eq := fun i => Descriptor.workflowType_of_entryPoint _
    workflowType_eq_none := Descriptor.workflowType_eq_none _
    find_eq_some_iff := Descriptor.find_eq_some_iff _
    find_eq_none_iff := Descriptor.find_eq_none_iff _
    target_found := fun member i => Descriptor.method_of_target _ }

/-- The first method has no role, and three roles share a name; the last row repeats a member. -/
theorem shared_name_tabulates :
    let member : Member := ⟨"Greeter", "greet", .string, [.string], false⟩
    let d : Declaration := ⟨"Greeter", ⟨"Greeter"⟩, .empty,
      [.make "note" none .void [],
        .make "greet" (some member) .string [.role ⟨.entryPoint, ""⟩],
        .make "done" none .void [.role ⟨.signal, "greet"⟩],
        .make "again" (some member) .string [.role ⟨.query, "greet"⟩]]⟩
    let t := d.tableOf d.methods
    d.resolve = .ok t ∧ d.read = .ok (.ofTable t) ∧ t.entryPoint = some 1 ∧
      t.workflowType = some "greet" ∧ t.find member = some 1 := by
  intro member d t
  have accepted : d.resolve = .ok t := rfl
  obtain ⟨tabulates, read⟩ := resolve_tabulates accepted
  obtain ⟨e, name, row, resolved, type⟩ := tabulates.workflowType_eq 1 rfl
  cases row
  cases resolved
  have found : t.find member = some 1 :=
    (tabulates.find_eq_some_iff member 1).2 ⟨⟨_, rfl, rfl⟩, by decide⟩
  exact ⟨accepted, read, rfl, type, found⟩

end WorkflowDispatch
