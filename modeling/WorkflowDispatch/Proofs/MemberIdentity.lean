import WorkflowDispatch.Proofs.Protocol
import WorkflowDispatch.Proofs.ResolvedTable
import WorkflowDispatch.Stub

/-!
# Members as keys

A typed call names a member, and the member is looked up among the rows: the first row that has it
is called.  When a declaration is resolved nobody compares the members, so that several rows may
have the same one.  Which rows share a member can be read off the declaration, and it decides
whether members are keys of the table: whether each row is found by its member, whether a member
has one role, and whether each role can be called at all.

    t.Keyed ↔ t.FindsOwn                                                    (keyed_iff_findsOwn)
    t.target member = .method i ↔ t.find member = some i                     (target_eq_method_iff)
    (d.tableOf methods).Keyed ↔ MembersDiffer (fun _ _ => True) methods             (keyed_tableOf)
-/

namespace WorkflowDispatch

open WorkflowDispatch.Action

/-! ## Definitions -/

/-- The method is marked with a role. -/
def DeclaredMethod.HasRole (m : DeclaredMethod) : Prop := m.roleMarks ≠ []

/-- No two methods declare the same member.  `P` says which pairs count, the earlier method of the
two first. -/
def MembersDiffer (P : DeclaredMethod → DeclaredMethod → Prop) (methods : List DeclaredMethod) :
    Prop :=
  methods.Pairwise fun m m' =>
    P m m' → ∀ member, m.member = some member → m'.member ≠ some member

namespace Descriptor

/-- The row at an index has the member. -/
def HasMember (t : Descriptor) (i : Nat) (e : DescribedMethod) (member : Member) : Prop :=
  t.methods[i]? = some e ∧ e.member = some member

/-- A member belongs to one row. -/
def Keyed (t : Descriptor) : Prop :=
  ∀ i j e e' member, t.HasMember i e member → t.HasMember j e' member → i = j

/-- Each row is found by its member. -/
def FindsOwn (t : Descriptor) : Prop :=
  ∀ i e member, t.HasMember i e member → t.find member = some i

/-- A member has one role, under one name. -/
def OneRole (t : Descriptor) : Prop :=
  ∀ i j e e' member own own', t.HasMember i e member → t.HasMember j e' member →
    e.resolved = some own → e'.resolved = some own' → own = own'

/-- Each role is what a call of the row's own member is routed to. -/
def Reached (t : Descriptor) : Prop :=
  ∀ i e member own, t.HasMember i e member → e.resolved = some own →
    ∃ j, t.target member = .method j ∧
      ∀ h args, ∃ r, t.routedCall h j args = .ok r ∧ r.resolved = own

end Descriptor

/-- The declaration with other members. -/
def Declaration.withMembers (d : Declaration) (assign : DeclaredMethod → Option Member) :
    Declaration :=
  { d with methods := d.methods.map fun m => { m with member := assign m } }

/-! ## Finding rows -/

namespace Descriptor

variable {t : Descriptor} {i : Nat} {e : DescribedMethod} {member : Member}

theorem target_eq_method_iff : t.target member = .method i ↔ t.find member = some i := by
  unfold target
  cases t.find member <;> simp

theorem HasMember.find_eq (has : t.HasMember i e member)
    (first : ∀ j < i, ∀ e', ¬t.HasMember j e' member) : t.find member = some i :=
  (t.find_eq_some_iff member i).2
    ⟨⟨e, has⟩, fun j less e' row same => first j less e' ⟨row, same⟩⟩

theorem not_hasMember_of_find (found : t.find member = some i) {j : Nat} (less : j < i)
    (e' : DescribedMethod) : ¬t.HasMember j e' member := by
  intro has
  exact ((t.find_eq_some_iff member i).1 found).2 j less e' has.1 has.2

/-- Members are keys exactly when each row is found by its own. -/
theorem keyed_iff_findsOwn (t : Descriptor) : t.Keyed ↔ t.FindsOwn := by
  constructor
  · intro keyed i e member has
    refine has.find_eq fun j less e' other => ?_
    have same := keyed i j e e' member has other
    omega
  · intro finds i j e e' member has other
    exact Option.some.inj ((finds i e member has).symm.trans (finds j e' member other))

end Descriptor

/-! ## Rows of a declaration -/

section

variable {d : Declaration} {methods : List DeclaredMethod}

theorem membersDiffer_iff {P : DeclaredMethod → DeclaredMethod → Prop} :
    MembersDiffer P methods ↔
      ∀ (i j : Nat) (m m' : DeclaredMethod) (member : Member), i < j → methods[i]? = some m →
        methods[j]? = some m' → P m m' → m.member = some member → m'.member ≠ some member := by
  unfold MembersDiffer
  rw [List.pairwise_iff_getElem]
  constructor
  · intro differ i j m m' member less at_i at_j counts
    obtain ⟨lt, rfl⟩ := List.getElem?_eq_some_iff.1 at_i
    obtain ⟨lt', rfl⟩ := List.getElem?_eq_some_iff.1 at_j
    exact differ i j lt lt' less counts member
  · intro differ i j lt lt' less counts member
    exact differ i j _ _ member less (List.getElem?_eq_getElem lt) (List.getElem?_eq_getElem lt')
      counts

theorem hasMember_tableOf_iff {i : Nat} {e : DescribedMethod} {member : Member} :
    (d.tableOf methods).HasMember i e member ↔
      ∃ m, methods[i]? = some m ∧ m.entry = e ∧ m.member = some member := by
  unfold Descriptor.HasMember Declaration.tableOf
  rw [List.getElem?_map, Option.map_eq_some_iff]
  constructor
  · rintro ⟨⟨m, declared, rfl⟩, has⟩
    exact ⟨m, declared, rfl, has⟩
  · rintro ⟨m, declared, rfl, has⟩
    exact ⟨⟨m, declared, rfl⟩, has⟩

theorem entry_resolved_isSome_iff (m : DeclaredMethod) :
    (∃ own, m.entry.resolved = some own) ↔ m.HasRole := by
  unfold DeclaredMethod.entry DeclaredMethod.HasRole
  cases m.roleMarks <;> simp

/-- Members are keys exactly when no two methods declare the same one. -/
theorem keyed_tableOf :
    (d.tableOf methods).Keyed ↔ MembersDiffer (fun _ _ => True) methods := by
  rw [membersDiffer_iff]
  constructor
  · intro keyed i j m m' member less at_i at_j _ has has'
    have same := keyed i j _ _ member (hasMember_tableOf_iff.2 ⟨m, at_i, rfl, has⟩)
      (hasMember_tableOf_iff.2 ⟨m', at_j, rfl, has'⟩)
    omega
  · intro differ i j e e' member has other
    obtain ⟨m, at_i, -, same⟩ := hasMember_tableOf_iff.1 has
    obtain ⟨m', at_j, -, same'⟩ := hasMember_tableOf_iff.1 other
    rcases Nat.lt_trichotomy i j with less | rfl | more
    · exact absurd same' (differ i j m m' member less at_i at_j trivial same)
    · rfl
    · exact absurd same (differ j i m' m member more at_j at_i trivial same')

/-- A member has one role exactly when no two methods with roles declare it. -/
theorem oneRole_tableOf (fine : Unambiguous methods) :
    (d.tableOf methods).OneRole ↔
      MembersDiffer (fun m m' => m.HasRole ∧ m'.HasRole) methods := by
  rw [membersDiffer_iff]
  constructor
  · rintro one i j m m' member less at_i at_j ⟨role, role'⟩ has has'
    obtain ⟨own, resolved⟩ := (entry_resolved_isSome_iff m).2 role
    obtain ⟨own', resolved'⟩ := (entry_resolved_isSome_iff m').2 role'
    have row := hasMember_tableOf_iff (d := d).2 ⟨m, at_i, rfl, has⟩
    have row' := hasMember_tableOf_iff (d := d).2 ⟨m', at_j, rfl, has'⟩
    obtain rfl := one i j _ _ member own own' row row' resolved resolved'
    -- Within a role a name belongs to one row, so the two rows would be one.
    have same : i = j := fine.entry_inj row.1 row'.1 resolved resolved'
    omega
  · intro differ i j e e' member own own' has other resolved resolved'
    obtain ⟨m, at_i, rfl, same⟩ := hasMember_tableOf_iff.1 has
    obtain ⟨m', at_j, rfl, same'⟩ := hasMember_tableOf_iff.1 other
    have role := (entry_resolved_isSome_iff m).1 ⟨own, resolved⟩
    have role' := (entry_resolved_isSome_iff m').1 ⟨own', resolved'⟩
    rcases Nat.lt_trichotomy i j with less | rfl | more
    · exact absurd same' (differ i j m m' member less at_i at_j ⟨role, role'⟩ same)
    · obtain rfl : m = m' := Option.some.inj (at_i.symm.trans at_j)
      exact Option.some.inj (resolved.symm.trans resolved')
    · exact absurd same (differ j i m' m member more at_j at_i ⟨role', role⟩ same')

/-- Each role can be called exactly when no method with a role repeats the member of an earlier
method. -/
theorem reached_tableOf (fine : Unambiguous methods) :
    (d.tableOf methods).Reached ↔ MembersDiffer (fun _ m' => m'.HasRole) methods := by
  rw [membersDiffer_iff]
  constructor
  · intro reached i j m m' member less at_i at_j role has has'
    obtain ⟨own, resolved⟩ := (entry_resolved_isSome_iff m').2 role
    have row := hasMember_tableOf_iff (d := d).2 ⟨m, at_i, rfl, has⟩
    have row' := hasMember_tableOf_iff (d := d).2 ⟨m', at_j, rfl, has'⟩
    obtain ⟨k, aimed, routed⟩ := reached j _ member own row' resolved
    obtain ⟨r, routed, played⟩ := routed ⟨0, ""⟩ []
    obtain ⟨entry, played', declared, resolves, rfl⟩ := of_routedCall_eq_ok routed
    obtain rfl : played' = own := played
    have same : k = j := fine.entry_inj declared row'.1 resolves resolved
    have found := Descriptor.target_eq_method_iff.1 aimed
    exact Descriptor.not_hasMember_of_find found (by omega) _ row
  · intro differ i e member own has resolved
    obtain ⟨m, at_i, rfl, same⟩ := hasMember_tableOf_iff.1 has
    have role := (entry_resolved_isSome_iff m).1 ⟨own, resolved⟩
    have found : (d.tableOf methods).find member = some i := by
      refine has.find_eq fun j less e' other => ?_
      obtain ⟨m', at_j, -, same'⟩ := hasMember_tableOf_iff.1 other
      exact differ j i m' m member less at_j at_i role same' same
    refine ⟨i, Descriptor.target_eq_method_iff.2 found, fun h args => ?_⟩
    exact ⟨_, routedCall_of_resolved has.1 resolved h args, rfl⟩

/-- Other members make methods neither ambiguous nor unambiguous. -/
theorem Unambiguous.withMembers (fine : Unambiguous d.methods)
    (assign : DeclaredMethod → Option Member) : Unambiguous (d.withMembers assign).methods where
  one_role m mem := by
    obtain ⟨declared, among, rfl⟩ := List.mem_map.1 mem
    exact fine.one_role declared among
  names_differ := List.pairwise_map.2 fine.names_differ
  one_start := List.pairwise_map.2 fine.one_start

end

/-! ## Top theorem -/

/-- **Members are keys exactly when they are declared once.**  A declaration is accepted whatever
the members are.  In the table of an accepted one a member belongs to one row, and each row is found
by its member, exactly when no two methods declare the same member; a member has one role exactly
when no two methods with roles declare it; and each role is what a call of its own member is routed
to exactly when no method with a role repeats the member of an earlier method. -/
theorem members_are_keys_iff {d : Declaration} {t : Descriptor} (accepted : d.resolve = .ok t) :
    (t.Keyed ↔ MembersDiffer (fun _ _ => True) d.methods) ∧
      (t.FindsOwn ↔ MembersDiffer (fun _ _ => True) d.methods) ∧
      (t.OneRole ↔ MembersDiffer (fun m m' => m.HasRole ∧ m'.HasRole) d.methods) ∧
      (t.Reached ↔ MembersDiffer (fun _ m' => m'.HasRole) d.methods) ∧
      ∀ assign, ∃ t', (d.withMembers assign).resolve = .ok t' := by
  obtain ⟨rfl, fine⟩ := of_resolve_eq_ok accepted
  refine ⟨keyed_tableOf, ?_, oneRole_tableOf fine, reached_tableOf fine, fun assign => ?_⟩
  · rw [← Descriptor.keyed_iff_findsOwn]
    exact keyed_tableOf
  · exact ⟨_, resolve_eq_ok_of_unambiguous (fine.withMembers assign)⟩

/-- A greeting and a status that go by one member. -/
def twofold : Declaration :=
  let greet : Member := ⟨"Greeter", "greet", .string, [.string], false⟩
  ⟨"Greeter", ⟨"Greeter"⟩, .empty,
    [.make "greet" (some greet) .string [.role ⟨.entryPoint, "Greet"⟩],
      .make "status" (some greet) .string [.role ⟨.query, "Status"⟩]]⟩

/-- No call reaches the status. -/
theorem twofold_status_unreached :
    let t := twofold.tableOf twofold.methods
    ¬t.Keyed ∧ ¬t.FindsOwn ∧ ¬t.OneRole ∧ ¬t.Reached := by
  intro t
  obtain ⟨keyed, finds, one, reached, -⟩ := members_are_keys_iff (d := twofold) (t := t) rfl
  have shared {P : DeclaredMethod → DeclaredMethod → Prop}
      (counts : ∀ m ∈ twofold.methods, ∀ m' ∈ twofold.methods, P m m') :
      ¬MembersDiffer P twofold.methods := by
    intro differ
    have apart := (List.pairwise_cons.1 differ).1 _ (.head _)
    exact apart (counts _ (.head _) _ (.tail _ (.head _))) _ rfl rfl
  have roles : ∀ m ∈ twofold.methods, m.HasRole := by
    unfold DeclaredMethod.HasRole
    decide
  exact ⟨fun all => shared (fun _ _ _ _ => trivial) (keyed.1 all),
    fun all => shared (fun _ _ _ _ => trivial) (finds.1 all),
    fun all => shared (fun m mem m' mem' => ⟨roles m mem, roles m' mem'⟩) (one.1 all),
    fun all => shared (fun _ _ m' mem' => roles m' mem') (reached.1 all)⟩

/-- The two methods are accepted with one member, and its call is the greeting, never the
status. -/
theorem twofold_member_greets :
    let greet : Member := ⟨"Greeter", "greet", .string, [.string], false⟩
    let t := twofold.tableOf twofold.methods
    let ann : Stub := ⟨⟨1, "ann"⟩, ⟨t⟩⟩
    twofold.resolve = .ok t ∧
      (∃ e e', t.HasMember 0 e greet ∧ t.HasMember 1 e' greet ∧
        e.resolved = some ⟨.entryPoint, "Greet"⟩ ∧ e'.resolved = some ⟨.query, "Status"⟩) ∧
      t.find greet = some 0 ∧
      (runFrom (ann.call running greet [.string "Ann"]) (State.initial ())).2.calls =
        [.handle ann.handle (.start [.string "Ann"]), .handle ann.handle .getOptions,
          .handle ann.handle (.getResult .string)] :=
  ⟨rfl, ⟨_, _, ⟨rfl, rfl⟩, ⟨rfl, rfl⟩, rfl, rfl⟩, rfl, rfl⟩

end WorkflowDispatch
