import WorkflowDispatch.Proofs.CoefficientNumber
import WorkflowDispatch.Proofs.Layering

/-!
# Equality of options

Options are compared setting by setting, a backoff coefficient as the number that it stands for.  So
equal options agree on every setting, and on whether there are options for retries at all.
Agreement on a setting is symmetric and transitive, and it passes from two layers to their merge,
which takes what is said from one of them.

    a.equals b = true ↔ a.retry.isSome = b.retry.isSome ∧ ∀ s, s.Agree a b             (equals_iff)
    a.equals a = true ↔ a holds no NaN                                            (equals_self_iff)
    a.equals a' = true → b.equals b' = true → (a.merge b).equals (a'.merge b') = true
                                                                                     (merge_equals)
-/

namespace WorkflowDispatch

/-! ## Definitions -/

/-- Equality of two values of a setting: a coefficient is compared as a number. -/
def Setting.equal : (s : Setting) → s.Value → s.Value → Bool
  | backoffCoefficient => Coefficient.equals
  | workflowId | taskQueue | cronSchedule => fun (a b : String) => a == b
  | reusePolicy => fun (a b : ReusePolicy) => a == b
  | executionTimeout | runTimeout | taskTimeout => fun (a b : Int) => a == b
  | initialInterval | maximumInterval | maximumAttempts => fun (a b : Int) => a == b
  | doNotRetry => fun (a b : List String) => a == b

/-- The options agree on the setting: both say nothing, or what they say is equal. -/
def Setting.Agree (s : Setting) (a b : WorkflowOptions) : Prop :=
  equalBy s.equal (s.get a) (s.get b) = true

/-- Options that set the backoff coefficient and nothing else. -/
def WorkflowOptions.backoff (bits : UInt64) : WorkflowOptions :=
  { empty with retry := some { RetryOptions.empty with backoffCoefficient := some ⟨bits⟩ } }

/-! ## Optional values -/

section

variable {α : Type} {eq : α → α → Bool}

theorem equalBy_beq [BEq α] (x y : Option α) : equalBy (fun a b : α => a == b) x y = (x == y) := by
  cases x <;> cases y <;> rfl

theorem equalBy_symm (symm : ∀ {a b}, eq a b = true → eq b a = true) {x y : Option α}
    (equal : equalBy eq x y = true) : equalBy eq y x = true := by
  match x, y with
  | none, none => rfl
  | some _, some _ => exact symm equal

theorem equalBy_trans (trans : ∀ {a b c}, eq a b = true → eq b c = true → eq a c = true)
    {x y z : Option α} (first : equalBy eq x y = true) (second : equalBy eq y z = true) :
    equalBy eq x z = true := by
  match x, y, z with
  | none, none, none => rfl
  | some _, some _, some _ => exact trans first second

theorem equalBy_self_iff (x : Option α) :
    equalBy eq x x = true ↔ ∀ a ∈ x, eq a a = true := by
  cases x <;> simp [equalBy]

/-- Of two pairs of equal values, whichever come first are equal. -/
theorem equalBy_or {x x' y y' : Option α} (first : equalBy eq x x' = true)
    (second : equalBy eq y y' = true) : equalBy eq (x.or y) (x'.or y') = true := by
  match x, x' with
  | none, none => exact second
  | some _, some _ => exact first

end

/-! ## Agreement on a setting -/

namespace Coefficient

theorem equals_symm {a b : Coefficient} (equal : a.equals b = true) : b.equals a = true := by
  obtain ⟨n, numberA, numberB⟩ := (equals_iff a b).1 equal
  exact (equals_iff b a).2 ⟨n, numberB, numberA⟩

theorem equals_trans {a b c : Coefficient} (first : a.equals b = true)
    (second : b.equals c = true) : a.equals c = true := by
  obtain ⟨n, numberA, numberB⟩ := (equals_iff a b).1 first
  obtain ⟨m, numberB', numberC⟩ := (equals_iff b c).1 second
  obtain rfl : n = m := Option.some.inj (numberB.symm.trans numberB')
  exact (equals_iff a c).2 ⟨n, numberA, numberC⟩

end Coefficient

namespace Setting

variable {s : Setting} {a b c : WorkflowOptions}

theorem equal_iff_eq (plain : s ≠ .backoffCoefficient) (v w : s.Value) :
    s.equal v w = true ↔ v = w := by
  cases s with
  | backoffCoefficient => exact absurd rfl plain
  | workflowId | taskQueue | cronSchedule | reusePolicy => exact beq_iff_eq
  | executionTimeout | runTimeout | taskTimeout => exact beq_iff_eq
  | initialInterval | maximumInterval | maximumAttempts | doNotRetry => exact beq_iff_eq

theorem equal_symm {v w : s.Value} (equal : s.equal v w = true) : s.equal w v = true := by
  by_cases number : s = .backoffCoefficient
  · subst number
    exact Coefficient.equals_symm equal
  · rw [equal_iff_eq number] at equal ⊢
    exact equal.symm

theorem equal_trans {u v w : s.Value} (first : s.equal u v = true) (second : s.equal v w = true) :
    s.equal u w = true := by
  by_cases number : s = .backoffCoefficient
  · subst number
    exact Coefficient.equals_trans first second
  · rw [equal_iff_eq number] at first second ⊢
    exact first.trans second

theorem Agree.symm (agree : s.Agree a b) : s.Agree b a :=
  equalBy_symm equal_symm agree

theorem Agree.trans (first : s.Agree a b) (second : s.Agree b c) : s.Agree a c :=
  equalBy_trans equal_trans first second

/-- Options agree with themselves, but not on a coefficient that is a NaN. -/
theorem agree_self_iff :
    s.Agree a a ↔ s = .backoffCoefficient →
      ∀ v ∈ Setting.backoffCoefficient.get a, v.isNaN = false := by
  unfold Agree
  rw [equalBy_self_iff]
  by_cases number : s = .backoffCoefficient
  · subst number
    simp only [forall_const]
    exact forall₂_congr fun v _ => v.equals_self_iff
  · exact iff_of_true (fun v _ => (equal_iff_eq number v v).2 rfl) (fun h => absurd h number)

/-- Each setting of a merge comes from one layer or the other, on both sides alike. -/
theorem Agree.merge {a' b' : WorkflowOptions} (lower : s.Agree a a') (higher : s.Agree b b') :
    s.Agree (a.merge b) (a'.merge b') := by
  unfold Agree
  rw [get_merge, get_merge]
  exact equalBy_or higher lower

end Setting

/-! ## Equality of options -/

theorem filter_ne_nil_beq (l l' : List String) :
    ((some l).filter (· ≠ []) == (some l').filter (· ≠ [])) = (l == l') := by
  cases l <;> cases l' <;> simp [Option.filter]

namespace WorkflowOptions

theorem equal_retry_iff (a b : WorkflowOptions) :
    equalBy RetryOptions.equals a.retry b.retry = true ↔
      a.retry.isSome = b.retry.isSome ∧ Setting.initialInterval.Agree a b ∧
        Setting.backoffCoefficient.Agree a b ∧ Setting.maximumInterval.Agree a b ∧
        Setting.maximumAttempts.Agree a b ∧ Setting.doNotRetry.Agree a b := by
  simp only [Setting.Agree, Setting.get, Setting.equal]
  match a.retry, b.retry with
  | none, none | none, some _ | some _, none => simp [equalBy]
  | some retry, some retry' =>
    show retry.equals retry' = true ↔ _
    simp only [equalBy_beq, Option.bind_some, filter_ne_nil_beq, RetryOptions.equals,
      Bool.and_eq_true, Option.isSome_some, true_and, and_assoc]

/-- Options are equal when they agree on every setting and on whether there are options for
retries. -/
theorem equals_iff (a b : WorkflowOptions) :
    a.equals b = true ↔ a.retry.isSome = b.retry.isSome ∧ ∀ s : Setting, s.Agree a b := by
  have opened : a.equals b = true ↔ Setting.workflowId.Agree a b ∧ Setting.taskQueue.Agree a b ∧
      Setting.reusePolicy.Agree a b ∧ equalBy RetryOptions.equals a.retry b.retry = true ∧
      Setting.cronSchedule.Agree a b ∧ Setting.executionTimeout.Agree a b ∧
      Setting.runTimeout.Agree a b ∧ Setting.taskTimeout.Agree a b := by
    simp only [Setting.Agree, Setting.get, Setting.equal, equalBy_beq, equals, Bool.and_eq_true,
      and_assoc]
  rw [opened, equal_retry_iff]
  constructor
  · rintro ⟨_, _, _, ⟨present, _, _, _, _, _⟩, _, _, _, _⟩
    exact ⟨present, fun s => by cases s <;> assumption⟩
  · rintro ⟨present, agree⟩
    exact ⟨agree _, agree _, agree _, ⟨present, agree _, agree _, agree _, agree _, agree _⟩,
      agree _, agree _, agree _, agree _⟩

theorem equals_symm {a b : WorkflowOptions} (equal : a.equals b = true) : b.equals a = true := by
  obtain ⟨present, agree⟩ := (equals_iff a b).1 equal
  exact (equals_iff b a).2 ⟨present.symm, fun s => (agree s).symm⟩

theorem equals_trans {a b c : WorkflowOptions} (first : a.equals b = true)
    (second : b.equals c = true) : a.equals c = true := by
  obtain ⟨present, agree⟩ := (equals_iff a b).1 first
  obtain ⟨present', agree'⟩ := (equals_iff b c).1 second
  exact (equals_iff a c).2 ⟨present.trans present', fun s => (agree s).trans (agree' s)⟩

/-- Only a NaN keeps options from equalling themselves. -/
theorem equals_self_iff (a : WorkflowOptions) :
    a.equals a = true ↔
      ∀ retry ∈ a.retry, ∀ v ∈ retry.backoffCoefficient, v.isNaN = false := by
  rw [equals_iff]
  simp only [Setting.agree_self_iff, true_and, forall_eq, Setting.get]
  cases a.retry with
  | none => simp
  | some retry => simp

theorem merge_equals {a a' b b' : WorkflowOptions} (lower : a.equals a' = true)
    (higher : b.equals b' = true) : (a.merge b).equals (a'.merge b') = true := by
  obtain ⟨present, agree⟩ := (equals_iff a a').1 lower
  obtain ⟨present', agree'⟩ := (equals_iff b b').1 higher
  refine (equals_iff _ _).2 ⟨?_, fun s => (agree s).merge (agree' s)⟩
  rw [merge_retry_isSome, merge_retry_isSome, present, present']

/-! ## Top theorem -/

/-- **Equality of options is a partial equivalence that merging respects.**  A coefficient is
compared as the number that it stands for, a NaN standing for none.  Equality is symmetric and
transitive; options equal themselves unless they hold a NaN; and equal layers merge to equal
options.  These need not be the same bits, for a zero of either sign is kept as it is. -/
theorem merge_respects_equality :
    (∀ x y : Coefficient, x.equals y = true ↔ ∃ n, x.number? = some n ∧ y.number? = some n) ∧
      (∀ x : Coefficient, x.number? = none ↔ x.isNaN = true) ∧
      (∀ a b : WorkflowOptions, a.equals b = true → b.equals a = true) ∧
      (∀ a b c : WorkflowOptions, a.equals b = true → b.equals c = true → a.equals c = true) ∧
      (∀ a : WorkflowOptions, a.equals a = true ↔
        ∀ retry ∈ a.retry, ∀ x ∈ retry.backoffCoefficient, x.isNaN = false) ∧
      (∀ a a' b b' : WorkflowOptions, a.equals a' = true → b.equals b' = true →
        (a.merge b).equals (a'.merge b') = true) ∧
      ∃ (a a' b b' : WorkflowOptions) (x x' : Coefficient),
        a.equals a' = true ∧ b.equals b' = true ∧
          Setting.backoffCoefficient.get (a.merge b) = some x ∧
          Setting.backoffCoefficient.get (a'.merge b') = some x' ∧ x.bits ≠ x'.bits := by
  refine ⟨Coefficient.equals_iff, Coefficient.number?_eq_none_iff, fun _ _ => equals_symm,
    fun _ _ _ => equals_trans, equals_self_iff, fun _ _ _ _ => merge_equals, ?_⟩
  exact ⟨empty, empty, backoff 0, backoff 0x8000000000000000, ⟨0⟩, ⟨0x8000000000000000⟩,
    rfl, by decide, rfl, rfl, by decide⟩

/-- Layers with a negative and a positive zero merge to equal options, and options with a NaN do
not equal themselves. -/
theorem zero_layers_merge_equal :
    (backoff 0).equals (backoff 0x8000000000000000) = true ∧
      ((backoff 1).merge (backoff 0)).equals ((backoff 1).merge (backoff 0x8000000000000000)) =
        true ∧
      (backoff 0x7ff8000000000000).equals (backoff 0x7ff8000000000000) = false := by
  obtain ⟨-, -, symm, trans, self, merged, -⟩ := merge_respects_equality
  have zeros : (backoff 0).equals (backoff 0x8000000000000000) = true := by decide
  have one : (backoff 1).equals (backoff 1) = true :=
    trans _ _ _ (by decide) (symm _ (backoff 1) (by decide))
  refine ⟨zeros, merged _ _ _ _ one zeros, ?_⟩
  rw [← Bool.not_eq_true, self]
  decide

end WorkflowOptions

end WorkflowDispatch
