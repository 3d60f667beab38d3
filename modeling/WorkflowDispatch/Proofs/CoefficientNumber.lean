import Mathlib.Algebra.Group.Nat.Defs
import WorkflowDispatch.Options.Coefficient

/-!
# The numbers of coefficients

The 64 bits of a coefficient are a sign, eleven bits of exponent and 52 of fraction.  They stand for
a number, finite or infinite, or for none: then they are a NaN.  The numbers grow with the bits
below the sign, so that only the two zeros are one number with two patterns of bits.

    c.number? = none ↔ c.isNaN = true                                          (number?_eq_none_iff)
    a.equals b = true ↔ ∃ n, a.number? = some n ∧ b.number? = some n                   (equals_iff)
-/

namespace WorkflowDispatch

/-! ## Definitions -/

namespace Coefficient

/-- The sign bit is set. -/
def isNegative (c : Coefficient) : Bool := decide (2 ^ 63 ≤ c.bits.toNat)

def exponent (c : Coefficient) : Nat := c.magnitude.toNat / 2 ^ 52

def fraction (c : Coefficient) : Nat := c.magnitude.toNat % 2 ^ 52

/-- The absolute value that a finite exponent and fraction stand for, in units of the smallest
positive one, which is 2 to the power of -1074. -/
def units (c : Coefficient) : Nat :=
  if c.exponent = 0 then c.fraction else (2 ^ 52 + c.fraction) * 2 ^ (c.exponent - 1)

/-- A number that a coefficient can stand for. -/
inductive Number where
  /-- So many times the smallest positive number. -/
  | finite (units : Int)
  | infinite (negative : Bool)
  deriving DecidableEq, Repr

/-- The number that the bits stand for, if they stand for one. -/
def number? (c : Coefficient) : Option Number :=
  if c.exponent = 2047 then
    if c.fraction = 0 then some (.infinite c.isNegative) else none
  else some (.finite (if c.isNegative then -c.units else c.units))

/-! ## The fields of the bits -/

theorem magnitude_toNat (c : Coefficient) : c.magnitude.toNat = c.bits.toNat % 2 ^ 63 := by
  unfold magnitude
  rw [UInt64.toNat_and]
  exact Nat.and_two_pow_sub_one_eq_mod c.bits.toNat 63

theorem magnitude_lt (c : Coefficient) : c.magnitude.toNat < 2 ^ 63 := by
  rw [magnitude_toNat]
  exact Nat.mod_lt _ (by decide)

/-- The bits are the sign and what is below it. -/
theorem bits_eq_iff (a b : Coefficient) :
    a.bits = b.bits ↔
      a.isNegative = b.isNegative ∧ a.magnitude.toNat = b.magnitude.toNat := by
  have hA := a.bits.toNat_lt
  have hB := b.bits.toNat_lt
  rw [← UInt64.toNat_inj, magnitude_toNat, magnitude_toNat, isNegative, isNegative,
    decide_eq_decide]
  omega

theorem isNaN_iff (c : Coefficient) :
    c.isNaN = true ↔ c.exponent = 2047 ∧ c.fraction ≠ 0 := by
  have bound := c.magnitude_lt
  unfold isNaN exponent fraction
  rw [decide_eq_true_iff, UInt64.lt_iff_toNat_lt]
  show 9218868437227405312 < c.magnitude.toNat ↔ _
  omega

theorem isZero_iff (c : Coefficient) : c.isZero = true ↔ c.magnitude.toNat = 0 := by
  unfold isZero
  rw [beq_iff_eq, ← UInt64.toNat_inj]
  rfl

theorem magnitude_eq (c : Coefficient) :
    c.magnitude.toNat = 2 ^ 52 * c.exponent + c.fraction :=
  (Nat.div_add_mod ..).symm

theorem fraction_lt (c : Coefficient) : c.fraction < 2 ^ 52 :=
  Nat.mod_lt _ (by decide)

/-! ## Finite numbers -/

theorem units_lt (c : Coefficient) : c.units < 2 ^ 52 * 2 ^ c.exponent := by
  have bound := c.fraction_lt
  unfold units
  split
  case isTrue least => simpa [least] using bound
  case isFalse more =>
    calc (2 ^ 52 + c.fraction) * 2 ^ (c.exponent - 1)
        < (2 ^ 52 * 2) * 2 ^ (c.exponent - 1) :=
          Nat.mul_lt_mul_of_pos_right (by omega) (Nat.two_pow_pos _)
      _ = 2 ^ 52 * (2 ^ (c.exponent - 1) * 2) := by rw [Nat.mul_assoc, Nat.mul_comm 2]
      _ = 2 ^ 52 * 2 ^ c.exponent := by rw [Nat.two_pow_pred_mul_two (Nat.pos_of_ne_zero more)]

theorem le_units (c : Coefficient) (more : c.exponent ≠ 0) :
    2 ^ 52 * 2 ^ (c.exponent - 1) ≤ c.units := by
  unfold units
  rw [if_neg more]
  exact Nat.mul_le_mul_right _ (Nat.le_add_right ..)

/-- A greater exponent makes a greater number. -/
theorem units_lt_of_exponent_lt {a b : Coefficient} (less : a.exponent < b.exponent) :
    a.units < b.units :=
  calc a.units
      < 2 ^ 52 * 2 ^ a.exponent := a.units_lt
    _ ≤ 2 ^ 52 * 2 ^ (b.exponent - 1) :=
        Nat.mul_le_mul_left _ (Nat.pow_le_pow_right (by decide) (by omega))
    _ ≤ b.units := b.le_units (by omega)

/-- Different bits below the sign make different numbers. -/
theorem magnitude_eq_of_units {a b : Coefficient} (same : a.units = b.units) :
    a.magnitude.toNat = b.magnitude.toNat := by
  have exponents : a.exponent = b.exponent := by
    rcases Nat.lt_trichotomy a.exponent b.exponent with less | equal | greater
    · exact absurd same (Nat.ne_of_lt (units_lt_of_exponent_lt less))
    · exact equal
    · exact absurd same.symm (Nat.ne_of_lt (units_lt_of_exponent_lt greater))
  have fractions : a.fraction = b.fraction := by
    unfold units at same
    rw [exponents] at same
    split at same
    · exact same
    · exact Nat.add_left_cancel (Nat.mul_right_cancel (Nat.two_pow_pos _) same)
  rw [magnitude_eq, magnitude_eq, exponents, fractions]

theorem units_eq_zero_iff (c : Coefficient) : c.units = 0 ↔ c.isZero = true := by
  rw [isZero_iff, magnitude_eq]
  unfold units
  by_cases least : c.exponent = 0
  · simp [least]
  · rw [if_neg least]
    have positive : (2 ^ 52 + c.fraction) * 2 ^ (c.exponent - 1) ≠ 0 :=
      Nat.mul_ne_zero (by omega) (Nat.ne_of_gt (Nat.two_pow_pos _))
    exact iff_of_false positive (by omega)

/-! ## Equality of numbers -/

theorem number?_eq_none_iff (c : Coefficient) : c.number? = none ↔ c.isNaN = true := by
  rw [isNaN_iff]
  unfold number?
  grind

theorem number?_eq_infinite_iff (c : Coefficient) (negative : Bool) :
    c.number? = some (.infinite negative) ↔
      c.exponent = 2047 ∧ c.fraction = 0 ∧ c.isNegative = negative := by
  unfold number?
  grind

theorem number?_eq_finite_iff (c : Coefficient) (units : Int) :
    c.number? = some (.finite units) ↔
      c.exponent ≠ 2047 ∧ (if c.isNegative then -(c.units : Int) else c.units) = units := by
  unfold number?
  grind

/-- One is two to the power of 1074 times the smallest positive number. -/
example : number? ⟨0x3ff0000000000000⟩ = some (.finite (2 ^ 1074)) := by decide +kernel

theorem number?_of_isZero {c : Coefficient} (zero : c.isZero = true) :
    c.number? = some (.finite 0) := by
  have nothing := (isZero_iff c).1 zero
  have finite : c.exponent ≠ 2047 := by
    rw [exponent, nothing]
    decide
  rw [number?_eq_finite_iff, (units_eq_zero_iff c).2 zero]
  exact ⟨finite, by simp⟩

/-- A sign tells all absolute values apart but zero. -/
theorem signed_eq_iff {p q : Bool} {u v : Nat} :
    (if p then -(u : Int) else u) = (if q then -(v : Int) else v) ↔
      u = v ∧ (p = q ∨ u = 0) := by
  cases p <;> cases q <;> simp <;> omega

/-- One number has one pattern of bits, unless it is zero. -/
theorem bits_eq_or_isZero {a b : Coefficient} {n : Number} (ha : a.number? = some n)
    (hb : b.number? = some n) : a.bits = b.bits ∨ a.isZero = true ∧ b.isZero = true := by
  rw [bits_eq_iff]
  cases n with
  | infinite negative =>
    obtain ⟨topA, noneA, signA⟩ := (number?_eq_infinite_iff a negative).1 ha
    obtain ⟨topB, noneB, signB⟩ := (number?_eq_infinite_iff b negative).1 hb
    refine .inl ⟨signA.trans signB.symm, ?_⟩
    rw [magnitude_eq, magnitude_eq, topA, noneA, topB, noneB]
  | finite units =>
    obtain ⟨-, valueA⟩ := (number?_eq_finite_iff a units).1 ha
    obtain ⟨-, valueB⟩ := (number?_eq_finite_iff b units).1 hb
    obtain ⟨sizes, signs | nothing⟩ := signed_eq_iff.1 (valueA.trans valueB.symm)
    · exact .inl ⟨signs, magnitude_eq_of_units sizes⟩
    · exact .inr ⟨(units_eq_zero_iff a).1 nothing, (units_eq_zero_iff b).1 (sizes ▸ nothing)⟩

/-- **Coefficients are equal when they stand for one number.**  A NaN stands for none, so it equals
nothing. -/
theorem equals_iff (a b : Coefficient) :
    a.equals b = true ↔ ∃ n, a.number? = some n ∧ b.number? = some n := by
  constructor
  · intro equal
    simp only [equals, Bool.and_eq_true, Bool.not_eq_true', Bool.or_eq_true, beq_iff_eq] at equal
    obtain ⟨⟨numberA, -⟩, bits | ⟨zeroA, zeroB⟩⟩ := equal
    · have same : a = b := by
        cases a
        cases b
        exact congrArg Coefficient.mk bits
      subst same
      cases number : a.number? with
      | none => simp [(number?_eq_none_iff a).1 number] at numberA
      | some n => exact ⟨n, rfl, rfl⟩
    · exact ⟨_, number?_of_isZero zeroA, number?_of_isZero zeroB⟩
  · rintro ⟨n, numberA, numberB⟩
    have notNaN {c : Coefficient} (number : c.number? = some n) : c.isNaN = false := by
      rw [← Bool.not_eq_true, ← number?_eq_none_iff, number]
      exact Option.some_ne_none n
    have same := bits_eq_or_isZero numberA numberB
    simpa [equals, notNaN numberA, notNaN numberB] using same

end Coefficient

end WorkflowDispatch
