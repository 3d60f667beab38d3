/-!
# Numbered alternatives

A finite type whose members carry a number and a name, and how an arbitrary number is read and
named.  A number that belongs to no member is named by the type's word for it.

    ofNumber? (number a) = some a        (ofNumber?_number)
    ofNumber? n = some a → number a = n  (number_of_ofNumber?)
    nameOf (number a) = name a           (nameOf_number)
-/

namespace WorkflowDispatch

/-! ## Definitions -/

/-- The members of a finite type, each with its number and its name. -/
class Numbered (α : Type) where
  all : List α
  number : α → Int
  name : α → String
  /-- The name given to a number that no member has. -/
  unnamed : String

/-- Every member is listed, and no two share a number. -/
class LawfulNumbered (α : Type) [Numbered α] : Prop where
  mem_all : ∀ a : α, a ∈ Numbered.all
  number_inj : ∀ a b : α, Numbered.number a = Numbered.number b → a = b

namespace Numbered

variable {α : Type} [Numbered α]

/-- The member with the number `n`. -/
def ofNumber? (n : Int) : Option α := all.find? fun a => number a == n

/-- The member with the name `s`. -/
def ofName? (s : String) : Option α := all.find? fun a => name a == s

/-- The name printed for the number `n`, whether or not a member has it. -/
def nameOf (α : Type) [Numbered α] (n : Int) : String :=
  match (ofNumber? n : Option α) with
  | some a => name a
  | none => unnamed α

/-! ## Lemmas -/

theorem number_of_ofNumber? {n : Int} {a : α} (h : ofNumber? n = some a) : number a = n := by
  simpa using List.find?_some h

theorem ofNumber?_number [LawfulNumbered α] (a : α) : ofNumber? (number a) = some a := by
  unfold ofNumber?
  cases h : (all : List α).find? fun b => number b == number a with
  | none => exact absurd (List.find?_eq_none.1 h a (LawfulNumbered.mem_all a)) (by simp)
  | some b => rw [LawfulNumbered.number_inj b a (by simpa using List.find?_some h)]

theorem nameOf_number [LawfulNumbered α] (a : α) : nameOf α (number a) = name a := by
  simp [nameOf, ofNumber?_number]

end Numbered

end WorkflowDispatch
