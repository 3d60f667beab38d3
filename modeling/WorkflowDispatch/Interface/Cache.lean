import WorkflowDispatch.Interface.Descriptor

/-!
# The descriptor cache

The descriptors resolved so far, one for each interface type.  Every stored descriptor has a
number of its own, so that one that was found again can be told from one that was resolved again.

    (c.insert t d).1.find? t = some (c.insert t d).2        (find?_insert)
-/

namespace WorkflowDispatch

/-- A descriptor with the number it was stored under. -/
structure CachedDescriptor where
  serial : Nat
  descriptor : Descriptor
  deriving DecidableEq, Repr

/-- The descriptors resolved so far. -/
structure Cache where
  entries : List (InterfaceType × CachedDescriptor)
  /-- How many descriptors were ever stored. -/
  stored : Nat
  deriving DecidableEq, Repr

namespace Cache

def empty : Cache := ⟨[], 0⟩

/-- The descriptor of a type. -/
def find? (c : Cache) (type : InterfaceType) : Option CachedDescriptor := c.entries.lookup type

def contains (c : Cache) (type : InterfaceType) : Bool := (c.find? type).isSome

def size (c : Cache) : Nat := c.entries.length

/-- Stores a descriptor for a type that has none. -/
def insert (c : Cache) (type : InterfaceType) (d : Descriptor) : Cache × CachedDescriptor :=
  let cached : CachedDescriptor := ⟨c.stored, d⟩
  (⟨(type, cached) :: c.entries, c.stored + 1⟩, cached)

/-- Forgets every descriptor. -/
def clear (c : Cache) : Cache := { c with entries := [] }

/-! ## Lemmas -/

@[simp] theorem find?_empty (type : InterfaceType) : empty.find? type = none := rfl

@[simp] theorem find?_clear (c : Cache) (type : InterfaceType) : c.clear.find? type = none := rfl

theorem find?_insert (c : Cache) (type : InterfaceType) (d : Descriptor) :
    (c.insert type d).1.find? type = some (c.insert type d).2 := by
  simp [insert, find?]

theorem find?_insert_of_ne (c : Cache) {type other : InterfaceType} (d : Descriptor)
    (h : other ≠ type) : (c.insert type d).1.find? other = c.find? other := by
  have unlike : (other == type) = false := by simpa using h
  unfold insert find?
  rw [List.lookup_cons, unlike]

end Cache

/-- Why a descriptor cannot be had from the cache. -/
inductive CacheError where
  /-- Nothing declares the interface. -/
  | noDeclaration
  /-- The declaration is that of another interface type. -/
  | foreignType (interface : String)
  deriving DecidableEq, Repr

instance : Cause CacheError where
  kind
    | .noDeclaration => .invalidArgument
    | .foreignType _ => .invalidState
  message
    | .noDeclaration => "interface declaration function is null"
    | .foreignType interface =>
      "declaration of " ++ interface ++ " was built for a different interface type"

end WorkflowDispatch
