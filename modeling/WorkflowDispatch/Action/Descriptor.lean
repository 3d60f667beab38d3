import WorkflowDispatch.Action.Basic
import WorkflowDispatch.Interface.Resolve

/-!
# Actions on descriptors

Resolving a declaration, and the descriptor of an interface type from the cache.  A descriptor is
resolved when the cache has none for the type, and is stored only if it turns out to be of that
type.
-/

namespace WorkflowDispatch.Action

variable {σ ν : Type}

/-- Resolves a declaration and reports it. -/
def resolve (d : Declaration) : Action σ ν Descriptor := do
  let descriptor ← expect d.resolve
  log .resolver .debug descriptor.summary
  return descriptor

/-- Stores a descriptor for a type that has none. -/
def storeDescriptor (type : InterfaceType) (d : Descriptor) : Action σ ν CachedDescriptor := do
  let s ← get
  let (cache, cached) := s.cache.insert type d
  set { s with cache := cache }
  return cached

/-- The descriptor of a type: the cached one, else that of what `declaring` declares. -/
def descriptorOf (c : Collaborators σ ν) (type : InterfaceType)
    (declaring : Option InterfaceType) : Action σ ν CachedDescriptor := do
  match declaring with
  | none => refuse CacheError.noDeclaration
  | some declaring =>
    match (← get).cache.find? type with
    | some cached =>
      log .resolver .trace ("descriptor cache hit: " ++ cached.descriptor.name)
      return cached
    | none =>
      log .resolver .trace ("descriptor cache miss: " ++ type.name)
      let descriptor ← resolve (← askDeclaration c declaring)
      if descriptor.type = type then
        storeDescriptor type descriptor
      else
        refuse (CacheError.foreignType descriptor.name)

/-- Forgets all cached descriptors. -/
def clearCache : Action σ ν Unit := modify fun s => { s with cache := s.cache.clear }

end WorkflowDispatch.Action
