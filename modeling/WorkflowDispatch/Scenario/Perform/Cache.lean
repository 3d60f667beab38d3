import WorkflowDispatch.Scenario.World

/-!
# Commands on the cache

Descriptors and start settings through the cache, and the cache itself.
-/

namespace WorkflowDispatch.Scenario

/-- The smaller of two labels. -/
def smallerLabel (a b : String) : String := if b < a then b else a

/-- The smallest label that is known for a descriptor.  The empty label, which comes before all
others, stands for none. -/
def knownAs (t : Table CachedDescriptor) (d : CachedDescriptor) : Option String :=
  match (t.entries.filter (·.2.serial == d.serial)).map (·.1) with
  | [] => none
  | first :: rest =>
    let smallest := rest.foldl smallerLabel first
    if smallest.isEmpty then none else some smallest

/-- Whether all the descriptors are one. -/
def allSame : List CachedDescriptor → Bool
  | [] => true
  | d :: rest => rest.all (·.serial == d.serial)

def CacheCommand.perform (c : Collaborators World Note) : CacheCommand → Act Reply
  | .fetch label type => do
    let d ← Action.descriptorOf c type (some type)
    let sameAs := knownAs (← world).descriptors d
    changeWorld fun w => { w with descriptors := w.descriptors.put label d }
    return .cached d.descriptor.name sameAs
  | .describe label => return .descriptor (← lookUp World.descriptors label).descriptor
  | .resolve type declaring => do
    return .text (← Action.descriptorOf c type declaring).descriptor.name
  | .contains type => return .flag ((← get).cache.contains type)
  | .size => return .number (← get).cache.size
  | .clear => do
    Action.clearCache
    return .done
  | .race type threads => do
    return .flag (allSame (← (List.replicate threads ()).mapM fun _ =>
      Action.descriptorOf c type (some type)))
  | .configure type caller => return .configuration (← newStartSettings c type caller)

end WorkflowDispatch.Scenario
