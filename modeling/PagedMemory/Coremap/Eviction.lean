import PagedMemory.Operation

/-!
# Eviction policies

When no free run is long enough, the allocator may take frames that are in use,
if a policy agrees. A policy answers, frame by frame, which allocations it can
do without, and is told of each one that is taken. It may keep state of its
own between questions.
-/

namespace PagedMemory

/-- A policy with state `π`. -/
class EvictionPolicy (π : Type) where
  /-- Whether a frame that is in use may be taken. -/
  isEvictable : π → Frame → Descriptor → Bool × π
  /-- Prepare for the loss of a whole allocation, given by its first frame, its
  size and the descriptor of its frames. -/
  evict : π → Frame → Nat → Descriptor → Except Panic Unit × π

/-- The policy that gives up nothing. -/
structure NoEviction where
deriving DecidableEq

instance : EvictionPolicy NoEviction where
  isEvictable policy _ _ := (false, policy)
  evict policy base _ _ := (.error (.evictionRefused base), policy)

/-- The policy that gives up whatever satisfies some rules; a rule that is
absent is satisfied by everything. -/
structure EvictionRules where
  /-- Whether anything is given up. -/
  enabled : Bool
  /-- Whose frames are given up. -/
  owners : Option (List Owner)
  /-- The numbers of the frames that are given up. -/
  frames : Option (List Nat)
  /-- The size of the largest allocation that is given up. -/
  maxSize : Option Nat
deriving DecidableEq

namespace EvictionRules

/-- The rules that nothing satisfies. -/
def disabled : EvictionRules := ⟨false, none, none, none⟩

/-- Whether a frame satisfies the rules. -/
def allows (rules : EvictionRules) (frame : Frame) (descriptor : Descriptor) : Bool :=
  rules.enabled &&
    (match rules.owners with
      | none => true
      | some owners => descriptor.owner.any owners.contains) &&
    (match rules.frames with
      | none => true
      | some frames => frames.contains frame.number) &&
    (match rules.maxSize with
      | none => true
      | some most => descriptor.size.any fun size => decide (size ≤ most))

instance : EvictionPolicy EvictionRules where
  isEvictable rules frame descriptor := (rules.allows frame descriptor, rules)
  evict rules _ _ _ := (.ok (), rules)

end EvictionRules

end PagedMemory
