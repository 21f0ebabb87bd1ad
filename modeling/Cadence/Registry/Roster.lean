import Cadence.Descriptor
import Cadence.Error

/-!
# The roster of connected modules

The roster lists the connected modules in the order in which they joined. Each has a slot, which
decides how far its pulses are shifted: a newcomer takes the lowest free slot, a leaver frees its
slot, and nobody is ever renumbered. No two members are the same module.

A member is reached over a link. The link is the identity of a registration: a module that leaves
and comes back is the same module on another link.

## Main definitions

* `Member`: a module, its slot and its link
* `Roster`: the members in join order
* `Roster.freeSlot`: the lowest slot that nobody has
* `Roster.enroll`, `Roster.dismiss`: joining and leaving
-/

namespace Cadence

/-- The number of a link, which no other registration has. -/
abbrev LinkId := Nat

/-- One connected module. -/
structure Member where
  descriptor : Descriptor
  slot : Nat
  link : LinkId
  deriving DecidableEq, Repr

/-- The connected modules in join order. -/
abbrev Roster := List Member

namespace Roster

/-- The member that is this module. -/
def member? (r : Roster) (d : Descriptor) : Option Member := r.find? (·.descriptor.same d)

/-- Is this module connected? -/
def contains (r : Roster) (d : Descriptor) : Bool := r.any (·.descriptor.same d)

/-- Is somebody connected over this link? -/
def hasLink (r : Roster) (link : LinkId) : Bool := r.any (·.link == link)

/-- Has somebody this slot? -/
def hasSlot (r : Roster) (slot : Nat) : Bool := r.any (·.slot == slot)

/-! ### Slots -/

/-- The lowest free slot from `slot` on, among as many slots as `more` says. -/
def freeSlotFrom (r : Roster) (slot : Nat) : Nat → Nat
  | 0 => slot
  | more + 1 => if r.hasSlot slot then r.freeSlotFrom (slot + 1) more else slot

/-- The lowest slot that nobody has. Among one slot more than there are members, one is free. -/
def freeSlot (r : Roster) : Nat := r.freeSlotFrom 0 r.length

/-! ### Joining and leaving -/

/-- A module joins at the end, unless it is connected already. -/
def enroll (r : Roster) (d : Descriptor) (link : LinkId) : Except ConnectionError Roster :=
  if r.contains d then .error (.duplicateModule d.display)
  else .ok (r ++ [⟨d, r.freeSlot, link⟩])

/-- A module leaves; the others keep their order and their slots. -/
def dismiss (r : Roster) (d : Descriptor) : Roster := r.filter fun m => !m.descriptor.same d

theorem contains_iff {r : Roster} {d : Descriptor} :
    r.contains d = true ↔ ∃ m ∈ r, m.descriptor.identity = d.identity := by
  simp [contains, Descriptor.same_iff]

theorem mem_dismiss {r : Roster} {d : Descriptor} {m : Member} :
    m ∈ r.dismiss d ↔ m ∈ r ∧ m.descriptor.identity ≠ d.identity := by
  simp [dismiss, Descriptor.same]

end Roster

end Cadence
