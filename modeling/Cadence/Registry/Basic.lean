import Cadence.Control.Lifecycle
import Cadence.Control.Pulse
import Cadence.Registry.Roster

/-!
# The registry

The registry is what the sessions of the modules and the scheduler share: the roster, the queues of
every link, and the published number of members.

A link has two queues. Envelopes for the module wait in the outbound queue as long as the module
takes them; acknowledgements of the module wait for the scheduler. Both outlive the membership: a
scheduler that has taken a snapshot still sends over the links in it and still finds the
acknowledgements that were delivered before the module left.

Joining, leaving and clearing change the roster first and publish the number of members afterwards.
The two steps are functions of their own, so that what happens between them can be told.

## Main definitions

* `Link`: the queues of one registration
* `Registry`: roster, links and published count
* `Registry.openLink`, `Registry.send`, `Registry.drain`, `Registry.hangUp`: one link
* `Registry.register`, `Registry.remove`, `Registry.deliverAck`: one member
* `Registry.stopAll`: everybody is told to stop and leaves
-/

namespace Cadence

/-- The queues between the registry and one module. -/
structure Link where
  /-- Envelopes for the module, oldest first. -/
  outbound : List Envelope
  /-- Does the module's end still take envelopes? -/
  isOpen : Bool
  /-- Acknowledgements for the scheduler, oldest first. -/
  acks : List PulseAck
  /-- Has an acknowledgement ever been delivered? -/
  acknowledged : Bool

/-- A link that has just been opened. -/
def Link.fresh : Link := ⟨[], true, [], false⟩

/-- How much waits on a link, in both queues. -/
def Link.waiting (l : Link) : Nat := l.outbound.length + l.acks.length

/-- What sessions and scheduler share. -/
structure Registry where
  roster : Roster
  /-- All links that were ever opened, by number. -/
  links : List Link
  /-- The published number of members. -/
  count : Nat
  /-- How often a number was published. -/
  publications : Nat

namespace Registry

/-- A registry without members. -/
def empty : Registry := ⟨[], [], 0, 0⟩

instance : Inhabited Registry := ⟨empty⟩

/-! ### Links -/

/-- The queues of a link. A number that was never given out has closed, empty ones. -/
def link (r : Registry) (i : LinkId) : Link :=
  (r.links[i]?).getD { Link.fresh with isOpen := false }

/-- Change the queues of a link. -/
def updateLink (r : Registry) (i : LinkId) (f : Link → Link) : Registry :=
  { r with links := r.links.modify i f }

/-- Open a link; its number is new. -/
def openLink (r : Registry) : LinkId × Registry :=
  (r.links.length, { r with links := r.links ++ [.fresh] })

/-- Queue an envelope for the module; false if its end is gone. -/
def send (r : Registry) (i : LinkId) (e : Envelope) : Bool × Registry :=
  if (r.link i).isOpen then
    (true, r.updateLink i fun l => { l with outbound := l.outbound ++ [e] })
  else (false, r)

/-- The module takes all that is queued for it. -/
def drain (r : Registry) (i : LinkId) : List Envelope × Registry :=
  ((r.link i).outbound, r.updateLink i fun l => { l with outbound := [] })

/-- The module's end of the link vanishes, and with it whatever is queued. -/
def hangUp (r : Registry) (i : LinkId) : Registry :=
  r.updateLink i fun l => { l with outbound := [], isOpen := false }

/-- Take the oldest acknowledgement of a link. -/
def takeAck? (r : Registry) (i : LinkId) : Option (PulseAck × Registry) :=
  match (r.link i).acks with
  | [] => none
  | ack :: rest => some (ack, r.updateLink i fun l => { l with acks := rest })

/-- Can anybody still put something into the outbound queue? That takes membership or a snapshot
that lists the link. -/
def isHeld (r : Registry) (snapshot : Roster) (i : LinkId) : Bool :=
  r.roster.hasLink i || snapshot.hasLink i

/-! ### Members -/

/-- Publish a number of members. -/
def publishCount (r : Registry) (count : Nat) : Registry :=
  { r with count, publications := r.publications + 1 }

/-- The first step of joining: the roster. -/
def enroll (r : Registry) (d : Descriptor) (i : LinkId) : Except ConnectionError Registry :=
  (r.roster.enroll d i).map fun roster => { r with roster }

/-- A module joins over a link and gets a slot. -/
def register (r : Registry) (d : Descriptor) (i : LinkId) :
    Except ConnectionError (Nat × Registry) :=
  (r.enroll d i).map fun next => (r.roster.freeSlot, next.publishCount next.roster.length)

/-- The first step of leaving: the roster. -/
def dismiss (r : Registry) (d : Descriptor) : Registry := { r with roster := r.roster.dismiss d }

/-- A module leaves; false if it was not there. -/
def remove (r : Registry) (d : Descriptor) : Bool × Registry :=
  if r.roster.contains d then
    let next := r.dismiss d
    (true, next.publishCount next.roster.length)
  else (false, r)

/-- The connection to a module is lost: the module leaves. -/
def connectionLost (r : Registry) (d : Descriptor) : Registry := (r.remove d).2

/-- Hand an acknowledgement to the scheduler; false if the module is not connected. -/
def deliverAck (r : Registry) (d : Descriptor) (ack : PulseAck) : Bool × Registry :=
  match r.roster.member? d with
  | none => (false, r)
  | some m =>
    (true, r.updateLink m.link fun l => { l with acks := l.acks ++ [ack], acknowledged := true })

/-- Has this member ever acknowledged a pulse? -/
def hasAcknowledged (r : Registry) (d : Descriptor) : Bool :=
  (r.roster.member? d).any fun m => (r.link m.link).acknowledged

/-! ### Stopping -/

/-- The command to stop, sent now. -/
def stopCommand (now : TimeStamp) : Envelope := .ofPayload now (⟨.notRunning⟩ : StateCommand)

/-- The first step of stopping: the roster is emptied. -/
def clear (r : Registry) : Registry := { r with roster := [] }

/-- The last steps of stopping: each of these members is told to stop. -/
def sendStop (now : TimeStamp) (members : Roster) (r : Registry) : Registry :=
  members.foldl (fun r m => (r.send m.link (stopCommand now)).2) r

/-- Every member is told to stop and leaves; how many there were. -/
def stopAll (now : TimeStamp) (r : Registry) : Nat × Registry :=
  (r.roster.length, (r.clear.publishCount 0).sendStop now r.roster)

end Registry

end Cadence
