import Cadence.Conference
import Cadence.Duration
import Cadence.Registry.Basic
import Cadence.Scheduler.Options

/-!
# The scheduler

A scheduler ticks. In every tick it takes a snapshot of the roster, tells who came and who left
since the tick before, and pulses the members as its level demands:

* at level `none` nobody is pulsed;
* at level `pulse` everybody is pulsed at once;
* at level `pulseShift` the members are pulsed in slot order, each when its offset has passed;
* at level `pulseTimeAck` the members are visited in join order. Acknowledgements that are already
  there are published, the member is pulsed and awaited, what it answers is published, and only
  then comes the next member.

A tick is a sequence of small steps, between which anything may happen to the registry: modules
join and leave, acknowledgements arrive, links break. `Scheduler.advance` is one small step, or
`none` where the scheduler has to wait for an acknowledgement or for a later time;
`Scheduler.wakeTime?` says for which time.

## Main definitions

* `SchedulerEvent`: what a scheduler reports
* `Phase`: how far a tick has got
* `Exchange`: the registry and the conferences that a scheduler works on
* `Scheduler.begin`: the start of a tick
* `Scheduler.advance`, `Scheduler.wakeTime?`: one small step, and how long there is none
* `Scheduler.endsWait`: which small steps come after a wait
-/

namespace Cadence

/-- What a scheduler reports. -/
inductive SchedulerEvent where
  | joined (d : Descriptor)
  | left (d : Descriptor)
  | pulseSent (d : Descriptor) (tick offset : UInt32)
  | ackReceived (d : Descriptor) (tick : UInt32) (envelopes : Nat)
  | ackTimeout (d : Descriptor) (tick : UInt32)
  /-- The envelopes of an acknowledgement went out on the conference; `tick` is the tick of the
  acknowledgement. -/
  | published (d : Descriptor) (tick : UInt32) (envelopes : Nat)
  deriving DecidableEq, Repr

/-- How far a tick has got. `rest` are the members that are still to come. -/
inductive Phase where
  /-- Between two ticks. -/
  | idle
  /-- Everybody is pulsed at once. -/
  | pulsing (pulse : Pulse) (rest : Roster)
  /-- Everybody is pulsed at an offset from `base`. -/
  | shifting (pulse : Pulse) (base : Nat) (rest : Roster)
  /-- In lock-step, before the next member. -/
  | visiting (pulse : Pulse) (rest : Roster)
  /-- The acknowledgements of a member that are already there are published. -/
  | draining (pulse : Pulse) (m : Member) (rest : Roster)
  /-- A member is about to be pulsed. -/
  | sending (pulse : Pulse) (m : Member) (rest : Roster)
  /-- A member has been pulsed and is awaited. -/
  | awaiting (pulse : Pulse) (m : Member) (deadline : Nat) (rest : Roster)
  /-- A member has answered, and the others get a moment to take its envelopes in. -/
  | yielding (pulse : Pulse) (resumeAt : Nat) (rest : Roster)

/-- The registry and the conferences that a scheduler works on. -/
structure Exchange where
  registry : Registry
  hub : Hub

instance : Inhabited Exchange := ⟨⟨.empty, .empty⟩⟩

/-- A scheduler. -/
structure Scheduler where
  options : SchedulerOptions
  /-- The participant that publishes what modules acknowledge with, if there is a conference. -/
  voice : Option ParticipantId
  /-- The number of the last tick. -/
  tick : UInt32
  /-- The length of all ticks so far. -/
  cumulated : UInt64
  /-- Who was there in the last tick. -/
  known : List Descriptor
  /-- The members that the current tick knows; between two ticks there are none. -/
  snapshot : Roster
  phase : Phase

namespace Scheduler

/-- A scheduler that has not ticked yet. -/
def new (options : SchedulerOptions) (voice : Option ParticipantId) : Scheduler :=
  ⟨options, voice, 0, 0, [], [], .idle⟩

/-! ### The start of a tick -/

/-- Who left and who came, given who was and who is there. -/
def membershipEvents (before after : List Descriptor) : List SchedulerEvent :=
  (before.filter fun d => !after.any d.same).map .left ++
    (after.filter fun d => !before.any d.same).map .joined

/-- The members in slot order. -/
def bySlot (members : Roster) : Roster := members.mergeSort fun m n => m.slot ≤ n.slot

/-- Where a tick begins. -/
def firstPhase (options : SchedulerOptions) (now : Nat) (pulse : Pulse) (members : Roster) :
    Phase :=
  match options.level with
  | .none => .idle
  | .pulse => .pulsing pulse members
  | .pulseShift => .shifting pulse now (bySlot members)
  | .pulseTimeAck => .visiting pulse members

/-- The end of a tick: its snapshot is given up. -/
def finish (s : Scheduler) : Scheduler := { s with snapshot := [], phase := .idle }

/-- Begin a tick at the time `now`, which the clock on the wall shows as `clock`. -/
def begin (clock : TimeStamp) (now : Nat) (s : Scheduler) (x : Exchange) :
    Scheduler × List SchedulerEvent :=
  let tick := s.tick + 1
  let cumulated := s.cumulated + s.options.slice.toUInt64
  let members := x.registry.roster
  let present := members.map (·.descriptor)
  let pulse : Pulse := ⟨tick, clock, s.options.slice, cumulated, 0⟩
  let phase := firstPhase s.options now pulse members
  let snapshot := if s.options.level.isPulsed then members else []
  ({ s with tick, cumulated, known := present, snapshot, phase },
    membershipEvents s.known present)

/-! ### One small step -/

/-- Queue a pulse for a member; if its end of the link is gone, nothing happens. -/
def sendPulse (clock : TimeStamp) (m : Member) (pulse : Pulse) (x : Exchange) :
    Bool × Exchange × List SchedulerEvent :=
  let (sent, registry) := x.registry.send m.link (.ofPayload clock pulse)
  let events := if sent then [.pulseSent m.descriptor pulse.tick pulse.offset] else []
  (sent, { x with registry }, events)

/-- Publish the envelopes of an acknowledgement on the conference. Envelopes that do not fit are
left out there, and counted here. They all go out in this one step and at one reading of the clock:
that other participants publish something between two of them is not represented. -/
def publish (clock : TimeStamp) (voice : Option ParticipantId) (m : Member) (ack : PulseAck)
    (x : Exchange) : Exchange × List SchedulerEvent :=
  let hub := match voice with
    | some i => x.hub.publishAll clock i ack.envelopes
    | none => x.hub
  ({ x with hub }, [.published m.descriptor ack.tick ack.envelopes.length])

/-- The next step of the awaited member's visit, given an acknowledgement of it. -/
def receive (clock : TimeStamp) (now : Nat) (s : Scheduler) (pulse : Pulse) (m : Member)
    (deadline : Nat) (rest : Roster) (ack : PulseAck) (x : Exchange) :
    Scheduler × Exchange × List SchedulerEvent :=
  let (x, events) := publish clock s.voice m ack x
  if ack.tick = pulse.tick then
    let resumeAt := now + Duration.pause s.options.ackYield
    ({ s with phase := .yielding pulse resumeAt rest }, x,
      .ackReceived m.descriptor ack.tick ack.envelopes.length :: events)
  else ({ s with phase := .awaiting pulse m deadline rest }, x, events)

/-- One small step of the current tick, or `none` if there is none to do now. -/
def advance (clock : TimeStamp) (now : Nat) (s : Scheduler) (x : Exchange) :
    Option (Scheduler × Exchange × List SchedulerEvent) :=
  match s.phase with
  | .idle => none
  | .pulsing _ [] | .shifting _ _ [] | .visiting _ [] => some (s.finish, x, [])
  | .pulsing pulse (m :: rest) =>
    let (_, x, events) := sendPulse clock m pulse x
    some ({ s with phase := .pulsing pulse rest }, x, events)
  | .shifting pulse base (m :: rest) =>
    let offset := s.options.offsetOf m.slot
    if base + offset.toNat ≤ now then
      let (_, x, events) := sendPulse clock m { pulse with realTime := clock, offset } x
      some ({ s with phase := .shifting pulse base rest }, x, events)
    else none
  | .visiting pulse (m :: rest) => some ({ s with phase := .draining pulse m rest }, x, [])
  | .draining pulse m rest =>
    match x.registry.takeAck? m.link with
    | some (ack, registry) =>
      let (x, events) := publish clock s.voice m ack { x with registry }
      some (s, x, events)
    | none => some ({ s with phase := .sending pulse m rest }, x, [])
  | .sending pulse m rest =>
    let (sent, x, events) := sendPulse clock m pulse x
    let phase := if sent then .awaiting pulse m (now + s.options.ackTimeout) rest
      else .visiting pulse rest
    some ({ s with phase }, x, events)
  | .awaiting pulse m deadline rest =>
    match x.registry.takeAck? m.link with
    | some (ack, registry) =>
      some (receive clock now s pulse m deadline rest ack { x with registry })
    | none =>
      let passOn := { s with phase := .visiting pulse rest }
      if !x.registry.roster.hasLink m.link then some (passOn, x, [])
      else if deadline ≤ now then some (passOn, x, [.ackTimeout m.descriptor pulse.tick])
      else none
  | .yielding pulse resumeAt rest =>
    if resumeAt ≤ now then some ({ s with phase := .visiting pulse rest }, x, []) else none

/-- The time at which a scheduler that can do nothing now goes on by itself. -/
def wakeTime? (s : Scheduler) : Option Nat :=
  match s.phase with
  | .shifting _ base (m :: _) => some (base + (s.options.offsetOf m.slot).toNat)
  | .awaiting _ _ deadline _ => some deadline
  | .yielding _ resumeAt _ => some resumeAt
  | _ => none

/-- Does the next small step come after a wait? There is one for every offset, before every visit,
for every answer and at the end of every visit, even if it is over as soon as it begins. -/
def endsWait (s : Scheduler) : Bool :=
  match s.phase with
  | .shifting _ _ (_ :: _) | .visiting _ (_ :: _) | .awaiting .. | .yielding .. => true
  | _ => false

/-- Is the scheduler between two ticks? -/
def isIdle (s : Scheduler) : Bool :=
  match s.phase with
  | .idle => true
  | _ => false

end Scheduler

end Cadence
