import Cadence.Control.Command
import Cadence.Duration
import Cadence.Scheduler.Run
import Cadence.Session.Acceptor
import Cadence.Simulation.Probe
import Cadence.Simulation.Settle

/-!
# Sessions on a bench

A bench plays the modules of a supercomponent: it opens connections, sends any bytes on them, and
closes its side of them. On the same registry a scheduler ticks in lock-step. All sessions do what
they can after everything that is done on the bench, and while a tick is under way; the clock moves
only when the tick has to wait.

## Main definitions

* `SessionBench`: the bench
* `SessionBench.connect`, `SessionBench.deliver`, `SessionBench.tick`: what is done on it
* `SessionBench.stopAll`: the end
* `SessionBench.logs`: what each client received
-/

namespace Cadence

/-- Sessions and a scheduler on a bench. -/
structure SessionBench where
  clock : TimeStamp
  now : Nat
  acceptor : Acceptor
  registry : Registry
  scheduler : Scheduler
  /-- The session of each client, if its connection was accepted. -/
  clients : List (Option SessionId)
  /-- What the scheduler has reported since the last report. -/
  events : List SchedulerEvent

namespace SessionBench

/-- A bench on which nobody has connected. -/
def new (clock : TimeStamp) (settings : Settings) (maxModules ackTimeout : Nat) : SessionBench where
  clock
  now := 0
  acceptor := .new settings maxModules
  registry := .empty
  scheduler := .new { level := .pulseTimeAck, ackTimeout, ackYield := 0 } none
  clients := []
  events := []

/-! ### Sessions -/

/-- One move of one session. -/
def moveOne (b : SessionBench) (i : SessionId) (what : SessionMove) : Option SessionBench :=
  (b.acceptor.move b.clock b.scheduler.snapshot b.registry i what).map fun (acceptor, registry) =>
    { b with acceptor, registry }

/-- What sessions do by themselves. -/
def ownMoves : List SessionMove := [.write, .greet, .enroll, .read, .conclude]

/-- A move that some session can make by itself. -/
def moveAny (b : SessionBench) : Option SessionBench :=
  (List.range b.acceptor.sessions.length).findSome? fun i => ownMoves.findSome? (b.moveOne i)

/-- More moves than the sessions can make: each reads or writes something or brings a session
closer to its end. -/
def budget (b : SessionBench) : Nat :=
  let unread := b.acceptor.sessions.foldl (fun count s => count + s.inflow.unread.size) 0
  let queued := (b.registry.links.flatMap (·.outbound)).length
  unread + queued + 8 * b.acceptor.sessions.length

/-- The sessions do all that they can do. -/
def settle (b : SessionBench) : SessionBench := Simulation.settle moveAny b.budget b

/-! ### Clients -/

/-- The session of a client. -/
def session? (b : SessionBench) (client : Nat) : Option Session := do
  let i ← b.clients[client]?.join
  b.acceptor.sessions[i]?

/-- What a client has received. -/
def received (b : SessionBench) (client : Nat) : List Envelope :=
  ((b.session? client).map (·.outflow.written)).getD []

/-- Bytes arrive from a client, and possibly the end of its side. -/
def deliver (b : SessionBench) (client : Nat) (bytes : ByteArray) (ends : Bool) : SessionBench :=
  match b.clients[client]?.join with
  | none => b
  | some i =>
    let b := (b.moveOne i (.arrive bytes)).getD b
    settle (if ends then (b.moveOne i .closeInflow).getD b else b)

/-- A client connects and sends bytes: the first envelope that it gets, if it is not turned away.
Silence is waited out. -/
def connect (n : Network) (b : SessionBench) (bytes : ByteArray) (ends : Bool) :
    Except Unreachable (Option Envelope × SessionBench) := do
  n.probing
  let client := b.clients.length
  let b := match b.acceptor.accept with
    | some (i, acceptor) => { b with acceptor, clients := b.clients ++ [some i] }
    | none => { b with clients := b.clients ++ [none] }
  let b := b.deliver client bytes ends
  let b := match b.clients[client]?.join with
    | some i => ((b.moveOne i .expire).getD b).settle
    | none => b
  return ((b.received client).head?, b)

/-- Has the module of a client left the registry? -/
def isGone (b : SessionBench) (client : Nat) : Bool :=
  match (b.session? client).map Session.stage with
  | some (.serving _ link) => !b.registry.roster.hasLink link
  | _ => true

/-- A connection is lost, says somebody else. -/
def connectionLost (b : SessionBench) (d : Descriptor) : SessionBench :=
  settle { b with registry := b.registry.connectionLost d }

/-! ### Ticks -/

/-- The number of pulses that a client has received. -/
def pulses (b : SessionBench) (client : Nat) : Nat :=
  ((b.received client).filter fun e => e.carries Pulse).length

/-- A tick under way, with the answers that have not been given yet: client, number of pulses
before the tick, bytes. -/
structure Round where
  bench : SessionBench
  replies : List (Nat × Nat × ByteArray)

/-- One move of a round: an answer of a client that has been pulsed, else a small step of the
scheduler, else a move of the clock. -/
def Round.move (r : Round) : Option Round :=
  let b := r.bench
  match r.replies.find? fun (client, before, _) => before < b.pulses client with
  | some (client, _, bytes) =>
    some ⟨b.deliver client bytes false, r.replies.filter (·.1 != client)⟩
  | none =>
    match b.scheduler.advance b.clock b.now ⟨b.registry, .empty⟩ with
    | some (scheduler, x, events) =>
      let b := { b with scheduler, registry := x.registry, events := b.events ++ events }
      some { r with bench := b.settle }
    | none =>
      b.scheduler.wakeTime?.map fun t =>
        { r with bench := { b with now := max b.now (Duration.wholeMillisecond t) } }

/-- One tick, in which clients answer their pulse. -/
def tick (b : SessionBench) (replies : List (Nat × ByteArray)) : SessionBench :=
  let (scheduler, events) := b.scheduler.begin b.clock b.now ⟨b.registry, .empty⟩
  let begun := { b with scheduler, events := b.events ++ events }
  let round : Round := ⟨begun, replies.map fun (client, bytes) => (client, b.pulses client, bytes)⟩
  let bytes := replies.foldl (fun count (_, bytes) => count + bytes.size) 0
  let acks := (b.registry.links.flatMap (·.acks)).length
  (Simulation.settle Round.move (bytes + acks + 8 * (b.registry.roster.length + 1)) round).bench

/-! ### The end -/

/-- Every module is told to stop; how many there were. -/
def stopAll (b : SessionBench) : Nat × SessionBench :=
  let (count, registry) := b.registry.stopAll b.clock
  (count, settle { b with registry })

/-- Have all sessions ended? -/
def isDrained (b : SessionBench) : Bool := b.acceptor.taken == 0

/-- What each client was told behind its settings, or nothing if it was turned away. -/
def logs (b : SessionBench) : List (Option (List Command)) :=
  b.clients.zipIdx.map fun (_, client) =>
    match b.received client with
    | [] => none
    | _ :: rest => some (rest.map Command.ofEnvelope)

/-- What the scheduler has reported since the last report. -/
def report (b : SessionBench) : List SchedulerEvent × SessionBench :=
  (b.events, { b with events := [] })

end SessionBench

end Cadence
