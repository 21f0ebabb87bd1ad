import Cadence.Duration
import Cadence.Scheduler.Run
import Cadence.Simulation.Script
import Cadence.Simulation.Settle

/-!
# A scheduler on a bench

A bench holds a scheduler, the registry and the conference it works on, scripted modules, and a
clock of its own. The clock moves only when nobody can do anything at the present instant, and
then to the next instant at which somebody can. Timers have a resolution of a millisecond: whoever
waits is woken at the first whole millisecond that is not too early.

When the clock moves, deeds that were planned before the scheduler began to wait come first. Then,
at one instant, the scheduler goes on as far as it gets in one turn; what it published and sent is
taken in; the other deeds that are due are done, and so on until nothing is left to do. A scheduler
that had to wait goes on as soon as its wait is over; one that has only used its turn up lets all
others finish first. The listener of the conference has turns of the same length.

## Main definitions

* `Appointment`, `Bench`: the bench and what is planned on it
* `Bench.step`: one small step at the present instant
* `Bench.moveClock`: the clock moves on
* `Bench.runFor`: small steps and moves of the clock, up to a limit
* `Bench.join`, `Bench.tick`, `Bench.wait`: what is done on a bench
* `Bench.Report`, `Bench.report`: what has happened since the last report
-/

namespace Cadence

/-- A deed to come. -/
structure Appointment where
  due : Nat
  /-- When it was planned. -/
  made : Nat
  deed : Deed

/-- A scheduler on a bench. -/
structure Bench where
  /-- What the clock on the wall shows all the time. -/
  clock : TimeStamp
  /-- The time since the bench was set up. -/
  now : Nat
  exchange : Exchange
  run : SchedulerRun
  /-- When the scheduler last did something; since then it has been waiting. -/
  since : Nat
  /-- Has the listener of the conference used its turn up? -/
  sated : Bool
  /-- Is the scheduler asked to stop? -/
  stopping : Bool
  /-- Has whoever could ask it to stop gone away? Then it stops too. -/
  abandoned : Bool
  modules : List ScriptedModule
  /-- What is planned, by the time when it is due. -/
  agenda : List Appointment
  /-- What the scheduler has reported since the last report. -/
  events : List SchedulerEvent
  /-- What has appeared on the conference since the last report. -/
  bus : List Envelope

namespace Bench

/-- Insert an appointment into the agenda behind those that are due no later. -/
def schedule (agenda : List Appointment) (a : Appointment) : List Appointment :=
  agenda.takeWhile (·.due ≤ a.due) ++ a :: agenda.dropWhile (·.due ≤ a.due)

/-- A bench with a scheduler, on a conference if a number is given. -/
def new (clock : TimeStamp) (options : SchedulerOptions) (cid? : Option UInt8) :
    Except InvalidConferenceId Bench := do
  let (voice, hub) ← match cid? with
    | none => pure (none, Hub.empty)
    | some cid => do
      let (voice, hub) ← Hub.empty.join cid
      pure (some voice, hub.listen voice)
  let run : SchedulerRun := .new (.new options voice)
  return ⟨clock, 0, ⟨.empty, hub⟩, run, 0, false, false, false, [], [], [], []⟩

/-! ### Running -/

/-- The module takes in what is queued for it. -/
def serve (b : Bench) (i : Nat) (m : ScriptedModule) : Bench :=
  let (es, registry) := b.exchange.registry.drain m.link
  let (m, deeds) := m.takeAll b.now es
  { b with
    exchange := { b.exchange with registry }
    modules := b.modules.set i m
    agenda := (deeds.map fun (due, deed) => ⟨due, b.now, deed⟩).foldl schedule b.agenda }

/-- Is something queued for this module? -/
def hasMail (b : Bench) (m : ScriptedModule) : Bool :=
  m.alive && !(b.exchange.registry.link m.link).outbound.isEmpty

/-- Is something queued for the listener of the conference? -/
def hasNews (b : Bench) : Bool := b.exchange.hub.participants.any fun p => !p.pending.isEmpty

/-- The listener of the conference takes in what is queued for it, as much as a turn allows. -/
def listen (b : Bench) : Bench :=
  let most := SchedulerRun.turnLength
  let sated := b.exchange.hub.participants.any (most ≤ ·.pending.length)
  let (delivered, hub) := b.exchange.hub.deliverSome b.clock most
  { b with exchange := { b.exchange with hub }, sated, bus := b.bus ++ delivered.flatten }

/-- One small step of the scheduler, who stops first if it is to stop. -/
def stepScheduler (b : Bench) : Option Bench :=
  if (b.stopping || b.abandoned) && b.run.isRunning then
    let (run, exchange) := b.run.stop b.clock b.exchange
    some { b with run, exchange }
  else
    (b.run.advance b.clock b.now b.exchange).map fun (run, exchange, events) =>
      { b with run, exchange, since := b.now, events := b.events ++ events }

/-- Keep these appointments. -/
def keep (b : Bench) (appointments : List Appointment) : Bench :=
  let registry := appointments.foldl (fun r a => a.deed.apply r) b.exchange.registry
  { b with exchange := { b.exchange with registry } }

/-- One small step of somebody else: of the listener, else of a module, else of the agenda. -/
def stepOthers (b : Bench) : Option Bench :=
  if b.hasNews && !b.sated then some b.listen
  else match b.modules.findIdx? b.hasMail with
    | some i => (b.modules[i]?).map (b.serve i)
    | none =>
      match b.agenda.span (·.due ≤ b.now) with
      | ([], _) => none
      | (due, agenda) => some ({ b with agenda }.keep due)

/-- The scheduler has a new turn. -/
def newTurn (b : Bench) : Bench := { b with run := b.run.newTurn }

/-- When all others have finished, whoever has used a turn up has a new one. -/
def newRound? (b : Bench) : Option Bench :=
  if b.sated then some b.listen.newTurn
  else if b.run.isTurnNew then none
  else some b.newTurn

/-- One small step at the present instant: of the scheduler, else of somebody else. The turn of a
scheduler that waits is over at once. -/
def step (b : Bench) : Option Bench :=
  match b.stepScheduler with
  | some next => some next
  | none =>
    if b.run.isTurnNew || b.run.isTurnOver then b.stepOthers.or b.newRound?
    else some b.newTurn

/-- The next instant at which somebody can do something. -/
def nextInstant? (b : Bench) : Option Nat :=
  let deed? := b.agenda.head?.map (·.due)
  let wake? := b.run.wakeTime?.map Duration.wholeMillisecond
  match deed?, wake? with
  | some d, some w => some (min d w)
  | some d, none => some d
  | none, wake => wake

/-- The clock moves on to `t`, unless it is later already. Whoever has waited longer comes first. -/
def moveClock (b : Bench) (t : Nat) : Bench :=
  let now := max b.now t
  let (first, agenda) := b.agenda.partition fun a => a.due ≤ now && a.made < b.since
  { b with now, agenda }.keep first

/-- Small steps, and moves of the clock while `goOn` holds, but no further than `limit`. The number
of steps and moves together is bounded by the first argument. -/
def runFor (goOn : Bench → Bool) (limit : Option Nat) : Nat → Bench → Bench
  | 0, b => b
  | more + 1, b =>
    match b.step with
    | some next => runFor goOn limit more next
    | none =>
      if goOn b then
        match b.nextInstant?, limit with
        | some t, some l => runFor goOn limit more (b.moveClock (min t l))
        | some t, none => runFor goOn limit more (b.moveClock t)
        | none, some l => runFor goOn limit more (b.moveClock l)
        | none, none => b
      else b

/-- More steps than a bench can take in so many ticks and in those that are overdue: every step is
a step of a visit, ends a turn, takes in something that was sent, or does a deed, and each tick
triggers each action at most once. -/
def budget (b : Bench) (ticks : Nat) : Nat :=
  let overdue := Ticker.tolerance / b.run.scheduler.options.period
  let actions := (b.modules.flatMap (·.script.flatten)).length
  let waiting := b.exchange.registry.links.foldl (fun count l => count + l.waiting) 0
  32 * (ticks + overdue + 2) * (b.modules.length + b.agenda.length + actions + waiting + 8)

/-- Everything that can be done at the present instant. -/
def settle (b : Bench) : Bench := b.runFor (fun _ => false) none (b.budget 1)

/-! ### What is done on a bench -/

/-- Change the registry. -/
def onRegistry {α : Type} (b : Bench) (f : Registry → α × Registry) : α × Bench :=
  let (a, registry) := f b.exchange.registry
  (a, settle { b with exchange := { b.exchange with registry } })

/-- A scripted module joins: its slot, or why it has none. Either way it gets a number. -/
def join (b : Bench) (d : Descriptor) (script : List (List ScriptedAction)) (repeats : Bool) :
    Except ConnectionError Nat × Bench :=
  let (link, registry) := b.exchange.registry.openLink
  let (result, registry) := match registry.register d link with
    | .ok (slot, registry) => (.ok slot, registry)
    | .error e => (.error e, registry)
  let m : ScriptedModule := ⟨d, link, script, repeats, 0, true, false, []⟩
  (result, settle
    { b with exchange := { b.exchange with registry }, modules := b.modules ++ [m] })

/-- The receiving end of a module vanishes. -/
def dropReceiver (b : Bench) (i : Nat) : Bench :=
  match b.modules[i]? with
  | none => b
  | some m =>
    let registry := b.exchange.registry.hangUp m.link
    settle { b with
      exchange := { b.exchange with registry }
      modules := b.modules.set i { m with alive := false } }

/-- One tick from beginning to end. -/
def tick (b : Bench) : Bench :=
  let (scheduler, events) := b.run.scheduler.begin b.clock b.now b.exchange
  let run := { b.run with scheduler }
  let begun := { b with run, since := b.now, events := b.events ++ events }
  begun.runFor (fun b => !b.run.scheduler.isIdle) none (begun.budget 1)

/-- Pause for so long. -/
def wait (b : Bench) (asked : Nat) : Bench :=
  let duration := Duration.pause asked
  let limit := b.now + duration
  let ticks := duration / b.run.scheduler.options.period
  b.runFor (fun b => b.now < limit) (some limit) (b.budget ticks + duration / 1000)

/-- The scheduler begins to tick by itself. -/
def start (b : Bench) : Bench := settle { b with run := b.run.start b.now, since := b.now }

/-- Request the scheduler to stop, or take the request back. -/
def requestStop (b : Bench) (stopping : Bool) : Bench := settle { b with stopping }

/-- Nobody can request anything of the scheduler any more. -/
def abandon (b : Bench) : Bench := settle { b with abandoned := true }

/-! ### Reports -/

/-- What has happened since the last report. -/
structure Report where
  events : List SchedulerEvent
  bus : List Envelope
  /-- What each module took in. -/
  inbox : List (List LogEntry)
  members : Roster
  isRunning : Bool

/-- A module sees at last that nobody can send to it any more. -/
def noticeClosed (b : Bench) (m : ScriptedModule) : ScriptedModule :=
  if m.alive && !m.sawClosed &&
      !b.exchange.registry.isHeld b.run.scheduler.snapshot m.link then
    { m with sawClosed := true, log := m.log ++ [.closed] }
  else m

/-- The report, and the bench with empty logs. -/
def report (b : Bench) : Report × Bench :=
  let modules := b.modules.map b.noticeClosed
  (⟨b.events, b.bus, modules.map (·.log), b.exchange.registry.roster, b.run.isRunning⟩,
    { b with events := [], bus := [], modules := modules.map ({ · with log := [] }) })

end Bench

end Cadence
