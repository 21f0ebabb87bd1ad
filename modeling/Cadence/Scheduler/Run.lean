import Cadence.Scheduler.Basic
import Cadence.Ticker

/-!
# A running scheduler

A running scheduler ticks once a period until it is told to stop; then every module is told to
stop.

Whether a stop is requested is looked at whenever the scheduler has nothing to do: while it waits
for its next tick and while it waits within a tick. A tick that is waiting when the stop comes is
given up.

A scheduler that is behind finds every wait over as soon as it begins, and the modules would not
get a chance to answer before it has caught up. Where everybody works by turns it therefore has no
more than `turnLength` waits in one turn; a turn also ends with the first wait that is not over at
once. Between two turns whoever else has something to do comes first.

## Main definitions

* `SchedulerRun`: a scheduler that ticks by itself
* `SchedulerRun.proceed`, `SchedulerRun.stop`: its steps
* `SchedulerRun.advance`, `SchedulerRun.newTurn`: its steps by turns
-/

namespace Cadence

/-- A scheduler that ticks by itself. -/
structure SchedulerRun where
  scheduler : Scheduler
  /-- The next tick, while the scheduler is running. -/
  ticker? : Option Ticker
  /-- Has the ticker gone off for a tick that has not begun yet? -/
  called : Bool
  /-- How many more waits the current turn may contain. -/
  left : Nat

namespace SchedulerRun

/-- How many waits a turn may contain. -/
def turnLength : Nat := 128

/-- A scheduler that is not running. -/
def new (scheduler : Scheduler) : SchedulerRun := ⟨scheduler, none, false, turnLength⟩

/-- Begin to run; the first tick is due at once. -/
def start (now : Nat) (r : SchedulerRun) : SchedulerRun :=
  { r with ticker? := some ⟨now, r.scheduler.options.period⟩ }

/-- Is the scheduler running? -/
def isRunning (r : SchedulerRun) : Bool := r.ticker?.isSome

/-- Give up the current tick, stop running, and tell every module to stop. -/
def stop (clock : TimeStamp) (r : SchedulerRun) (x : Exchange) : SchedulerRun × Exchange :=
  (new r.scheduler.finish, { x with registry := (x.registry.stopAll clock).2 })

/-- Does the next small step come after a wait, within a tick or for the ticker? -/
def endsWait (r : SchedulerRun) : Bool :=
  if r.scheduler.isIdle then !r.called else r.scheduler.endsWait

/-- Is the turn over? Then a wait is not begun any more, and neither is a tick. -/
def isTurnOver (r : SchedulerRun) : Bool := r.left == 0 && (r.endsWait || r.called)

/-- Have a new turn, whatever is left of the current one. -/
def newTurn (r : SchedulerRun) : SchedulerRun := { r with left := turnLength }

/-- Has nothing of the turn been used? -/
def isTurnNew (r : SchedulerRun) : Bool := r.left == turnLength

/-- One small step, whether or not the turn is over: of the current tick, or the beginning of a tick
that is called, or the call for the next one when it is due. -/
def proceed (clock : TimeStamp) (now : Nat) (r : SchedulerRun) (x : Exchange) :
    Option (SchedulerRun × Exchange × List SchedulerEvent) :=
  match r.scheduler.advance clock now x with
  | some (scheduler, x, events) => some ({ r with scheduler }, x, events)
  | none =>
    if !r.scheduler.isIdle then none
    else if r.called then
      let (scheduler, events) := r.scheduler.begin clock now x
      some ({ r with scheduler, called := false }, x, events)
    else match r.ticker? with
      | some ticker =>
        if ticker.due ≤ now then
          some ({ r with ticker? := some (ticker.next now), called := true }, x, [])
        else none
      | none => none

/-- One small step, unless the turn is over. -/
def advance (clock : TimeStamp) (now : Nat) (r : SchedulerRun) (x : Exchange) :
    Option (SchedulerRun × Exchange × List SchedulerEvent) :=
  if r.isTurnOver then none
  else (r.proceed clock now x).map fun (next, x, events) =>
    ({ next with left := if r.endsWait then r.left - 1 else r.left }, x, events)

/-- The time at which a run that can do nothing now goes on by itself. -/
def wakeTime? (r : SchedulerRun) : Option Nat :=
  if r.scheduler.isIdle then r.ticker?.map (·.due) else r.scheduler.wakeTime?

end SchedulerRun

end Cadence
