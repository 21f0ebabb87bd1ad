import Cadence.Session.Basic

/-!
# Accepting connections

An acceptor turns connections into sessions, as long as there is a place: it has a number of places,
at least one, and every session that has not ended takes one. All sessions share one registry, and
they and the scheduler move in any order, one move at a time.

An acceptor that is told to stop takes no more connections. It waits some time for its sessions to
end and then gives up those that are left.

## Main definitions

* `Acceptor`: the sessions of a supercomponent
* `Acceptor.accept`: a new connection
* `SessionMove`, `Acceptor.move`: one move of one session
-/

namespace Cadence

/-- The number of a session. -/
abbrev SessionId := Nat

/-- The sessions of a supercomponent. -/
structure Acceptor where
  /-- What modules are sent the parts of that concern them. -/
  settings : Settings
  /-- How many sessions there may be at a time; none is taken for one. -/
  maxModules : Nat
  /-- All sessions that ever were, by number. -/
  sessions : List Session
  /-- Are connections still accepted? -/
  accepting : Bool

/-- What one session does, or what happens to its connection. -/
inductive SessionMove where
  /-- Bytes arrive from the module. -/
  | arrive (bytes : ByteArray)
  /-- The module closes its end. -/
  | closeInflow
  /-- The module takes nothing any more. -/
  | breakOutflow
  | greet
  | expire
  | enroll
  | read
  | write
  | conclude
  | giveUpWriting
  | abort

namespace Acceptor

/-- How long a stopped acceptor waits for its sessions. -/
def drainTimeout : Nat := 2000000

/-- An acceptor without sessions. -/
def new (settings : Settings) (maxModules : Nat) : Acceptor := ⟨settings, maxModules, [], true⟩

/-- The number of places. -/
def places (a : Acceptor) : Nat := max 1 a.maxModules

/-- The number of places that are taken. -/
def taken (a : Acceptor) : Nat := a.sessions.countP (·.isLive)

/-- Accept a connection if there is a place for it. -/
def accept (a : Acceptor) : Option (SessionId × Acceptor) :=
  if a.accepting && a.taken < a.places then
    some (a.sessions.length, { a with sessions := a.sessions ++ [.start] })
  else none

/-- Take no more connections. -/
def stop (a : Acceptor) : Acceptor := { a with accepting := false }

/-- One move of a session, or `none` if it cannot be made. Connections stay as they are when a
session has ended. -/
def moveSession (clock : TimeStamp) (settings : Settings) (snapshot : Roster) (r : Registry)
    (s : Session) : SessionMove → Option (Session × Registry)
  | .arrive bytes => some ({ s with inflow := s.inflow.receive bytes }, r)
  | .closeInflow => some ({ s with inflow := s.inflow.close }, r)
  | .breakOutflow => some ({ s with outflow := s.outflow.shut }, r)
  | .greet => (s.greet clock settings r).map (·, r)
  | .expire => s.expire.map (·, r)
  | .enroll => s.enroll r
  | .read => s.read clock r
  | .write => s.write clock snapshot r
  | .conclude => s.conclude r
  | .giveUpWriting => s.giveUpWriting r
  | .abort => s.abort.map (·, r)

/-- One move of the session with this number. A session is given up only when no connections are
accepted any more. -/
def move (clock : TimeStamp) (snapshot : Roster) (r : Registry) (a : Acceptor) (i : SessionId)
    (what : SessionMove) : Option (Acceptor × Registry) := do
  let s ← a.sessions[i]?
  if a.accepting && what matches .abort then none
  let (s, r) ← moveSession clock a.settings snapshot r s what
  return ({ a with sessions := a.sessions.set i s }, r)

end Acceptor

end Cadence
