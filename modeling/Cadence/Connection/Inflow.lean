import Cadence.Envelope

/-!
# Envelopes from a connection

Bytes arrive on a connection in pieces of any size, until the other side closes it. What has
arrived and has not been read yet is an inflow. Its next envelope is there once its frame is
complete; a bad frame, and a frame that holds no envelope, end the reading as the closed connection
does.

## Main definitions

* `Inflow`: bytes that wait to be read
* `Inflow.next`: the next envelope, the end, or neither yet
* `Inflow.readAll`: every envelope that is there
-/

namespace Cadence

open Wire

/-- Bytes that wait to be read. -/
structure Inflow where
  unread : ByteArray
  /-- Has the other side closed its end? -/
  closed : Bool
  deriving DecidableEq

/-- What reading an inflow comes to. -/
inductive Inflow.Next where
  /-- The rest of the next envelope has not arrived yet. -/
  | waiting
  /-- Nothing can be read any more, because of an error or because the connection is closed. -/
  | ended (error? : Option ConnectionError)
  | envelope (e : Envelope) (rest : Inflow)

namespace Inflow

/-- Nothing has arrived yet. -/
def empty : Inflow := ⟨ByteArray.empty, false⟩

/-- More bytes arrive. -/
def receive (i : Inflow) (bytes : ByteArray) : Inflow := { i with unread := i.unread ++ bytes }

/-- The other side closes its end. -/
def close (i : Inflow) : Inflow := { i with closed := true }

/-- The end of a closed connection. It is clean between two frames, and a single byte there is
overlooked. -/
def ending (i : Inflow) : Option ConnectionError :=
  if i.unread.size < 2 then none else some (.io .unexpectedEof)

/-- The next envelope, stamped as received now. -/
def next (now : TimeStamp) (i : Inflow) : Next :=
  match Frame.decode i.unread Frame.defaultMaxSize with
  | .error error => .ended (some (.wire error))
  | .ok none => if i.closed then .ended i.ending else .waiting
  | .ok (some (payload, used)) =>
    match (Message.decode payload : Except WireError Envelope) with
    | .error error => .ended (some (.wire error))
    | .ok e =>
      .envelope (e.stampReceived now) { i with unread := i.unread.extract used i.unread.size }

/-- At most so many of the envelopes that are there, what is left then, and whether the reading
ended. -/
def readUpTo (now : TimeStamp) : Nat → Inflow → List Envelope × Inflow × Bool
  | 0, i => ([], i, false)
  | more + 1, i =>
    match i.next now with
    | .waiting => ([], i, false)
    | .ended _ => ([], i, true)
    | .envelope e rest =>
      let (es, rest, ended) := readUpTo now more rest
      (e :: es, rest, ended)

/-- Every envelope that is there, what is left then, and whether the reading ended. A frame has
seven bytes or more, so there are fewer envelopes than bytes. -/
def readAll (now : TimeStamp) (i : Inflow) : List Envelope × Inflow × Bool :=
  readUpTo now (i.unread.size + 1) i

end Inflow

end Cadence
