import Cadence.Envelope

/-!
# Envelopes onto a connection

Envelopes are written onto a connection one after the other, each stamped as sent unless it has a
stamp. An envelope that is too large is refused and the connection stays usable; once the other
side takes nothing any more, everything is refused.

## Main definitions

* `Outflow`: what has been written
* `Outflow.send`: one more envelope
* `Outflow.bytes`: what has been written, as the other side receives it
-/

namespace Cadence

open Wire

/-- What has been written onto a connection. -/
structure Outflow where
  /-- The envelopes with their stamps, oldest first. -/
  written : List Envelope
  /-- Can more be written? -/
  writable : Bool
  deriving DecidableEq

namespace Outflow

/-- Nothing has been written yet. -/
def fresh : Outflow := ⟨[], true⟩

/-- Nothing can be written any more. -/
def shut (o : Outflow) : Outflow := { o with writable := false }

/-- Write an envelope now. -/
def send (now : TimeStamp) (o : Outflow) (e : Envelope) : Except ConnectionError Outflow := do
  let (stamped, _) ← e.writeTo now ByteArray.empty
  if o.writable then return { o with written := o.written ++ [stamped] }
  else throw (.io .brokenPipe)

/-- The frames of all that has been written. -/
def bytes (o : Outflow) : ByteArray :=
  o.written.foldl (fun bytes e => bytes ++ Frame.encode (Message.encode e)) ByteArray.empty

end Outflow

end Cadence
