import Cadence.Control.Discover
import Cadence.Network.Address

/-!
# Discovery datagrams

A discovery message is one datagram: a frame around an envelope around the message. A datagram in
which one of these layers is missing or malformed says nothing.

## Main definitions

* `Discovery.port`: where supercomponents are asked
* `Discovery.datagramOf`, `Discovery.messageOf`: messages as datagrams
* `Datagram`: what arrived, and where it came from
-/

namespace Cadence

open Wire

/-- A datagram that has arrived. -/
structure Datagram where
  bytes : ByteArray
  source : IpAddress
  deriving DecidableEq

namespace Discovery

/-- The port on which supercomponents are asked. -/
def port : UInt16 := 19751

/-- The longest payload of a datagram. -/
def maxSize : Nat := 65536

/-- The datagram of a message that is sent now. -/
def datagramOf (now : TimeStamp) (m : DiscoverMessage) : ByteArray :=
  Frame.encode (Message.encode (Envelope.ofPayload now m))

/-- The message in a datagram. -/
def messageOf (bytes : ByteArray) : Except WireError DiscoverMessage := do
  let payload ← Frame.decodeDatagram bytes maxSize
  let e : Envelope ← Message.decode payload
  e.payloadAs DiscoverMessage

end Discovery

end Cadence
