import Cadence.Error
import Cadence.Network.Address

/-!
# What a host can reach

Whether anything that a host sends gets onto its way is for the network to tell. A network says for
every addressee whether there is a way, or why there is none. Opening a socket of one's own takes
no way anywhere.

## Main definitions

* `Network`: the ways out of a host
* `Network.connected`, `Network.isolated`: everything is in reach, or nothing
* `Network.portOf`: the port of a socket that was opened
-/

namespace Cadence

/-- The ways out of a host. -/
structure Network where
  /-- Is there a way to this addressee? -/
  route : IpAddress → Except IoFault Unit

namespace Network

/-- Every addressee is in reach. -/
def connected : Network := ⟨fun _ => .ok ()⟩

/-- No addressee is in reach, not even the host itself. -/
def isolated : Network := ⟨fun _ => .error .networkUnreachable⟩

/-- The first of the ports that are given out to whoever asks for any. -/
def firstFreePort : UInt16 := 49152

/-- The port of a socket that was opened with a wish, where zero stands for any port. -/
def portOf (wish : UInt16) : UInt16 := if wish = 0 then firstFreePort else wish

end Network

end Cadence
