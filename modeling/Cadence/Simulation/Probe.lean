import Cadence.Discovery.Client
import Cadence.Discovery.Responder
import Cadence.Network.Reach

/-!
# Probing discovery

Discovery is probed from the other side: datagrams are sent to a responder, and the requests of a
module that searches are answered by given datagrams. Both sides are on one host, and what they send
takes the way that the network has. A bench whose own datagrams get nowhere gives up.

## Main definitions

* `Unreachable`: why a bench gives up
* `Responder.probe`: what a responder answers
* `Discovery.probe`: how a search goes
-/

namespace Cadence

/-- A bench gave up because it cannot reach what it is to probe. -/
structure Unreachable where
  fault : IoFault
  deriving DecidableEq, Repr

/-- The way from a bench to what it probes. -/
def Network.probing (n : Network) : Except Unreachable Unit :=
  (n.route .loopback).mapError Unreachable.mk

/-- What a responder answers to each of the datagrams. -/
def Responder.probe (n : Network) (now : TimeStamp) (r : Responder) (datagrams : List ByteArray) :
    Except Unreachable (List (Option ByteArray)) :=
  datagrams.mapM fun datagram => do
    n.probing
    return r.answer? now datagram

namespace Discovery

/-- What happens to the attempts of a search over a network, if each request that gets through is
answered by the datagrams that are given for it. -/
def attemptsOver (n : Network) (target : IpAddress) (replies : Nat → List ByteArray) (i : Nat) :
    Attempt :=
  ⟨n.route target, (replies i).map fun bytes => .ok ⟨bytes, .loopback⟩⟩

/-- The search of a module of this name on its own host. -/
def probe (n : Network) (o : DiscoveryOptions) (name : String) (replies : List (List ByteArray)) :
    SearchOutcome :=
  search o name (attemptsOver n .loopback fun i => replies[i]?.getD [])

end Discovery

end Cadence
