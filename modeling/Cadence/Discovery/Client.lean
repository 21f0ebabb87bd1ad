import Cadence.Discovery.Datagram
import Cadence.Error

/-!
# Looking for a supercomponent

A module asks for its supercomponent: it sends a request, waits for some time, and asks again if no
answer came, up to a number of attempts. It takes the first answer to its own name and does not
heed anything else. An answer without an address means the address that it came from.

A search is a function of what happens to it: of each attempt one knows whether its request could
be sent, and what arrives while the module waits. A search that cannot send or receive ends there,
and stays in the state in which it was.

## Main definitions

* `DiscoveryOptions`: whom to ask, how often and how long to wait
* `DiscoveryState`: how far a search has got
* `Attempt`: what happens to one attempt
* `Discovery.acceptable?`: the answer in a datagram
* `Discovery.search`: the whole search
-/

namespace Cadence

/-- How a module looks for its supercomponent. -/
structure DiscoveryOptions where
  target : SocketAddress := ⟨.broadcast, Discovery.port, 0⟩
  attempts : UInt32 := 5
  /-- How long an attempt waits for an answer. -/
  timeout : Nat := 1000000
  deriving DecidableEq, Repr

/-- Make a number of attempts, at least one. -/
def DiscoveryOptions.withAttempts (o : DiscoveryOptions) (attempts : UInt32) : DiscoveryOptions :=
  { o with attempts := if attempts < 1 then 1 else attempts }

/-- How far a search has got. -/
inductive DiscoveryState where
  | idle
  /-- The request of this attempt is out, or was about to be sent. -/
  | awaiting (attempt : UInt32)
  | discovered
  | gaveUp
  deriving DecidableEq, Repr

/-- What happens to one attempt. -/
structure Attempt where
  /-- Could the request be sent? -/
  sent : Except IoFault Unit
  /-- What arrives, in order, until the time is up. -/
  arrivals : List (Except IoFault Datagram)

/-- How a search ended. -/
structure SearchOutcome where
  state : DiscoveryState
  /-- How many requests were sent. -/
  requests : Nat
  result : Except DiscoveryError ServerInformation

namespace Discovery

/-- The request of a module. -/
def request (now : TimeStamp) (name : String) : ByteArray := datagramOf now (.discover name)

/-- What an answer tells, given where it came from. -/
def located (source : IpAddress) (server : ServerInformation) : ServerInformation :=
  if server.address = "" then { server with address := source.text } else server

/-- What a datagram tells the module of this name, if it is an answer to it. -/
def acceptable? (name : String) (d : Datagram) : Option ServerInformation :=
  match messageOf d.bytes with
  | .ok (.response answered server) =>
    if answered = name then some (located d.source server) else none
  | _ => none

/-- The first answer among the arrivals, or `none` when the time is up. -/
def firstAnswer (name : String) :
    List (Except IoFault Datagram) → Except IoFault (Option ServerInformation)
  | [] => .ok none
  | .error fault :: _ => .error fault
  | .ok d :: rest =>
    match acceptable? name d with
    | some server => .ok (some server)
    | none => firstAnswer name rest

/-- The attempts behind the first `made` ones, of which so many are left. All of them sent their
request. -/
def searchFrom (name : String) (total : UInt32) (attempts : Nat → Attempt) (made : Nat) :
    Nat → SearchOutcome
  | 0 => ⟨.gaveUp, made, .error (.timeout total)⟩
  | left + 1 =>
    let attempt := attempts made
    let state := .awaiting (UInt32.ofNat (made + 1))
    match attempt.sent with
    | .error fault => ⟨state, made, .error (.io fault)⟩
    | .ok () =>
      match firstAnswer name attempt.arrivals with
      | .error fault => ⟨state, made + 1, .error (.io fault)⟩
      | .ok (some server) => ⟨.discovered, made + 1, .ok server⟩
      | .ok none => searchFrom name total attempts (made + 1) left

/-- The search of a module of this name, given what happens to each attempt, counted from zero. -/
def search (o : DiscoveryOptions) (name : String) (attempts : Nat → Attempt) : SearchOutcome :=
  searchFrom name o.attempts attempts 0 o.attempts.toNat

end Discovery

end Cadence
