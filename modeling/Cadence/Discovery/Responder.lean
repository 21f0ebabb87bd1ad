import Cadence.Discovery.Datagram

/-!
# Answering modules that look for their supercomponent

A supercomponent answers every request, and nothing but requests, to whoever sent it. What it tells
depends on whether the module is on the list of exclusions.
-/

namespace Cadence

/-- Who answers for a supercomponent. -/
structure Responder where
  server : ServerInformation
  /-- The names of modules that are not managed. -/
  exclusions : List String
  deriving DecidableEq, Repr

/-- The answer to a datagram, if it is a request. -/
def Responder.answer? (r : Responder) (now : TimeStamp) (datagram : ByteArray) :
    Option ByteArray :=
  match Discovery.messageOf datagram with
  | .ok (.discover name) =>
    some (Discovery.datagramOf now (.response name (r.server.asSeenBy name r.exclusions)))
  | _ => none

end Cadence
