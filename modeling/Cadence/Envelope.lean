import Cadence.TimeStamp
import Cadence.Wire.Stream

/-!
# Envelopes

An envelope is the unit of everything that is exchanged: a tag that says which type of message it
carries, the bytes of that message, and two stamps. The sender stamps it unless a stamp is already
there; every receiver stamps it anew.

## Main definitions

* `DataType`, `Payload`: the tag, and message types that have one
* `Envelope`: a tagged and stamped payload
* `Envelope.ofPayload`, `Envelope.carries`, `Envelope.payloadAs`: packing and unpacking
* `Envelope.readFrom`, `Envelope.writeTo`: envelopes on a byte stream
-/

namespace Cadence

open Wire

/-- The tag of a payload type. -/
abbrev DataType := Int32

/-- A message type that travels in envelopes under a tag of its own. -/
class Payload (α : Type) extends Message α where
  dataType : DataType

/-- The first tag that applications may use. -/
def firstUserDataType : DataType := 1000

/-- A tagged and stamped payload. -/
structure Envelope where
  dataType : DataType
  payload : ByteArray
  sent : TimeStamp
  received : TimeStamp
  deriving DecidableEq

namespace Envelope

/-! ### Stamps -/

/-- Stamp the time of sending, unless it is set. -/
def stampSent (now : TimeStamp) (e : Envelope) : Envelope :=
  if e.sent.isSet then e else { e with sent := now }

/-- Stamp the time of reception. -/
def stampReceived (now : TimeStamp) (e : Envelope) : Envelope := { e with received := now }

/-! ### Packing and unpacking -/

/-- Bytes in an envelope that is sent now. -/
def wrap (now : TimeStamp) (dataType : DataType) (payload : ByteArray) : Envelope :=
  ⟨dataType, payload, now, .unset⟩

/-- A message in an envelope that is sent now. -/
def ofPayload {α : Type} [Payload α] (now : TimeStamp) (a : α) : Envelope :=
  wrap now (Payload.dataType α) (Message.encode a)

/-- Is the payload tagged as an `α`? -/
def carries (α : Type) [Payload α] (e : Envelope) : Bool := e.dataType == Payload.dataType α

/-- The payload as an `α`. The tag is looked at first. -/
def payloadAs (α : Type) [Payload α] (e : Envelope) : Except WireError α :=
  if e.carries α then Message.decode e.payload
  else .error (.dataTypeMismatch (Payload.dataType α) e.dataType)

/-! ### On the wire -/

/-- The field of the tag. -/
def dataTypeField : FieldId := fieldId "datatype"

/-- The field of the payload. -/
def payloadField : FieldId := fieldId "payload"

/-- The field of the time of sending. -/
def sentField : FieldId := fieldId "sent"

/-- The field of the time of reception. -/
def receivedField : FieldId := fieldId "received"

instance : Message Envelope where
  fields e :=
    [.scalar dataTypeField e.dataType, .scalar payloadField e.payload,
     .message sentField e.sent, .message receivedField e.received]
  ofBlock b := do
    let dataType ← b.get dataTypeField
    let payload ← b.getD payloadField ByteArray.empty
    let sent ← b.message? sentField
    let received ← b.message? receivedField
    return ⟨dataType, payload, sent.getD .unset, received.getD .unset⟩

/-- The next envelope of a stream, stamped as received now, or `none` at a clean end. -/
def readFrom (now : TimeStamp) (s : Wire.Stream) :
    Except ConnectionError (Option (Envelope × Wire.Stream)) := do
  match ← s.readFrame Frame.defaultMaxSize with
  | none => return none
  | some (payload, rest) =>
    let e : Envelope ← (Message.decode payload).mapError .wire
    return some (e.stampReceived now, rest)

/-- All envelopes up to the end of the stream, and the error that stopped the reading if it was
not a clean end. -/
def readAllFrom (now : TimeStamp) (s : Wire.Stream) : List Envelope × Option ConnectionError :=
  let (payloads, ending) := s.readFrames Frame.defaultMaxSize
  go payloads ending
where
  /-- Decode payloads until one is no envelope. -/
  go : List ByteArray → Option ConnectionError → List Envelope × Option ConnectionError
    | [], ending => ([], ending)
    | payload :: rest, ending =>
      match (Message.decode payload : Except WireError Envelope) with
      | .error error => ([], some (.wire error))
      | .ok e =>
        let (envelopes, last) := go rest ending
        (e.stampReceived now :: envelopes, last)

/-- Stamp an envelope and append its frame to what has been written. -/
def writeTo (now : TimeStamp) (written : ByteArray) (e : Envelope) :
    Except ConnectionError (Envelope × ByteArray) :=
  let e := e.stampSent now
  (Frame.writeTo written (Message.encode e) Frame.defaultMaxSize).map (e, ·)

end Envelope

end Cadence
