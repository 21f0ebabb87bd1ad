import Cadence.Envelope

/-!
# Pulses and their acknowledgements

A pulse tells a module that a tick has begun and how much simulated time has passed. Under
lock-step the module answers every pulse with the envelopes it produced.

## Main definitions

* `Pulse`: what a tick brings to a module
* `PulseAck`: what a module brings back
-/

namespace Cadence

open Wire

/-- What a tick brings to a module. -/
structure Pulse where
  /-- The number of the tick. -/
  tick : UInt32
  /-- Wall-clock time at the start of the tick. -/
  realTime : TimeStamp
  /-- The length of one tick in microseconds. -/
  nominalSlice : UInt32
  /-- The length of all ticks so far in microseconds. -/
  cumulatedSlice : UInt64
  /-- How long after the start of the tick this pulse is sent, in microseconds. -/
  offset : UInt32
  deriving DecidableEq, Repr

/-- The answer to a pulse. -/
structure PulseAck where
  tick : UInt32
  /-- What the module produced, in order. -/
  envelopes : List Envelope
  deriving DecidableEq

namespace Pulse

/-- The field of the tick, in pulses and in their acknowledgements. -/
def tickField : FieldId := fieldId "tick"

/-- The field of the wall-clock time. -/
def realTimeField : FieldId := fieldId "realtime"

/-- The field of the length of a tick. -/
def nominalField : FieldId := fieldId "nominaltimeslice"

/-- The field of the length of all ticks. -/
def cumulatedField : FieldId := fieldId "cumulatedtimeslice"

/-- The field of the offset. -/
def offsetField : FieldId := fieldId "offset"

instance : Payload Pulse where
  dataType := 4
  fields p :=
    [.scalar tickField p.tick, .message realTimeField p.realTime,
     .scalar nominalField p.nominalSlice, .scalar cumulatedField p.cumulatedSlice,
     .scalar offsetField p.offset]
  ofBlock b := do
    let tick ← b.get tickField
    let realTime ← b.message? realTimeField
    let nominal ← b.getD nominalField 0
    let cumulated ← b.getD cumulatedField 0
    let offset ← b.getD offsetField 0
    return ⟨tick, realTime.getD .unset, nominal, cumulated, offset⟩

end Pulse

namespace PulseAck

/-- The field of the envelopes: one record for each. -/
def envelopeField : FieldId := fieldId "envelope"

instance : Payload PulseAck where
  dataType := 5
  fields a := .scalar Pulse.tickField a.tick :: Field.messages envelopeField a.envelopes
  ofBlock b := do
    let tick ← b.get Pulse.tickField
    let envelopes ← b.messages envelopeField
    return ⟨tick, envelopes⟩

end PulseAck

end Cadence
