import Cadence.Control.Discover
import Cadence.Control.Lifecycle
import Cadence.Control.Pulse
import Cadence.Descriptor
import Cadence.Proofs.FieldBlocks

/-!
# Messages come back from the wire

What is read from the bytes of a message is the message itself, with every field of it. There is one
condition, and it is necessary: each record has to fit its length field, which has 32 bits. Numbers,
codes, time stamps and pulses fit anyway. For a text or a payload this is a bound on its size, and
for a message inside another one it is a bound on its bytes: the information on a server takes 29
bytes beside the address, an envelope 84 beside the payload.

That a message comes back takes three things: its records fit, so that the block comes back; the
identifiers of its fields differ, though they are mere checksums of names; and each value comes back
from its record. The condition is necessary since texts and payloads are read from records that fit.
A nested message without room is read cut, and no message is read from so much less than its bytes.

## Main definitions

* `LawfulScalar`, `PlainScalar`: values that come back from a record
* `DiscoverMessage.Small`: what of a discovery message can be too large
* `Envelope.Delivers`: messages of a type come back from envelopes, as this type only

## Main results

* `Block.size_of_get`, `Block.size_of_getD`: what is read was small enough
* `Record.fits_of_decode`: a nested message that comes back had room
* `Envelope.decode_encode_iff`, `Descriptor.decode_encode_iff`, `DiscoverMessage.decode_encode_iff`,
  `PulseAck.decode_encode_iff`: when the larger messages come back
* `Wire.every_message_comes_back`: all messages
-/

namespace Cadence

namespace Wire

variable {ε α β : Type} {b front back : Block} {r : Record} {id : FieldId} {buffer : ByteArray}

theorem bind_eq_ok_iff {x : Except ε α} {f : α → Except ε β} {y : β} :
    x >>= f = .ok y ↔ ∃ a, x = .ok a ∧ f a = .ok y := by
  cases x with
  | error e => simp [bind, Except.bind]
  | ok a => simp [bind, Except.bind]

/-- A list is read if each of its elements is. -/
theorem mapM_eq_ok_iff {f : α → Except ε β} {as : List α} {bs : List β} :
    as.mapM f = .ok bs ↔ as.map f = bs.map .ok := by
  induction as generalizing bs with
  | nil => cases bs <;> simp [pure, Except.pure]
  | cons a as ih =>
    simp only [List.mapM_cons, bind_eq_ok_iff, ih, pure, Except.pure, Except.ok.injEq]
    cases bs with
    | nil => simp
    | cons b bs => simp [eq_comm, and_comm]

/-! ### Values of one record -/

/-- A type whose values come back from a record. -/
class LawfulScalar (α : Type) [Scalar α] : Prop where
  ofBytes_bytes (id : FieldId) (a : α) : Scalar.ofBytes id (Scalar.bytes a) = .ok a

/-- A type whose values are read from their own bytes only. -/
class PlainScalar (α : Type) [Scalar α] : Prop extends LawfulScalar α where
  bytes_of_ofBytes {id : FieldId} {bytes : ByteArray} {a : α} :
    Scalar.ofBytes id bytes = .ok a → Scalar.bytes a = bytes

theorem Scalar.ofWidth_eq_ok {width : Nat} {read? : ByteArray → Option α} {a : α}
    (hsize : buffer.size = width) (hread : read? buffer = some a) :
    ofWidth width read? id buffer = .ok a := by
  simp only [ofWidth, if_pos hsize, hread]

instance : LawfulScalar UInt8 := ⟨fun _ _ => Scalar.ofWidth_eq_ok rfl rfl⟩

instance : LawfulScalar UInt32 := ⟨fun _ w => Scalar.ofWidth_eq_ok rfl (Word.read32?_bytes32 w)⟩

instance : LawfulScalar Int32 where
  ofBytes_bytes _ i := Scalar.ofWidth_eq_ok rfl <|
    (congrArg (Option.map UInt32.toInt32) (Word.read32?_bytes32 i.toUInt32)).trans
      (congrArg some (Int32.toInt32_toUInt32 i))

instance : LawfulScalar UInt64 := ⟨fun _ w => Scalar.ofWidth_eq_ok rfl (Word.read64?_bytes64 w)⟩

instance : PlainScalar ByteArray where
  ofBytes_bytes _ _ := rfl
  bytes_of_ofBytes h := (Except.ok.inj h).symm

theorem fromUTF8?_toUTF8 (s : String) : String.fromUTF8? s.toUTF8 = some s :=
  dif_pos s.isValidUTF8

/-- Only the bytes of a text spell it. -/
theorem toUTF8_of_fromUTF8? {s : String} (h : String.fromUTF8? buffer = some s) :
    s.toUTF8 = buffer := by
  rw [String.fromUTF8?] at h
  split at h
  · cases h
    rfl
  · cases h

instance : PlainScalar String where
  ofBytes_bytes _ s := by simp only [Scalar.ofBytes, Scalar.bytes, fromUTF8?_toUTF8]
  bytes_of_ofBytes {id bytes s} h := by
    simp only [Scalar.ofBytes] at h
    split at h
    · next text htext =>
      obtain rfl := Except.ok.inj h
      exact toUTF8_of_fromUTF8? htext
    · cases h

/-! The sizes of values. -/

@[simp] theorem size_bytes_uint8 (b : UInt8) : (Scalar.bytes b).size = 1 := rfl

@[simp] theorem size_bytes_uint32 (w : UInt32) : (Scalar.bytes w).size = 4 := rfl

@[simp] theorem size_bytes_int32 (i : Int32) : (Scalar.bytes i).size = 4 := rfl

@[simp] theorem size_bytes_uint64 (w : UInt64) : (Scalar.bytes w).size = 8 := rfl

@[simp] theorem size_bytes_string (s : String) : (Scalar.bytes s).size = s.utf8ByteSize := rfl

@[simp] theorem size_bytes_byteArray (b : ByteArray) : (Scalar.bytes b).size = b.size := rfl

/-! ### Looking up what was written -/

theorem record_scalar [Scalar α] (a : α) : (Field.scalar id a).record = ⟨id, Scalar.bytes a⟩ := rfl

/-- The record of a nested message holds its bytes. -/
theorem record_message [Message α] (a : α) :
    (Field.message id a).record = ⟨id, Message.encode a⟩ := by
  rw [Message.encode, Field.writeBlock_eq, ByteArray.empty_append, Field.message, Field.record]

namespace Block

theorem first?_nil : first? [] id = none := rfl

theorem first?_cons : first? (r :: b) id = if r.id = id then some r.value else first? b id := by
  by_cases h : r.id = id <;> simp [first?, h]

theorem mem_of_first? {bytes : ByteArray} (h : b.first? id = some bytes) :
    ∃ r ∈ b, r.value = bytes := by
  obtain ⟨r, hr, hvalue⟩ := Option.map_eq_some_iff.mp h
  exact ⟨r, List.mem_of_find?_eq_some hr, hvalue⟩

/-- A text or a byte string that is read was small enough for its record, and for the bytes that it
is read from. -/
theorem size_of_get [Scalar α] [PlainScalar α] {a : α} (hb : parse buffer = .ok b)
    (h : b.get id = .ok a) :
    (Scalar.bytes a).size < 2 ^ 32 ∧ (Scalar.bytes a).size ≤ buffer.size := by
  rw [get] at h
  split at h
  · next bytes hfirst =>
    obtain ⟨r, hr, rfl⟩ := mem_of_first? hfirst
    rw [PlainScalar.bytes_of_ofBytes h]
    exact size_of_mem_parseFrom hb hr
  · cases h

theorem size_of_getD [Scalar α] [PlainScalar α] {a default : α} (hb : parse buffer = .ok b)
    (hdefault : (Scalar.bytes default).size = 0) (h : b.getD id default = .ok a) :
    (Scalar.bytes a).size < 2 ^ 32 ∧ (Scalar.bytes a).size ≤ buffer.size := by
  rw [getD] at h
  split at h
  · next bytes hfirst => exact size_of_get hb (by rw [get, hfirst]; exact h)
  · obtain rfl := Except.ok.inj h
    omega

end Block

/-! ### Nested messages -/

/-- A nested message that comes back had room. It is enough to know that no message is read from
much less than its own bytes: what can be absent, and what has a fixed size, is the slack. -/
theorem Record.fits_of_decode [Message α] {a : α} (slack : Nat) (hr : r.value = Message.encode a)
    (hdecode : Message.decode r.onWire.value = .ok a) (hlt : slack < 2 ^ 32)
    (hslack : ∀ {buffer}, Message.decode buffer = .ok a →
      (Message.encode a).size ≤ buffer.size + slack) : r.Fits := by
  have hle := hslack hdecode
  rw [size_onWire, hr] at hle
  rw [Fits, hr]
  omega

end Wire

open Wire

/-! ### Time stamps -/

namespace TimeStamp

theorem fields_ne : secondsField ≠ microsecondsField := by decide +kernel

theorem records_eq (t : TimeStamp) : Message.records t =
    [⟨secondsField, Scalar.bytes t.seconds⟩, ⟨microsecondsField, Scalar.bytes t.microseconds⟩] :=
  rfl

theorem size_encode (t : TimeStamp) : (Message.encode t).size = 24 := by
  rw [Message.encode_eq, records_eq]
  rfl

theorem ofBlock_records (t : TimeStamp) : Message.ofBlock (Message.records t) = .ok t := by
  simp only [Message.ofBlock, records_eq, Block.getD, Block.first?_cons, fields_ne, if_true,
    if_false, LawfulScalar.ofBytes_bytes]
  rfl

theorem decode_encode (t : TimeStamp) : Message.decode (Message.encode t) = .ok t := by
  have hsize : (Message.encode t).size < 2 ^ 32 := by simp [size_encode]
  rw [Message.decode_encode_of_fits (Message.fits_of_size_lt hsize), ofBlock_records]

end TimeStamp

/-! ### Envelopes -/

namespace Envelope

theorem fields_nodup : [dataTypeField, payloadField, sentField, receivedField].Nodup := by
  decide +kernel

theorem records_eq (e : Envelope) : Message.records e =
    [⟨dataTypeField, Scalar.bytes e.dataType⟩, ⟨payloadField, Scalar.bytes e.payload⟩,
      ⟨sentField, Message.encode e.sent⟩, ⟨receivedField, Message.encode e.received⟩] := by
  simp only [← record_message]
  rfl

theorem size_encode (e : Envelope) : (Message.encode e).size = e.payload.size + 84 := by
  rw [Message.encode_eq, records_eq]
  simp only [Block.bytes_cons, Block.bytes_nil, ByteArray.size_append, Record.size_bytes,
    TimeStamp.size_encode, ByteArray.size_empty, headerSize, size_bytes_int32, size_bytes_byteArray]
  omega

theorem fits_iff (e : Envelope) : Message.Fits e ↔ e.payload.size < 2 ^ 32 := by
  simp [Message.Fits, records_eq, Record.Fits, TimeStamp.size_encode]

theorem ofBlock_records (e : Envelope) : Message.ofBlock (Message.records e) = .ok e := by
  have distinct := fields_nodup
  simp only [List.nodup_cons, List.mem_cons, not_or] at distinct
  simp only [Message.ofBlock, records_eq, Block.get, Block.getD, Block.message?, Block.first?_cons,
    distinct, if_true, if_false, LawfulScalar.ofBytes_bytes, TimeStamp.decode_encode]
  rfl

/-- The payload of an envelope that is read was small enough. -/
theorem size_payload_of_decode {buffer : ByteArray} {e : Envelope}
    (h : Message.decode buffer = .ok e) :
    e.payload.size < 2 ^ 32 ∧ e.payload.size ≤ buffer.size := by
  obtain ⟨b, hb, h⟩ := bind_eq_ok_iff.mp h
  simp only [Message.ofBlock, bind_eq_ok_iff, pure, Except.pure, Except.ok.injEq] at h
  obtain ⟨-, -, payload, hpayload, -, -, -, -, rfl⟩ := h
  exact Block.size_of_getD (a := payload) hb rfl hpayload

/-- **An envelope comes back if and only if its payload has fewer than 2³² bytes.** -/
theorem decode_encode_iff (e : Envelope) :
    Message.decode (Message.encode e) = .ok e ↔ e.payload.size < 2 ^ 32 := by
  refine ⟨fun h => (size_payload_of_decode h).1, fun h => ?_⟩
  rw [Message.decode_encode_of_fits ((fits_iff e).mpr h), ofBlock_records]

end Envelope

/-! ### Information on servers -/

namespace ServerInformation

theorem fields_nodup : [addressField, portField, levelField].Nodup := by decide +kernel

theorem records_eq (s : ServerInformation) : Message.records s =
    [⟨addressField, Scalar.bytes s.address⟩, ⟨portField, Scalar.bytes s.port.toUInt32⟩,
      ⟨levelField, Scalar.bytes s.level.code⟩] :=
  rfl

theorem size_encode (s : ServerInformation) :
    (Message.encode s).size = s.address.utf8ByteSize + 29 := by
  rw [Message.encode_eq, records_eq]
  simp only [Block.bytes_cons, Block.bytes_nil, ByteArray.size_append, Record.size_bytes,
    ByteArray.size_empty, headerSize, size_bytes_string, size_bytes_uint32, size_bytes_uint8]
  omega

theorem fits_iff (s : ServerInformation) : Message.Fits s ↔ s.address.utf8ByteSize < 2 ^ 32 := by
  simp [Message.Fits, records_eq, Record.Fits]

theorem portOfWord_toUInt32 (port : UInt16) : portOfWord port.toUInt32 = .ok port := by
  have hlt : port.toUInt32.toNat < UInt16.size := by
    rw [UInt16.toNat_toUInt32]
    exact port.toNat_lt
  rw [portOfWord, if_pos hlt, UInt16.toUInt16_toUInt32]

theorem ofBlock_records (s : ServerInformation) : Message.ofBlock (Message.records s) = .ok s := by
  have distinct := fields_nodup
  simp only [List.nodup_cons, List.mem_cons, not_or] at distinct
  simp only [Message.ofBlock, records_eq, Block.get, Block.getD, Block.first?_cons, distinct,
    if_true, if_false, LawfulScalar.ofBytes_bytes, bind, Except.bind, portOfWord_toUInt32,
    ManagedLevel.ofCode_code]
  rfl

/-- The address of a server that is read was small enough. -/
theorem size_address_of_decode {buffer : ByteArray} {s : ServerInformation}
    (h : Message.decode buffer = .ok s) :
    s.address.utf8ByteSize < 2 ^ 32 ∧ s.address.utf8ByteSize ≤ buffer.size := by
  obtain ⟨b, hb, h⟩ := bind_eq_ok_iff.mp h
  simp only [Message.ofBlock, bind_eq_ok_iff, pure, Except.pure, Except.ok.injEq] at h
  obtain ⟨-, -, -, -, address, haddress, -, -, -, -, rfl⟩ := h
  exact Block.size_of_getD (a := address) hb rfl haddress

theorem decode_encode_iff (s : ServerInformation) :
    Message.decode (Message.encode s) = .ok s ↔ s.address.utf8ByteSize < 2 ^ 32 := by
  refine ⟨fun h => (size_address_of_decode h).1, fun h => ?_⟩
  rw [Message.decode_encode_of_fits ((fits_iff s).mpr h), ofBlock_records]

end ServerInformation

/-! ### Descriptors -/

namespace Descriptor

theorem fields_nodup : [nameField, instanceField, versionField].Nodup := by decide +kernel

theorem records_eq (d : Descriptor) : Message.records d =
    ⟨nameField, Scalar.bytes d.name⟩ ::
      ((d.instance?.map fun n => ⟨instanceField, Scalar.bytes n⟩).toList ++
        [⟨versionField, Scalar.bytes d.version⟩]) := by
  cases d with
  | mk name number version => cases number <;> rfl

theorem fits_iff (d : Descriptor) :
    Message.Fits d ↔ d.name.utf8ByteSize < 2 ^ 32 ∧ d.version.utf8ByteSize < 2 ^ 32 := by
  cases d with
  | mk name number version => cases number <;> simp [Message.Fits, records_eq, Record.Fits]

theorem ofBlock_records (d : Descriptor) : Message.ofBlock (Message.records d) = .ok d := by
  have distinct := fields_nodup
  simp only [List.nodup_cons, List.mem_cons, not_or] at distinct
  cases d with
  | mk name number version =>
    cases number with
    | none =>
      -- The number is looked for behind the name, where only the version is.
      have hversion : versionField ≠ instanceField := Ne.symm distinct.2.1.1
      simp only [Message.ofBlock, records_eq, Option.map_none, Option.toList_none, List.nil_append,
        Block.get, Block.getD, Block.get?, Block.first?_cons, Block.first?_nil, distinct, hversion,
        if_true, if_false, LawfulScalar.ofBytes_bytes]
      rfl
    | some n =>
      simp only [Message.ofBlock, records_eq, Option.map_some, Option.toList_some,
        List.cons_append, List.nil_append, Block.get, Block.getD, Block.get?, Block.first?_cons,
        distinct, if_true, if_false, LawfulScalar.ofBytes_bytes]
      rfl

/-- Name and version of a descriptor that is read were small enough. -/
theorem size_of_decode {buffer : ByteArray} {d : Descriptor} (h : Message.decode buffer = .ok d) :
    d.name.utf8ByteSize < 2 ^ 32 ∧ d.version.utf8ByteSize < 2 ^ 32 := by
  obtain ⟨b, hb, h⟩ := bind_eq_ok_iff.mp h
  simp only [Message.ofBlock, bind_eq_ok_iff, pure, Except.pure, Except.ok.injEq] at h
  obtain ⟨name, hname, -, -, version, hversion, rfl⟩ := h
  exact ⟨(Block.size_of_get hb hname).1, (Block.size_of_getD hb rfl hversion).1⟩

/-- **A descriptor comes back if and only if name and version have fewer than 2³² bytes each.** -/
theorem decode_encode_iff (d : Descriptor) :
    Message.decode (Message.encode d) = .ok d ↔
      d.name.utf8ByteSize < 2 ^ 32 ∧ d.version.utf8ByteSize < 2 ^ 32 := by
  refine ⟨size_of_decode, fun h => ?_⟩
  rw [Message.decode_encode_of_fits ((fits_iff d).mpr h), ofBlock_records]

end Descriptor

/-! ### Discovery -/

namespace DiscoverMessage

theorem fields_nodup : [kindField, moduleField, serverField].Nodup := by decide +kernel

theorem records_discover (name : String) : Message.records (discover name) =
    [⟨kindField, Scalar.bytes discoverCode⟩, ⟨moduleField, Scalar.bytes name⟩] :=
  rfl

theorem records_response (name : String) (server : ServerInformation) :
    Message.records (response name server) =
      [⟨kindField, Scalar.bytes responseCode⟩, ⟨moduleField, Scalar.bytes name⟩,
        ⟨serverField, Message.encode server⟩] := by
  simp only [← record_message]
  rfl

theorem ofBlock_records_discover (name : String) :
    Message.ofBlock (Message.records (discover name)) = .ok (discover name) := by
  have distinct := fields_nodup
  simp only [List.nodup_cons, List.mem_cons, not_or] at distinct
  simp only [Message.ofBlock, records_discover, Block.get, Block.first?_cons, distinct, if_true,
    if_false, LawfulScalar.ofBytes_bytes]
  rfl

theorem ofBlock_records_response {name : String} {server : ServerInformation}
    (h : Message.decode (Message.encode server) = .ok server) :
    Message.ofBlock (Message.records (response name server)) = .ok (response name server) := by
  have distinct := fields_nodup
  simp only [List.nodup_cons, List.mem_cons, not_or] at distinct
  simp only [Message.ofBlock, records_response, Block.get, Block.message, Block.first?_cons,
    distinct, if_true, if_false, LawfulScalar.ofBytes_bytes, h]
  rfl

/-- The name, and what is said about the server, have room in their records. -/
def Small : DiscoverMessage → Prop
  | discover name => name.utf8ByteSize < 2 ^ 32
  | response name server => name.utf8ByteSize < 2 ^ 32 ∧ (Message.encode server).size < 2 ^ 32

theorem fits_iff (m : DiscoverMessage) : Message.Fits m ↔ m.Small := by
  cases m with
  | discover name => simp [Message.Fits, records_discover, Record.Fits, Small]
  | response name server => simp [Message.Fits, records_response, Record.Fits, Small]

/-- A discovery message that is read has its name and its server from their fields. -/
theorem of_ofBlock {b : Block} {m : DiscoverMessage} (h : Message.ofBlock b = .ok m) :
    ∃ name, b.get moduleField = .ok name ∧ (m = discover name ∨
      ∃ server, m = response name server ∧ b.message serverField = .ok server) := by
  simp only [Message.ofBlock, bind_eq_ok_iff] at h
  obtain ⟨name, hname, kind, -, h⟩ := h
  refine ⟨name, hname, ?_⟩
  split at h
  · exact .inl (Except.ok.inj h).symm
  · split at h
    · obtain ⟨server, hserver, h⟩ := bind_eq_ok_iff.mp h
      exact .inr ⟨server, (Except.ok.inj h).symm, hserver⟩
    · cases h

/-- An answer that comes back had room for what it says about the server. -/
theorem size_server_of_decode {name : String} {server : ServerInformation}
    (hname : name.utf8ByteSize < 2 ^ 32)
    (h : Message.decode (Message.encode (response name server)) = .ok (response name server)) :
    (Message.encode server).size < 2 ^ 32 := by
  obtain ⟨b, hb, h⟩ := bind_eq_ok_iff.mp h
  rw [Message.encode_eq, records_response] at hb
  -- The server is the first record that can be too large.
  have hfits : ∀ r ∈ [⟨kindField, Scalar.bytes responseCode⟩, ⟨moduleField, Scalar.bytes name⟩],
      Record.Fits r := by
    simpa [Record.Fits] using hname
  obtain ⟨rest, rfl⟩ := Block.parse_append_cons hfits hb
  obtain ⟨_, -, h | ⟨_, h, hserver⟩⟩ := of_ofBlock h
  · cases h
  · obtain ⟨rfl, rfl⟩ := response.inj h
    have distinct := fields_nodup
    simp only [List.nodup_cons, List.mem_cons, not_or] at distinct
    simp only [Block.message, List.cons_append, List.nil_append, Block.first?_cons, distinct,
      if_false, Record.id_onWire, if_true] at hserver
    refine Record.fits_of_decode (r := ⟨serverField, Message.encode server⟩) 29 rfl
      hserver (by decide) fun h => ?_
    rw [ServerInformation.size_encode]
    exact Nat.add_le_add_right (ServerInformation.size_address_of_decode h).2 29

/-- **A discovery message comes back if and only if the name and what is said about the server have
fewer than 2³² bytes each.** -/
theorem decode_encode_iff (m : DiscoverMessage) :
    Message.decode (Message.encode m) = .ok m ↔ m.Small := by
  constructor
  · intro h
    obtain ⟨b, hb, hm⟩ := bind_eq_ok_iff.mp h
    obtain ⟨name, hget, rfl | ⟨server, rfl, -⟩⟩ := of_ofBlock hm
    · exact (Block.size_of_get hb hget).1
    · have hname : name.utf8ByteSize < 2 ^ 32 := (Block.size_of_get hb hget).1
      exact ⟨hname, size_server_of_decode hname h⟩
  · intro h
    rw [Message.decode_encode_of_fits ((fits_iff m).mpr h)]
    cases m with
    | discover name => exact ofBlock_records_discover name
    | response name server =>
      have hserver : server.address.utf8ByteSize < 2 ^ 32 :=
        (ServerInformation.fits_iff server).mp (Message.fits_of_size_lt h.2)
      exact ofBlock_records_response ((ServerInformation.decode_encode_iff server).mpr hserver)

end DiscoverMessage

/-! ### Pulses -/

namespace Pulse

theorem fields_nodup :
    [tickField, realTimeField, nominalField, cumulatedField, offsetField].Nodup := by
  decide +kernel

theorem records_eq (p : Pulse) : Message.records p =
    [⟨tickField, Scalar.bytes p.tick⟩, ⟨realTimeField, Message.encode p.realTime⟩,
      ⟨nominalField, Scalar.bytes p.nominalSlice⟩, ⟨cumulatedField, Scalar.bytes p.cumulatedSlice⟩,
      ⟨offsetField, Scalar.bytes p.offset⟩] := by
  simp only [← record_message]
  rfl

theorem size_encode (p : Pulse) : (Message.encode p).size = 84 := by
  rw [Message.encode_eq, records_eq]
  simp only [Block.bytes_cons, Block.bytes_nil, ByteArray.size_append, Record.size_bytes,
    TimeStamp.size_encode, ByteArray.size_empty, headerSize, size_bytes_uint32, size_bytes_uint64]

theorem fits (p : Pulse) : Message.Fits p := by
  simp [Message.Fits, records_eq, Record.Fits, TimeStamp.size_encode]

theorem ofBlock_records (p : Pulse) : Message.ofBlock (Message.records p) = .ok p := by
  have distinct := fields_nodup
  simp only [List.nodup_cons, List.mem_cons, not_or] at distinct
  simp only [Message.ofBlock, records_eq, Block.get, Block.getD, Block.message?, Block.first?_cons,
    distinct, if_true, if_false, LawfulScalar.ofBytes_bytes, TimeStamp.decode_encode]
  rfl

theorem decode_encode (p : Pulse) : Message.decode (Message.encode p) = .ok p := by
  rw [Message.decode_encode_of_fits (fits p), ofBlock_records]

end Pulse

namespace PulseAck

theorem fields_ne : Pulse.tickField ≠ envelopeField := by decide +kernel

/-- The record of an envelope in an acknowledgement. -/
def envelopeRecord (e : Envelope) : Record := ⟨envelopeField, Message.encode e⟩

theorem records_eq (a : PulseAck) : Message.records a =
    ⟨Pulse.tickField, Scalar.bytes a.tick⟩ :: a.envelopes.map envelopeRecord := by
  have henvelope (e : Envelope) : (Field.message envelopeField e).record = envelopeRecord e :=
    record_message e
  simp only [Message.records, Message.fields, Field.messages, List.map_cons, List.map_map,
    Function.comp_def, henvelope, record_scalar]

theorem fits_iff (a : PulseAck) :
    Message.Fits a ↔ ∀ e ∈ a.envelopes, (Message.encode e).size < 2 ^ 32 := by
  simp [Message.Fits, records_eq, Record.Fits, envelopeRecord]

/-- The envelopes are looked up in their order. -/
theorem all_envelopeRecord (es : List Envelope) :
    Block.all (es.map envelopeRecord) envelopeField = es.map Message.encode := by
  rw [Block.all, List.filter_eq_self.mpr (by simp [envelopeRecord]), List.map_map]
  rfl

/-- What a block holds beside the tick is the list of its envelopes. -/
theorem ofBlock_tick_cons {tick : UInt32} {b : Block} {a : PulseAck} :
    Message.ofBlock (⟨Pulse.tickField, Scalar.bytes tick⟩ :: b) = .ok a ↔
      tick = a.tick ∧
        (b.all envelopeField).map Message.decode =
          a.envelopes.map (Except.ok : Envelope → Except WireError Envelope) := by
  have htick : Block.get (⟨Pulse.tickField, Scalar.bytes tick⟩ :: b) Pulse.tickField =
      .ok tick := by
    simp only [Block.get, Block.first?_cons, if_true, LawfulScalar.ofBytes_bytes]
  have hall : Block.all (⟨Pulse.tickField, Scalar.bytes tick⟩ :: b) envelopeField =
      b.all envelopeField := by
    simp [Block.all, fields_ne]
  simp only [Message.ofBlock, bind_eq_ok_iff, htick, Block.messages, hall, mapM_eq_ok_iff]
  cases a with
  | mk tick' envelopes =>
    constructor
    · rintro ⟨_, h, es, hes, hmk⟩
      cases h
      obtain ⟨rfl, rfl⟩ := PulseAck.mk.inj (Except.ok.inj hmk)
      exact ⟨rfl, hes⟩
    · rintro ⟨rfl, hes⟩
      exact ⟨_, rfl, envelopes, hes, rfl⟩

/-- An acknowledgement that comes back had room for each of its envelopes. -/
theorem fits_of_decode {a : PulseAck} (h : Message.decode (Message.encode a) = .ok a) :
    Message.Fits a := by
  obtain ⟨b, hb, h⟩ := bind_eq_ok_iff.mp h
  rw [Message.encode_eq, records_eq] at hb
  by_contra hmisfit
  rw [Message.Fits, records_eq, List.forall_mem_cons, not_and] at hmisfit
  replace hmisfit := hmisfit (by simp [Record.Fits])
  -- The first envelope without room is read cut, but what is read there is the whole of it.
  obtain ⟨front, r, back, hsplit, hfront, hr⟩ := Block.exists_first_misfit hmisfit
  obtain ⟨before, rest, henvelopes, rfl, hrest⟩ := List.map_eq_append_iff.mp hsplit
  obtain ⟨e, behind, rfl, rfl, rfl⟩ := List.map_eq_cons_iff.mp hrest
  have hfits : ∀ s ∈ ⟨Pulse.tickField, Scalar.bytes a.tick⟩ :: before.map envelopeRecord,
      Record.Fits s := List.forall_mem_cons.mpr ⟨by simp [Record.Fits], hfront⟩
  rw [hsplit] at hb
  obtain ⟨rest, rfl⟩ := Block.parse_append_cons hfits hb
  rw [List.cons_append, ofBlock_tick_cons, henvelopes] at h
  have hall : Block.all (before.map envelopeRecord ++ (envelopeRecord e).onWire :: rest)
      envelopeField = before.map Message.encode ++
        (envelopeRecord e).onWire.value :: Block.all rest envelopeField := by
    rw [← all_envelopeRecord]
    simp [Block.all, envelopeRecord]
  rw [hall, List.map_append, List.map_append, List.map_cons, List.map_cons] at h
  have hdecode := (List.append_inj h.2 (by simp)).2
  refine hr (Record.fits_of_decode (a := e) 84 rfl (List.cons.inj hdecode).1
    (by decide) fun h => ?_)
  rw [Envelope.size_encode]
  exact Nat.add_le_add_right (Envelope.size_payload_of_decode h).2 84

/-- **An acknowledgement comes back if and only if each of its envelopes has fewer than 2³²
bytes.** -/
theorem decode_encode_iff (a : PulseAck) :
    Message.decode (Message.encode a) = .ok a ↔
      ∀ e ∈ a.envelopes, (Message.encode e).size < 2 ^ 32 := by
  refine ⟨fun h => (fits_iff a).mp (fits_of_decode h), fun h => ?_⟩
  rw [Message.decode_encode_of_fits ((fits_iff a).mpr h), records_eq, ofBlock_tick_cons,
    all_envelopeRecord, List.map_map]
  refine ⟨rfl, List.map_congr_left fun e he => ?_⟩
  have hpayload := (Envelope.fits_iff e).mp (Message.fits_of_size_lt (h e he))
  exact (Envelope.decode_encode_iff e).mpr hpayload

end PulseAck

/-! ### Beginning and end -/

theorem ModuleState.ofCode_code (field : FieldId) (state : ModuleState) :
    ofCode field state.code = .ok state := by
  cases state <;> rfl

theorem ExitCode.ofCode_code (field : FieldId) (exitCode : ExitCode) :
    ofCode field exitCode.code = .ok exitCode := by
  cases exitCode <;> rfl

theorem StateCommand.decode_encode (c : StateCommand) :
    Message.decode (Message.encode c) = .ok c := by
  have hrecords : Message.records c = [⟨stateField, Scalar.bytes c.state.code⟩] := rfl
  have hfits : Message.Fits c := by simp [Message.Fits, hrecords, Record.Fits]
  rw [Message.decode_encode_of_fits hfits]
  simp only [Message.ofBlock, hrecords, Block.get, Block.first?_cons, if_true,
    LawfulScalar.ofBytes_bytes, bind, Except.bind, ModuleState.ofCode_code]
  rfl

theorem ExitNotice.decode_encode (n : ExitNotice) :
    Message.decode (Message.encode n) = .ok n := by
  have hrecords : Message.records n = [⟨exitCodeField, Scalar.bytes n.exitCode.code⟩] := rfl
  have hfits : Message.Fits n := by simp [Message.Fits, hrecords, Record.Fits]
  rw [Message.decode_encode_of_fits hfits]
  simp only [Message.ofBlock, hrecords, Block.get, Block.first?_cons, if_true,
    LawfulScalar.ofBytes_bytes, bind, Except.bind, ExitCode.ofCode_code]
  rfl

/-! ### Messages in envelopes -/

namespace Envelope

/-- Messages of this type are delivered in envelopes. The envelope comes back from the wire if and
only if the message has fewer than 2³² bytes, and then the message is in it. It is not mistaken for
a message of any other type. -/
def Delivers (α : Type) [Payload α] : Prop :=
  ∀ (now : TimeStamp) (a : α),
    (Message.decode (Message.encode (ofPayload now a)) = .ok (ofPayload now a) ↔
      (Message.encode a).size < 2 ^ 32) ∧
    ((Message.encode a).size < 2 ^ 32 → (ofPayload now a).payloadAs α = .ok a) ∧
    ∀ (β : Type) [Payload β], Payload.dataType β ≠ Payload.dataType α →
      (ofPayload now a).payloadAs β =
        .error (.dataTypeMismatch (Payload.dataType β) (Payload.dataType α))

theorem delivers {α : Type} [Payload α]
    (h : ∀ a : α, Message.Fits a → Message.decode (Message.encode a) = .ok a) : Delivers α := by
  intro now a
  refine ⟨decode_encode_iff _, fun hsize => ?_, fun β _ hne => ?_⟩
  · have hcarries : (ofPayload now a).carries α = true := beq_self_eq_true _
    rw [payloadAs, if_pos hcarries]
    exact h a (Message.fits_of_size_lt hsize)
  · have hcarries : (ofPayload now a).carries β = false := beq_false_of_ne hne.symm
    rw [payloadAs, hcarries]
    rfl

end Envelope

/-- **Every message comes back from the wire, if its records can hold it.** Whatever is not a text,
the payload of an envelope or a nested message of variable size fits anyway. Messages with a tag
also come back from envelopes, and no two of them share a tag. -/
theorem Wire.every_message_comes_back :
    (∀ t : TimeStamp, Message.decode (Message.encode t) = .ok t) ∧
    (∀ e : Envelope, Message.decode (Message.encode e) = .ok e ↔ e.payload.size < 2 ^ 32) ∧
    (∀ s : ServerInformation, Message.decode (Message.encode s) = .ok s ↔
      s.address.utf8ByteSize < 2 ^ 32) ∧
    (∀ d : Descriptor, Message.decode (Message.encode d) = .ok d ↔
      d.name.utf8ByteSize < 2 ^ 32 ∧ d.version.utf8ByteSize < 2 ^ 32) ∧
    (∀ name, Message.decode (Message.encode (DiscoverMessage.discover name)) =
        .ok (DiscoverMessage.discover name) ↔ name.utf8ByteSize < 2 ^ 32) ∧
    (∀ name server, Message.decode (Message.encode (DiscoverMessage.response name server)) =
        .ok (DiscoverMessage.response name server) ↔
      name.utf8ByteSize < 2 ^ 32 ∧ (Message.encode server).size < 2 ^ 32) ∧
    (∀ p : Pulse, Message.decode (Message.encode p) = .ok p) ∧
    (∀ a : PulseAck, Message.decode (Message.encode a) = .ok a ↔
      ∀ e ∈ a.envelopes, (Message.encode e).size < 2 ^ 32) ∧
    (∀ c : StateCommand, Message.decode (Message.encode c) = .ok c) ∧
    (∀ n : ExitNotice, Message.decode (Message.encode n) = .ok n) ∧
    Envelope.Delivers DiscoverMessage ∧ Envelope.Delivers Descriptor ∧
    Envelope.Delivers Pulse ∧ Envelope.Delivers PulseAck ∧
    Envelope.Delivers StateCommand ∧ Envelope.Delivers ExitNotice ∧
    [Payload.dataType DiscoverMessage, Payload.dataType Descriptor, Payload.dataType Pulse,
      Payload.dataType PulseAck, Payload.dataType StateCommand,
      Payload.dataType ExitNotice].Nodup :=
  ⟨TimeStamp.decode_encode, Envelope.decode_encode_iff, ServerInformation.decode_encode_iff,
    Descriptor.decode_encode_iff, fun name => DiscoverMessage.decode_encode_iff (.discover name),
    fun name server => DiscoverMessage.decode_encode_iff (.response name server),
    Pulse.decode_encode, PulseAck.decode_encode_iff, StateCommand.decode_encode,
    ExitNotice.decode_encode,
    Envelope.delivers fun m h =>
      (DiscoverMessage.decode_encode_iff m).mpr ((DiscoverMessage.fits_iff m).mp h),
    Envelope.delivers fun d h =>
      (Descriptor.decode_encode_iff d).mpr ((Descriptor.fits_iff d).mp h),
    Envelope.delivers fun p _ => Pulse.decode_encode p,
    Envelope.delivers fun a h => (PulseAck.decode_encode_iff a).mpr ((PulseAck.fits_iff a).mp h),
    Envelope.delivers fun c _ => StateCommand.decode_encode c,
    Envelope.delivers fun n _ => ExitNotice.decode_encode n, by decide⟩

end Cadence
