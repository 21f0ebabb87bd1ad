import Cadence.Discovery.Client
import Cadence.Discovery.Responder
import Cadence.Proofs.Transport

/-!
# Asking and answering

A module asks for its supercomponent with a datagram, and takes the first answer to its name. Here
the two sides are put together. What one side sends the other side reads, if it fits a datagram, so
the module learns the address, the port and the level that it is told; the address from which the
answer came stands for one that was left out. It is told that it is not managed if it is on the list
of exclusions, and also if nobody is managed at all.

Who answers is silent otherwise. The datagrams that are answered are told byte by byte. They are
requests, so an answer is never answered, whoever sent it.

## Main definitions

* `Discovery.maxDatagram`: how long a datagram can be
* `Discovery.IsRequest`: the byte strings that are requests
* `Discovery.Unheeded`, `Attempt.Vain`: arrivals that a search passes over, and attempts without an
  answer

## Main results

* `Discovery.messageOf_datagramOf`: what is sent is read
* `Responder.exists_answer_iff`: which datagrams are answered
* `Discovery.search_of_answer`: the first answer to a name ends the search
* `Discovery.request_and_answer`: the two sides together
-/

namespace Cadence

open Wire

namespace Discovery

variable {now : TimeStamp} {m : DiscoverMessage} {name asker : String} {d : Datagram}
  {datagram : ByteArray} {source : IpAddress} {server found : ServerInformation}

/-- The longest datagram that can be sent, in bytes. -/
def maxDatagram : Nat := 65507

/-! ### What is sent is read -/

theorem size_datagramOf (now : TimeStamp) (m : DiscoverMessage) :
    (datagramOf now m).size = (Message.encode m).size + 84 + Frame.overhead := by
  rw [datagramOf, Frame.size_encode, Envelope.size_encode_ofPayload]

/-- The message in a datagram, layer by layer. -/
theorem messageOf_eq_ok_iff : messageOf datagram = .ok m ↔
    ∃ (payload rest : ByteArray) (e : Envelope), datagram = Frame.encode payload ++ rest ∧
      payload.size ≤ maxSize ∧ Message.decode payload = .ok e ∧
        e.payloadAs DiscoverMessage = .ok m := by
  have hlimit : maxSize < 2 ^ 32 := by decide
  rw [messageOf, bind_eq_ok_iff]
  simp only [bind_eq_ok_iff, Frame.decodeDatagram]
  constructor
  · rintro ⟨payload, ⟨frame?, hframe, hpayload⟩, e, hdecode, hmessage⟩
    cases frame? with
    | none => cases hpayload
    | some frame =>
      cases hpayload
      obtain ⟨hsize, -, rest, hdatagram⟩ := Frame.exists_of_decode hframe
      exact ⟨_, rest, e, hdatagram, hsize, hdecode, hmessage⟩
  · rintro ⟨payload, rest, e, rfl, hsize, hdecode, hmessage⟩
    exact ⟨payload, ⟨_, Frame.decode_encode_append hsize (by omega), rfl⟩, e, hdecode, hmessage⟩

/-- **A message that fits a datagram is read from it.** -/
theorem messageOf_datagramOf (h : (datagramOf now m).size ≤ maxDatagram) :
    messageOf (datagramOf now m) = .ok m := by
  rw [size_datagramOf] at h
  have hlimit : maxDatagram < 2 ^ 32 ∧ maxDatagram ≤ maxSize := by decide
  have hsize : (Message.encode m).size < 2 ^ 32 := by omega
  have hmessage : Message.decode (Message.encode m) = .ok m :=
    (DiscoverMessage.decode_encode_iff m).mpr
      ((DiscoverMessage.fits_iff m).mp (Message.fits_of_size_lt hsize))
  refine messageOf_eq_ok_iff.mpr ⟨Message.encode (Envelope.ofPayload now m), .empty,
    .ofPayload now m, ByteArray.append_empty.symm, ?_, ?_, ?_⟩
  · rw [Envelope.size_encode_ofPayload]
    omega
  · exact (Envelope.decode_encode_iff _).mpr hsize
  · rw [Envelope.payloadAs_ofPayload, hmessage]

/-! ### Requests -/

/-- A datagram is a request of the module of this name. It begins with a frame, which holds the
records of an envelope with the tag of discovery messages; the payload holds the records of a
message with the code of requests and the name. Further records, and bytes behind the frame, do not
matter. -/
structure IsRequest (asker : String) (datagram : ByteArray) (outer inner : Block)
    (rest : ByteArray) : Prop where
  framed : datagram = Frame.encode outer.bytes ++ rest
  short : outer.bytes.size ≤ maxSize
  outer_fits : ∀ r ∈ outer, r.Fits
  tagged : outer.get Envelope.dataTypeField = .ok (Payload.dataType DiscoverMessage)
  stamped : (∃ sent : Option TimeStamp, outer.message? Envelope.sentField = .ok sent) ∧
    ∃ received : Option TimeStamp, outer.message? Envelope.receivedField = .ok received
  holds : outer.getD Envelope.payloadField ByteArray.empty = .ok inner.bytes
  inner_fits : ∀ r ∈ inner, r.Fits
  asks : inner.get DiscoverMessage.kindField = .ok DiscoverMessage.discoverCode
  named : inner.get DiscoverMessage.moduleField = .ok asker

/-- The blocks that hold a request. -/
theorem ofBlock_eq_discover_iff {b : Block} :
    Message.ofBlock b = .ok (DiscoverMessage.discover asker) ↔
      b.get DiscoverMessage.kindField = .ok DiscoverMessage.discoverCode ∧
        b.get DiscoverMessage.moduleField = .ok asker := by
  simp only [Message.ofBlock, bind_eq_ok_iff]
  constructor
  · rintro ⟨name, hname, kind, hkind, h⟩
    split at h
    · next hcode =>
      cases h
      exact ⟨hcode ▸ hkind, hname⟩
    · split at h
      · obtain ⟨server, -, h⟩ := bind_eq_ok_iff.mp h
        cases h
      · cases h
  · rintro ⟨hkind, hname⟩
    exact ⟨asker, hname, _, hkind, rfl⟩

/-- The blocks that hold an envelope of this type with this payload. -/
theorem exists_envelope_iff {b : Block} {t : DataType} {payload : ByteArray} :
    (∃ e : Envelope, Message.ofBlock b = .ok e ∧ e.dataType = t ∧ e.payload = payload) ↔
      b.get Envelope.dataTypeField = .ok t ∧
        b.getD Envelope.payloadField ByteArray.empty = .ok payload ∧
        (∃ sent : Option TimeStamp, b.message? Envelope.sentField = .ok sent) ∧
        ∃ received : Option TimeStamp, b.message? Envelope.receivedField = .ok received := by
  simp only [Message.ofBlock, bind_eq_ok_iff, pure, Except.pure, Except.ok.injEq]
  constructor
  · rintro ⟨_, ⟨t, htype, payload, hpayload, sent, hsent, received, hreceived, rfl⟩, rfl, rfl⟩
    exact ⟨htype, hpayload, ⟨sent, hsent⟩, received, hreceived⟩
  · rintro ⟨htype, hpayload, ⟨sent, hsent⟩, received, hreceived⟩
    exact ⟨_, ⟨t, htype, payload, hpayload, sent, hsent, received, hreceived, rfl⟩, rfl, rfl⟩

/-- **The byte strings that are requests.** -/
theorem messageOf_eq_discover_iff : messageOf datagram = .ok (.discover asker) ↔
    ∃ outer inner rest, IsRequest asker datagram outer inner rest := by
  rw [messageOf_eq_ok_iff]
  constructor
  · rintro ⟨payload, rest, e, hframed, hshort, hdecode, hmessage⟩
    obtain ⟨outer, houter, he⟩ := bind_eq_ok_iff.mp hdecode
    obtain ⟨hfits, rfl⟩ := Block.parse_eq_ok_iff.mp houter
    rw [Envelope.payloadAs] at hmessage
    split at hmessage
    · next hcarries =>
      obtain ⟨inner, hinner, hm⟩ := bind_eq_ok_iff.mp hmessage
      obtain ⟨hinnerFits, hpayload⟩ := Block.parse_eq_ok_iff.mp hinner
      obtain ⟨hasks, hnamed⟩ := ofBlock_eq_discover_iff.mp hm
      obtain ⟨htagged, hholds, hstamped⟩ :=
        exists_envelope_iff.mp ⟨e, he, eq_of_beq hcarries, hpayload.symm⟩
      exact ⟨outer, inner, rest, hframed, hshort, hfits, htagged, hstamped, hholds, hinnerFits,
        hasks, hnamed⟩
    · cases hmessage
  · rintro ⟨outer, inner, rest, h⟩
    obtain ⟨e, he, htype, hpayload⟩ := exists_envelope_iff.mpr ⟨h.tagged, h.holds, h.stamped⟩
    refine ⟨outer.bytes, rest, e, h.framed, h.short, ?_, ?_⟩
    · exact bind_eq_ok_iff.mpr ⟨outer, Block.parse_eq_ok_iff.mpr ⟨h.outer_fits, rfl⟩, he⟩
    · have hcarries : e.carries DiscoverMessage = true := beq_iff_eq.mpr htype
      rw [Envelope.payloadAs, if_pos hcarries, hpayload]
      exact bind_eq_ok_iff.mpr ⟨inner, Block.parse_eq_ok_iff.mpr ⟨h.inner_fits, rfl⟩,
        ofBlock_eq_discover_iff.mpr ⟨h.asks, h.named⟩⟩

end Discovery

/-! ### Who answers -/

namespace Responder

open Discovery

variable {r : Responder} {now : TimeStamp} {datagram reply : ByteArray}

/-- Every request is answered, and nothing else. -/
theorem answer?_eq_some_iff : r.answer? now datagram = some reply ↔
    ∃ asker, messageOf datagram = .ok (.discover asker) ∧
      datagramOf now (.response asker (r.server.asSeenBy asker r.exclusions)) = reply := by
  rw [answer?]
  constructor
  · intro h
    split at h
    · next asker hmessage => exact ⟨asker, hmessage, Option.some.inj h⟩
    · cases h
  · rintro ⟨asker, hmessage, rfl⟩
    rw [hmessage]

/-- **Which datagrams are answered.** -/
theorem exists_answer_iff : (∃ reply, r.answer? now datagram = some reply) ↔
    ∃ asker outer inner rest, IsRequest asker datagram outer inner rest := by
  constructor
  · rintro ⟨reply, h⟩
    obtain ⟨asker, hmessage, -⟩ := answer?_eq_some_iff.mp h
    exact ⟨asker, messageOf_eq_discover_iff.mp hmessage⟩
  · rintro ⟨asker, h⟩
    exact ⟨_, answer?_eq_some_iff.mpr ⟨asker, messageOf_eq_discover_iff.mpr h, rfl⟩⟩

/-- An answer that can be sent is not answered by anybody. -/
theorem answer?_of_answer {r' : Responder} {now' : TimeStamp}
    (h : r.answer? now datagram = some reply) (hsize : reply.size ≤ maxDatagram) :
    r'.answer? now' reply = none := by
  obtain ⟨asker, -, rfl⟩ := answer?_eq_some_iff.mp h
  rw [answer?, messageOf_datagramOf hsize]

end Responder

namespace Discovery

/-! ### Who asks -/

/-- A search passes over these arrivals: they are datagrams, and none of them is an answer to the
name. -/
def Unheeded (name : String) (arrivals : List (Except IoFault Datagram)) : Prop :=
  ∀ a ∈ arrivals, ∃ d, a = .ok d ∧ acceptable? name d = none

end Discovery

/-- An attempt whose request is sent and to which nobody answers. -/
def Attempt.Vain (name : String) (a : Attempt) : Prop :=
  a.sent = .ok () ∧ Discovery.Unheeded name a.arrivals

namespace Discovery

variable {name : String} {arrivals later : List (Except IoFault Datagram)} {d : Datagram}
  {found : ServerInformation}

theorem firstAnswer_append (h : Unheeded name arrivals) :
    firstAnswer name (arrivals ++ later) = firstAnswer name later := by
  induction arrivals with
  | nil => rfl
  | cons a arrivals ih =>
    obtain ⟨d, rfl, hd⟩ := h a List.mem_cons_self
    rw [List.cons_append, firstAnswer, hd]
    exact ih fun a ha => h a (List.mem_cons_of_mem _ ha)

theorem firstAnswer_of_unheeded (h : Unheeded name arrivals) :
    firstAnswer name arrivals = .ok none := by
  rw [← List.append_nil arrivals, firstAnswer_append h]
  rfl

/-- After so many attempts in vain the search goes on with the next one. -/
theorem searchFrom_add {total : UInt32} {attempts : Nat → Attempt} {made left : Nat} (count : Nat)
    (h : ∀ k < count, (attempts (made + k)).Vain name) :
    searchFrom name total attempts made (left + count) =
      searchFrom name total attempts (made + count) left := by
  induction count generalizing made with
  | zero => rfl
  | succ count ih =>
    obtain ⟨hsent, harrivals⟩ := h 0 (Nat.succ_pos count)
    have hlater : ∀ k < count, (attempts (made + 1 + k)).Vain name := fun k hk => by
      rw [Nat.add_assoc, Nat.add_comm 1 k]
      exact h (k + 1) (Nat.succ_lt_succ hk)
    rw [← Nat.add_assoc, searchFrom]
    rw [Nat.add_zero] at hsent harrivals
    simp only [hsent, firstAnswer_of_unheeded harrivals]
    rw [ih hlater, Nat.add_assoc, Nat.add_comm 1 count]

/-- **The first answer to the name ends the search.** -/
theorem search_of_answer {o : DiscoveryOptions} {attempts : Nat → Attempt} {count : Nat}
    (hcount : count < o.attempts.toNat) (hvain : ∀ k < count, (attempts k).Vain name)
    (hsent : (attempts count).sent = .ok ()) (hbefore : Unheeded name arrivals)
    (harrivals : (attempts count).arrivals = arrivals ++ .ok d :: later)
    (hd : acceptable? name d = some found) :
    search o name attempts = ⟨.discovered, count + 1, .ok found⟩ := by
  obtain ⟨left, hleft⟩ : ∃ left, o.attempts.toNat = left + 1 + count :=
    ⟨o.attempts.toNat - count - 1, by omega⟩
  rw [search, hleft, searchFrom_add count (by simpa using hvain), Nat.zero_add, searchFrom, hsent]
  simp only [harrivals, firstAnswer_append hbefore, firstAnswer, hd]

/-! ### Both sides -/

/-- An answer that arrives is for the module of that name only. -/
theorem acceptable?_datagramOf {asker : String} {server : ServerInformation} {now : TimeStamp}
    (name : String) (source : IpAddress)
    (h : (datagramOf now (.response asker server)).size ≤ maxDatagram) :
    acceptable? name ⟨datagramOf now (.response asker server), source⟩ =
      if asker = name then some (located source server) else none := by
  rw [acceptable?, messageOf_datagramOf h]

/-- What a module is told that has asked, with the source of the answer. -/
theorem located_asSeenBy (name : String) (source : IpAddress) (server : ServerInformation)
    (exclusions : List String) :
    let found := located source (server.asSeenBy name exclusions)
    (found.address = if server.address = "" then source.text else server.address) ∧
      found.port = server.port ∧
      (found.level = .none ↔ server.level = .none ∨
        ∃ entry ∈ exclusions, Text.lowerAscii entry = Text.lowerAscii name) ∧
      (found.level ≠ .none → found.level = server.level) := by
  have hexcluded : ServerInformation.isExcluded exclusions name = true ↔
      ∃ entry ∈ exclusions, Text.lowerAscii entry = Text.lowerAscii name := by
    simp [ServerInformation.isExcluded]
  rw [← hexcluded, ServerInformation.asSeenBy]
  cases ServerInformation.isExcluded exclusions name with
  | true => by_cases haddress : server.address = "" <;> simp [located, haddress]
  | false => by_cases haddress : server.address = "" <;> simp [located, haddress]

/-- **Asking and answering.** When request and answer fit a datagram, the request is answered, and
a search that comes to the answer ends with it: with the address, the port and the level of the server,
where the source of the answer stands for an empty address, and the module is told that it is not
managed if and only if it is on the list of exclusions or nobody is managed. No module of another
name takes the answer. What is answered at all are the requests, and no answer that can be sent is
one. -/
theorem request_and_answer (r : Responder) (name : String) (asked answered : TimeStamp)
    (hrequest : (request asked name).size ≤ maxDatagram)
    (hanswer : (datagramOf answered
      (.response name (r.server.asSeenBy name r.exclusions))).size ≤ maxDatagram) :
    ∃ reply, r.answer? answered (request asked name) = some reply ∧
      (∀ source, ∃ found, acceptable? name ⟨reply, source⟩ = some found ∧
        (found.address = if r.server.address = "" then source.text else r.server.address) ∧
        found.port = r.server.port ∧
        (found.level = .none ↔ r.server.level = .none ∨
          ∃ entry ∈ r.exclusions, Text.lowerAscii entry = Text.lowerAscii name) ∧
        (found.level ≠ .none → found.level = r.server.level) ∧
        ∀ (o : DiscoveryOptions) (attempts : Nat → Attempt) (count : Nat) before later,
          count < o.attempts.toNat → (∀ k < count, (attempts k).Vain name) →
          (attempts count).sent = .ok () → Unheeded name before →
          (attempts count).arrivals = before ++ .ok ⟨reply, source⟩ :: later →
          search o name attempts = ⟨.discovered, count + 1, .ok found⟩) ∧
      (∀ other source, other ≠ name → acceptable? other ⟨reply, source⟩ = none) ∧
      (∀ (now : TimeStamp) (datagram : ByteArray),
        (∃ reply, r.answer? now datagram = some reply) ↔
          ∃ asker outer inner rest, IsRequest asker datagram outer inner rest) ∧
      ∀ (r₁ r₂ : Responder) (now₁ now₂ : TimeStamp) (datagram reply : ByteArray),
        r₁.answer? now₁ datagram = some reply → reply.size ≤ maxDatagram →
          r₂.answer? now₂ reply = none := by
  refine ⟨_, Responder.answer?_eq_some_iff.mpr ⟨name, messageOf_datagramOf hrequest, rfl⟩,
    fun source => ?_, fun other source hother => ?_, fun now datagram =>
    Responder.exists_answer_iff, fun r₁ r₂ now₁ now₂ datagram reply h hsize =>
    Responder.answer?_of_answer h hsize⟩
  · have haccept := (acceptable?_datagramOf name source hanswer).trans (if_pos rfl)
    obtain ⟨haddress, hport, hlevel, hmanaged⟩ :=
      located_asSeenBy name source r.server r.exclusions
    exact ⟨_, haccept, haddress, hport, hlevel, hmanaged, fun _ _ _ _ _ hcount hvain hsent hbefore
      harrivals => search_of_answer hcount hvain hsent hbefore harrivals haccept⟩
  · exact (acceptable?_datagramOf other source hanswer).trans (if_neg (Ne.symm hother))

/-- The cockpit asks a supercomponent that has it on its list in other letters. -/
theorem cockpit_is_answered :
    let r : Responder := ⟨⟨"", 19866, .pulse⟩, ["COCKPIT"]⟩
    ∃ reply, r.answer? ⟨1, 0⟩ (request ⟨1, 0⟩ "cockpit") = some reply ∧
      ∃ found, acceptable? "cockpit" ⟨reply, .loopback⟩ = some found ∧ found.level = .none := by
  intro r
  obtain ⟨reply, hreply, hfound, -⟩ :=
    request_and_answer r "cockpit" ⟨1, 0⟩ ⟨1, 0⟩ (by decide +kernel) (by decide +kernel)
  obtain ⟨found, haccept, -, -, hlevel, -⟩ := hfound .loopback
  exact ⟨reply, hreply, found, haccept, hlevel.mpr (.inr ⟨"COCKPIT", by decide, by decide +kernel⟩)⟩

/-- A supercomponent that manages nobody says so to a module that is on no list. -/
theorem unlisted_and_not_managed :
    let r : Responder := ⟨⟨"10.0.0.1", 19866, .none⟩, []⟩
    (r.answer? ⟨1, 0⟩ (request ⟨1, 0⟩ "cockpit")).bind
        (fun reply => acceptable? "cockpit" ⟨reply, .loopback⟩) =
      some ⟨"10.0.0.1", 19866, .none⟩ ∧
    ¬ ∃ entry ∈ r.exclusions, Text.lowerAscii entry = Text.lowerAscii "cockpit" := by
  intro r
  refine ⟨?_, by simp [r]⟩
  have hrequest : (request ⟨1, 0⟩ "cockpit").size ≤ maxDatagram := by decide +kernel
  have hanswer : (datagramOf ⟨1, 0⟩ (.response "cockpit" r.server)).size ≤ maxDatagram := by
    decide +kernel
  have hreply : r.answer? ⟨1, 0⟩ (request ⟨1, 0⟩ "cockpit") =
      some (datagramOf ⟨1, 0⟩ (.response "cockpit" r.server)) :=
    Responder.answer?_eq_some_iff.mpr ⟨"cockpit", messageOf_datagramOf hrequest, rfl⟩
  rw [hreply, Option.bind_some, acceptable?_datagramOf "cockpit" .loopback hanswer, if_pos rfl]
  rfl

end Discovery

end Cadence
