import Cadence.Registry.Basic
import Mathlib.Data.List.Basic
import Mathlib.Data.List.Pairwise

/-!
# What the operations of the registry do to a link

Every operation of the registry changes the roster, one link, or a few links in one of their
queues. For each operation there is a lemma for the roster, for the acknowledgements, for the
outbound queue and for the openness of an arbitrary link; nothing else has to be unfolded.

A link that was never opened takes no acknowledgements: what is delivered to it is gone. That the
members of a roster are on links that were opened, each on its own and in join order, is therefore
part of `Registry.Sound`, which every operation keeps.

## Main definitions

* `Registry.addressee?`: over which link a module is connected
* `Registry.takeOut`: the module takes some of what is queued for it
* `Registry.Sound`: links and modules of the members are theirs alone

## Main results

* `Registry.link_updateLink`: what changing one link does to any link
* `Registry.takeAck?_eq_some`: what taking an acknowledgement does
* `Registry.acks_deliverAck`: where a delivered acknowledgement goes
* `Registry.outbound_stopAll`: who is told to stop
* `Registry.Sound.join`, `Registry.Sound.remove`, `Registry.Sound.stopAll`: soundness is kept
-/

namespace Cadence

theorem Roster.hasLink_iff {r : Roster} {i : LinkId} :
    r.hasLink i = true ↔ ∃ m ∈ r, m.link = i := by
  simp [hasLink]

namespace Registry

variable {r r' : Registry} {i j : LinkId} {d : Descriptor} {f : Link → Link}

/-- The link over which a module is connected. -/
def addressee? (r : Registry) (d : Descriptor) : Option LinkId :=
  (r.roster.member? d).map (·.link)

/-- The module takes the first `count` envelopes that are queued for it. -/
def takeOut (r : Registry) (i : LinkId) (count : Nat) : Registry :=
  r.updateLink i fun l => { l with outbound := l.outbound.drop count }

/-! ### Changing one link -/

theorem link_updateLink :
    (r.updateLink i f).link j = if i = j ∧ i < r.links.length then f (r.link j) else r.link j := by
  by_cases hij : i = j
  · subst hij
    by_cases hi : i < r.links.length
    · simp [link, updateLink, hi]
    · simp [link, updateLink, hi]
  · simp [link, updateLink, hij]

theorem link_updateLink_self (hi : i < r.links.length) :
    (r.updateLink i f).link i = f (r.link i) := by
  rw [link_updateLink, if_pos ⟨rfl, hi⟩]

theorem link_updateLink_of_ne (hij : i ≠ j) : (r.updateLink i f).link j = r.link j := by
  rw [link_updateLink, if_neg fun h => hij h.1]

/-- What `f` leaves as it is on every link stays as it is when one link is changed by `f`. -/
theorem view_updateLink {β : Type} (view : Link → β) (h : ∀ l, view (f l) = view l) :
    view ((r.updateLink i f).link j) = view (r.link j) := by
  rw [link_updateLink]
  split
  · exact h _
  · rfl

@[simp] theorem roster_updateLink : (r.updateLink i f).roster = r.roster := rfl

@[simp] theorem length_links_updateLink : (r.updateLink i f).links.length = r.links.length :=
  List.length_modify ..

/-- A link that was never opened is closed, and nothing waits on it. -/
theorem link_of_length_le (hi : r.links.length ≤ i) :
    r.link i = { Link.fresh with isOpen := false } := by
  simp [link, List.getElem?_eq_none hi]

theorem lt_of_isOpen (h : (r.link i).isOpen = true) : i < r.links.length := by
  by_contra hi
  simp [link_of_length_le (Nat.le_of_not_lt hi)] at h

theorem lt_of_acks_ne_nil (h : (r.link i).acks ≠ []) : i < r.links.length := by
  by_contra hi
  simp [link_of_length_le (Nat.le_of_not_lt hi), Link.fresh] at h

/-! ### Opening a link -/

@[simp] theorem openLink_fst : r.openLink.1 = r.links.length := rfl

@[simp] theorem roster_openLink : r.openLink.2.roster = r.roster := rfl

@[simp] theorem length_links_openLink : r.openLink.2.links.length = r.links.length + 1 := by
  simp [openLink]

theorem link_openLink :
    r.openLink.2.link j = if j = r.links.length then Link.fresh else r.link j := by
  by_cases hj : j = r.links.length
  · simp [link, openLink, hj]
  · rcases Nat.lt_or_gt_of_ne hj with hlt | hgt
    · simp [link, openLink, hj, List.getElem?_append_left hlt]
    · simp [link, openLink, hj, List.getElem?_append_right (Nat.le_of_lt hgt),
        List.getElem?_eq_none (Nat.le_of_lt hgt), Nat.sub_ne_zero_of_lt hgt]

@[simp] theorem acks_openLink : (r.openLink.2.link j).acks = (r.link j).acks := by
  rw [link_openLink]
  split
  · next h => simp [h, link_of_length_le, Link.fresh]
  · rfl

@[simp] theorem outbound_openLink : (r.openLink.2.link j).outbound = (r.link j).outbound := by
  rw [link_openLink]
  split
  · next h => simp [h, link_of_length_le, Link.fresh]
  · rfl

/-! ### Sending -/

/-- Sending is changing the link, if it is open. -/
theorem send_eq (e : Envelope) :
    r.send i e = if (r.link i).isOpen then
      (true, r.updateLink i fun l => { l with outbound := l.outbound ++ [e] }) else (false, r) :=
  rfl

theorem send_fst (e : Envelope) : (r.send i e).1 = (r.link i).isOpen := by
  rw [send_eq]
  cases (r.link i).isOpen <;> rfl

@[simp] theorem roster_send (e : Envelope) : (r.send i e).2.roster = r.roster := by
  rw [send_eq]
  split <;> rfl

@[simp] theorem length_links_send (e : Envelope) :
    (r.send i e).2.links.length = r.links.length := by
  rw [send_eq]
  split <;> simp

@[simp] theorem acks_send (e : Envelope) : ((r.send i e).2.link j).acks = (r.link j).acks := by
  rw [send_eq]
  split
  · exact view_updateLink Link.acks fun _ => rfl
  · rfl

@[simp] theorem isOpen_send (e : Envelope) :
    ((r.send i e).2.link j).isOpen = (r.link j).isOpen := by
  rw [send_eq]
  split
  · exact view_updateLink Link.isOpen fun _ => rfl
  · rfl

theorem outbound_send (e : Envelope) :
    ((r.send i e).2.link j).outbound =
      (r.link j).outbound ++ if i = j ∧ (r.link j).isOpen = true then [e] else [] := by
  by_cases hij : i = j
  · subst hij
    by_cases ho : (r.link i).isOpen = true
    · simp [send_eq, ho, link_updateLink_self (lt_of_isOpen ho)]
    · simp [send_eq, ho]
  · simp only [hij, false_and, if_false, List.append_nil]
    rw [send_eq]
    split
    · simp only [link_updateLink_of_ne hij]
    · rfl

/-! ### Taking acknowledgements -/

theorem takeAck?_eq_none_iff : r.takeAck? i = none ↔ (r.link i).acks = [] := by
  rw [takeAck?]
  split <;> simp_all

/-- Taking an acknowledgement takes it off the front of its queue, and does nothing else. -/
theorem takeAck?_eq_some {ack : PulseAck} (h : r.takeAck? i = some (ack, r')) :
    (r.link i).acks = ack :: (r'.link i).acks ∧
      (∀ j, j ≠ i → (r'.link j).acks = (r.link j).acks) ∧
      (∀ j, (r'.link j).isOpen = (r.link j).isOpen) ∧
      (∀ j, (r'.link j).outbound = (r.link j).outbound) ∧
      r'.roster = r.roster ∧ r'.links.length = r.links.length := by
  rw [takeAck?] at h
  split at h
  · cases h
  · next first rest hacks =>
    obtain ⟨rfl, rfl⟩ : first = ack ∧ r.updateLink i (fun l => { l with acks := rest }) = r' := by
      simpa using h
    have hi : i < r.links.length := lt_of_acks_ne_nil (by simp [hacks])
    refine ⟨by rw [hacks, link_updateLink_self hi], fun j hj => ?_, fun j => ?_, fun j => ?_, rfl,
      length_links_updateLink⟩
    · rw [link_updateLink_of_ne (Ne.symm hj)]
    · exact view_updateLink Link.isOpen fun _ => rfl
    · exact view_updateLink Link.outbound fun _ => rfl

/-! ### Taking out and hanging up -/

@[simp] theorem roster_takeOut (n : Nat) : (r.takeOut i n).roster = r.roster := rfl

@[simp] theorem length_links_takeOut (n : Nat) :
    (r.takeOut i n).links.length = r.links.length :=
  length_links_updateLink

@[simp] theorem acks_takeOut (n : Nat) : ((r.takeOut i n).link j).acks = (r.link j).acks :=
  view_updateLink Link.acks fun _ => rfl

@[simp] theorem isOpen_takeOut (n : Nat) : ((r.takeOut i n).link j).isOpen = (r.link j).isOpen :=
  view_updateLink Link.isOpen fun _ => rfl

theorem length_outbound_takeOut_le (n : Nat) :
    ((r.takeOut i n).link j).outbound.length ≤ (r.link j).outbound.length := by
  rw [takeOut, link_updateLink]
  split <;> simp

theorem link_takeOut_of_ne (hij : i ≠ j) (n : Nat) : (r.takeOut i n).link j = r.link j :=
  link_updateLink_of_ne hij

/-- Taking one envelope takes it off the front of the queue. -/
theorem outbound_takeOut_one {e : Envelope} {rest : List Envelope}
    (queued : (r.link i).outbound = e :: rest) : ((r.takeOut i 1).link i).outbound = rest := by
  have hi : i < r.links.length := by
    by_contra hi
    simp [link_of_length_le (Nat.le_of_not_lt hi), Link.fresh] at queued
  rw [takeOut, link_updateLink_self hi]
  exact congrArg (List.drop 1) queued

theorem link_hangUp_of_ne (hij : i ≠ j) : (r.hangUp i).link j = r.link j :=
  link_updateLink_of_ne hij

/-- Nothing waits on a link whose end has vanished. -/
theorem link_hangUp_self : ((r.hangUp i).link i).isOpen = false ∧
    ((r.hangUp i).link i).outbound = [] := by
  rw [hangUp]
  by_cases hi : i < r.links.length
  · rw [link_updateLink_self hi]
    exact ⟨rfl, rfl⟩
  · rw [link_of_length_le (by simpa using hi)]
    exact ⟨rfl, rfl⟩

@[simp] theorem roster_hangUp : (r.hangUp i).roster = r.roster := rfl

@[simp] theorem length_links_hangUp : (r.hangUp i).links.length = r.links.length :=
  length_links_updateLink

@[simp] theorem acks_hangUp : ((r.hangUp i).link j).acks = (r.link j).acks :=
  view_updateLink Link.acks fun _ => rfl

theorem length_outbound_hangUp_le :
    ((r.hangUp i).link j).outbound.length ≤ (r.link j).outbound.length := by
  rw [hangUp, link_updateLink]
  split <;> simp

/-! ### Joining and leaving -/

theorem register_eq_ok_iff {slot : Nat} :
    r.register d i = .ok (slot, r') ↔
      r.roster.contains d = false ∧ slot = r.roster.freeSlot ∧
        r' = Registry.publishCount { r with roster := r.roster ++ [⟨d, r.roster.freeSlot, i⟩] }
          (r.roster.length + 1) := by
  rw [register, enroll, Roster.enroll]
  by_cases hd : r.roster.contains d
  · simp [hd, Except.map]
  · simp only [hd, Except.map, Bool.false_eq_true, if_false, Except.ok.injEq, Prod.mk.injEq,
      List.length_append, List.length_singleton, true_and]
    constructor
    · rintro ⟨rfl, rfl⟩
      exact ⟨rfl, rfl⟩
    · rintro ⟨rfl, rfl⟩
      exact ⟨rfl, rfl⟩

/-- Only the roster and the published count change when somebody leaves. -/
theorem links_remove : (r.remove d).2.links = r.links := by
  rw [remove]
  split <;> rfl

@[simp] theorem link_remove : (r.remove d).2.link j = r.link j := by
  rw [link, link, links_remove]

theorem roster_remove : (r.remove d).2.roster = r.roster.dismiss d := by
  rw [remove]
  split
  · rfl
  · next h =>
    refine (List.filter_eq_self.mpr fun m hm => ?_).symm
    simp only [Roster.contains, List.any_eq_true, not_exists, not_and] at h
    simpa using h m hm

/-! ### Delivering acknowledgements -/

/-- An acknowledgement is accepted if the module is connected. -/
theorem deliverAck_fst (ack : PulseAck) : (r.deliverAck d ack).1 = (r.addressee? d).isSome := by
  rw [deliverAck, addressee?]
  cases r.roster.member? d <;> rfl

theorem roster_deliverAck (ack : PulseAck) : (r.deliverAck d ack).2.roster = r.roster := by
  rw [deliverAck]
  cases r.roster.member? d <;> rfl

theorem length_links_deliverAck (ack : PulseAck) :
    (r.deliverAck d ack).2.links.length = r.links.length := by
  rw [deliverAck]
  cases r.roster.member? d <;> simp

theorem isOpen_deliverAck (ack : PulseAck) :
    ((r.deliverAck d ack).2.link j).isOpen = (r.link j).isOpen := by
  rw [deliverAck]
  cases r.roster.member? d with
  | none => rfl
  | some m => exact view_updateLink Link.isOpen fun _ => rfl

theorem outbound_deliverAck (ack : PulseAck) :
    ((r.deliverAck d ack).2.link j).outbound = (r.link j).outbound := by
  rw [deliverAck]
  cases r.roster.member? d with
  | none => rfl
  | some m => exact view_updateLink Link.outbound fun _ => rfl

/-- Somebody is connected over the link that acknowledgements of a module go to. -/
theorem exists_of_addressee? (h : r.addressee? d = some i) :
    ∃ m ∈ r.roster, m.link = i ∧ m.descriptor.identity = d.identity := by
  obtain ⟨m, hm, hlink⟩ := Option.map_eq_some_iff.mp h
  refine ⟨m, List.mem_of_find?_eq_some hm, hlink, ?_⟩
  have := List.find?_some hm
  exact Descriptor.same_iff.mp this

/-! ### Stopping -/

@[simp] theorem roster_sendStop (now : TimeStamp) (members : Roster) :
    (sendStop now members r).roster = r.roster := by
  induction members generalizing r with
  | nil => rfl
  | cons m rest ih => exact (ih (r := (r.send m.link _).2)).trans (roster_send _)

@[simp] theorem length_links_sendStop (now : TimeStamp) (members : Roster) :
    (sendStop now members r).links.length = r.links.length := by
  induction members generalizing r with
  | nil => rfl
  | cons m rest ih => exact (ih (r := (r.send m.link _).2)).trans (length_links_send _)

@[simp] theorem acks_sendStop (now : TimeStamp) (members : Roster) :
    ((sendStop now members r).link j).acks = (r.link j).acks := by
  induction members generalizing r with
  | nil => rfl
  | cons m rest ih => exact (ih (r := (r.send m.link _).2)).trans (acks_send _)

@[simp] theorem isOpen_sendStop (now : TimeStamp) (members : Roster) :
    ((sendStop now members r).link j).isOpen = (r.link j).isOpen := by
  induction members generalizing r with
  | nil => rfl
  | cons m rest ih => exact (ih (r := (r.send m.link _).2)).trans (isOpen_send _)

@[simp] theorem roster_stopAll (now : TimeStamp) : (r.stopAll now).2.roster = [] :=
  roster_sendStop ..

@[simp] theorem length_links_stopAll (now : TimeStamp) :
    (r.stopAll now).2.links.length = r.links.length :=
  length_links_sendStop ..

@[simp] theorem acks_stopAll (now : TimeStamp) :
    ((r.stopAll now).2.link j).acks = (r.link j).acks :=
  acks_sendStop ..

@[simp] theorem isOpen_stopAll (now : TimeStamp) :
    ((r.stopAll now).2.link j).isOpen = (r.link j).isOpen :=
  isOpen_sendStop ..

/-- Whoever is on a list of members, once each, is told to stop if its link is open. -/
theorem outbound_sendStop (now : TimeStamp) {members : Roster}
    (distinct : members.Pairwise fun m n => m.link ≠ n.link) :
    ((sendStop now members r).link j).outbound =
      (r.link j).outbound ++
        if members.hasLink j = true ∧ (r.link j).isOpen = true then [stopCommand now] else [] := by
  induction members generalizing r with
  | nil => simp [sendStop, Roster.hasLink]
  | cons m rest ih =>
    obtain ⟨hm, hrest⟩ := List.pairwise_cons.mp distinct
    rw [show sendStop now (m :: rest) r = sendStop now rest (r.send m.link (stopCommand now)).2
      from rfl, ih hrest, outbound_send, isOpen_send]
    by_cases hj : m.link = j
    · have hno : Roster.hasLink rest j = false := by
        simp only [Roster.hasLink, List.any_eq_false, beq_iff_eq]
        exact fun n hn h => hm n hn (hj.trans h.symm)
      have hyes : Roster.hasLink (m :: rest) j = true := by simp [Roster.hasLink, hj]
      rw [hno, hyes]
      simp [hj]
    · simp [hj, Roster.hasLink]

/-- When everybody is stopped, the members with an open link are told so, once each. -/
theorem outbound_stopAll (now : TimeStamp)
    (distinct : r.roster.Pairwise fun m n => m.link ≠ n.link) :
    ((r.stopAll now).2.link j).outbound =
      (r.link j).outbound ++
        if r.roster.hasLink j = true ∧ (r.link j).isOpen = true then [stopCommand now] else [] :=
  outbound_sendStop now distinct

/-! ### Soundness -/

/-- The members are on links that were opened, each on its own, in join order, and no two members are
the same module. -/
structure Sound (r : Registry) : Prop where
  /-- The links of the members were opened. -/
  valid : ∀ m ∈ r.roster, m.link < r.links.length
  /-- Whoever has joined first stands first: links are opened one after the other. -/
  links : r.roster.Pairwise fun m n => m.link < n.link
  /-- No two members are the same module. -/
  identities : r.roster.Pairwise fun m n => m.descriptor.identity ≠ n.descriptor.identity

/-- Two members that are the same module are one. -/
theorem Sound.eq_of_identity_eq (h : r.Sound) {m n : Member} (hm : m ∈ r.roster)
    (hn : n ∈ r.roster) (hid : m.descriptor.identity = n.descriptor.identity) : m = n := by
  have : Std.Symm fun m n : Member => m.descriptor.identity ≠ n.descriptor.identity :=
    ⟨fun _ _ h => h.symm⟩
  by_contra hne
  exact h.identities.forall hm hn hne hid

/-- No two members share a link. -/
theorem Sound.links_ne (h : r.Sound) : r.roster.Pairwise fun m n => m.link ≠ n.link :=
  h.links.imp Nat.ne_of_lt

/-- Two members on one link are one. -/
theorem Sound.eq_of_link_eq (h : r.Sound) {m n : Member} (hm : m ∈ r.roster)
    (hn : n ∈ r.roster) (hlink : m.link = n.link) : m = n := by
  have : Std.Symm fun m n : Member => m.link ≠ n.link := ⟨fun _ _ h => h.symm⟩
  by_contra hne
  exact h.links_ne.forall hm hn hne hlink

theorem sound_empty : empty.Sound := ⟨by simp [empty], .nil, .nil⟩

/-- Soundness only looks at the roster and at how many links there are. -/
theorem Sound.of_sublist (h : r.Sound) (hroster : r'.roster.Sublist r.roster)
    (hlinks : r'.links.length = r.links.length) : r'.Sound where
  valid m hm := hlinks ▸ h.valid m (hroster.subset hm)
  links := h.links.sublist hroster
  identities := h.identities.sublist hroster

theorem Sound.of_roster_eq (h : r.Sound) (hroster : r'.roster = r.roster)
    (hlinks : r'.links.length = r.links.length) : r'.Sound :=
  h.of_sublist (hroster ▸ List.Sublist.refl _) hlinks

theorem Sound.remove (h : r.Sound) : (r.remove d).2.Sound :=
  h.of_sublist (roster_remove ▸ List.filter_sublist) (by rw [links_remove])

theorem Sound.stopAll (h : r.Sound) (now : TimeStamp) : (r.stopAll now).2.Sound :=
  h.of_sublist (by simp) (by simp)

/-- A module that is not connected joins over a link of its own. -/
theorem Sound.join (h : r.Sound) {slot : Nat}
    (hreg : r.openLink.2.register d r.openLink.1 = .ok (slot, r')) : r'.Sound := by
  obtain ⟨hd, -, rfl⟩ := register_eq_ok_iff.mp hreg
  simp only [roster_openLink, Roster.contains, List.any_eq_false, Descriptor.same_iff] at hd
  refine ⟨fun m hm => ?_, ?_, ?_⟩
  · rcases List.mem_append.mp hm with hm | hm
    · simpa [publishCount, openLink] using Nat.lt_succ_of_lt (h.valid m hm)
    · obtain rfl := List.mem_singleton.mp hm
      simp [publishCount, openLink]
  · exact List.pairwise_append.mpr ⟨h.links, List.pairwise_singleton .., by simpa using h.valid⟩
  · exact List.pairwise_append.mpr ⟨h.identities, List.pairwise_singleton .., by simpa using hd⟩

/-- A delivered acknowledgement goes to the end of the queue of the link over which the module is
connected, and nowhere else. -/
theorem acks_deliverAck (h : r.Sound) (ack : PulseAck) :
    ((r.deliverAck d ack).2.link j).acks =
      (r.link j).acks ++ if r.addressee? d = some j then [ack] else [] := by
  rw [deliverAck, addressee?]
  cases hm : r.roster.member? d with
  | none => simp
  | some m =>
    have hvalid : m.link < r.links.length := h.valid m (List.mem_of_find?_eq_some hm)
    by_cases hj : m.link = j
    · subst hj
      simp [link_updateLink_self hvalid]
    · simp [link_updateLink_of_ne hj, hj]

end Registry

end Cadence
