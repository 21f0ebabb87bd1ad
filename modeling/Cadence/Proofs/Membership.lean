import Cadence.Proofs.Links
import Cadence.Proofs.Run
import Mathlib.Data.List.Perm.Subperm
import Mathlib.Order.Bounds.Basic

/-!
# Who is in the registry, and where

The calls of a registry are made one after the other, by whomever and in any order. Here it is
proved what the registry then holds: the registrations that nothing has ended, in the order in which
they were made, each with the slot that it was given. A newcomer is given the lowest slot that
nobody has, so that slots never go beyond the largest number of modules that were ever there at a
time; and the published number of members is their number after every call.

What sessions and scheduler put into the queues of a link is not looked at here, and neither is the
moment between a change of the roster and the publication of the number.

## Main definitions

* `RegistryCall`, `Registry.call`, `Registry.calls`: one call, and one after the other
* `Registry.newcomers`: the registration that is made in a call
* `Registry.survivors`: the registrations that nothing has ended
* `Registry.peak`: the largest number of members so far
* `Registry.InOrder`: members, their slots and their number fit together

## Main results

* `Roster.isLeast_freeSlot`, `Roster.freeSlot_le_length`: the slot of a newcomer
* `Registry.roster_call`: what one call does to the roster
* `Registry.roster_calls`: the members are the survivors
* `Registry.membership_of_calls`: what a registry holds after any calls
-/

namespace Cadence

/-! ### The lowest free slot -/

namespace Roster

variable {r : Roster} {slot more : Nat}

theorem hasSlot_iff : r.hasSlot slot = true ↔ slot ∈ r.map (·.slot) := by
  simp [hasSlot]

/-- The search passes over slots that are taken only. -/
theorem mem_of_lt_freeSlotFrom {s : Nat} (hle : slot ≤ s) (hlt : s < r.freeSlotFrom slot more) :
    s ∈ r.map (·.slot) := by
  induction more generalizing slot with
  | zero => exact absurd hle (Nat.not_le_of_lt hlt)
  | succ more ih =>
    rw [freeSlotFrom] at hlt
    split at hlt
    · next htaken =>
      rcases Nat.eq_or_lt_of_le hle with rfl | hle
      · exact hasSlot_iff.mp htaken
      · exact ih hle hlt
    · exact absurd hle (Nat.not_le_of_lt hlt)

/-- The search ends at a free slot, or it has looked at as many slots as it may. -/
theorem not_mem_or_eq_freeSlotFrom (r : Roster) (slot more : Nat) :
    r.freeSlotFrom slot more ∉ r.map (·.slot) ∨ r.freeSlotFrom slot more = slot + more := by
  induction more generalizing slot with
  | zero => exact .inr rfl
  | succ more ih =>
    rw [freeSlotFrom]
    split
    · exact (ih _).imp_right fun h => by rw [h, Nat.add_right_comm, Nat.add_assoc]
    · next hfree => exact .inl fun h => hfree (hasSlot_iff.mpr h)

/-- Slots that are all taken are no more than there are members. -/
theorem le_length_of_forall_mem {n : Nat} (h : ∀ s < n, s ∈ r.map (·.slot)) : n ≤ r.length := by
  have hsubset : List.range n ⊆ r.map (·.slot) := fun s hs => h s (List.mem_range.mp hs)
  have := (List.nodup_range.subperm hsubset).length_le
  rwa [List.length_range, List.length_map] at this

theorem freeSlot_le_length : r.freeSlot ≤ r.length :=
  le_length_of_forall_mem fun _ => mem_of_lt_freeSlotFrom (Nat.zero_le _)

/-- **A newcomer gets the lowest slot that nobody has.** -/
theorem isLeast_freeSlot (r : Roster) : IsLeast {s | ∀ m ∈ r, m.slot ≠ s} r.freeSlot := by
  have hfree : r.freeSlot ∉ r.map (·.slot) := by
    rcases r.not_mem_or_eq_freeSlotFrom 0 r.length with h | h
    · exact h
    · -- As many slots as there are members are taken. One more cannot be.
      intro htaken
      refine Nat.not_succ_le_self r.length (le_length_of_forall_mem fun s hs => ?_)
      rcases Nat.lt_succ_iff_lt_or_eq.mp hs with hs | rfl
      · exact mem_of_lt_freeSlotFrom (Nat.zero_le s) (by rwa [h, Nat.zero_add])
      · rwa [freeSlot, h, Nat.zero_add] at htaken
  refine ⟨fun m hm h => hfree (h ▸ List.mem_map_of_mem hm), fun s hs => ?_⟩
  by_contra hlt
  obtain ⟨m, hm, hslot⟩ := List.mem_map.mp
    (mem_of_lt_freeSlotFrom (Nat.zero_le s) (Nat.lt_of_not_le hlt))
  exact hs m hm hslot

end Roster

/-! ### Calls -/

/-- A call of the registry. -/
inductive RegistryCall where
  /-- A link is opened, over which a module can be registered. -/
  | openLink
  | register (d : Descriptor) (i : LinkId)
  | remove (d : Descriptor)
  | connectionLost (d : Descriptor)
  | deliverAck (d : Descriptor) (ack : PulseAck)
  | stopAll (now : TimeStamp)

/-- Does a call end the registration of this module, if there is one? -/
def RegistryCall.ends (d : Descriptor) : RegistryCall → Bool
  | .remove e | .connectionLost e => d.same e
  | .stopAll _ => true
  | .openLink | .register .. | .deliverAck .. => false

namespace Registry

/-- The registry after a call. A registration that fails leaves no trace. -/
def call (r : Registry) : RegistryCall → Registry
  | .openLink => r.openLink.2
  | .register d i => ((r.register d i).map (·.2)).toOption.getD r
  | .remove d => (r.remove d).2
  | .connectionLost d => r.connectionLost d
  | .deliverAck d ack => (r.deliverAck d ack).2
  | .stopAll now => (r.stopAll now).2

/-- The registry after these calls. -/
def calls (r : Registry) (cs : List RegistryCall) : Registry := Run.last call r cs

/-- The registration that is made in a call, with the slot that is handed out. -/
def newcomers (r : Registry) : RegistryCall → Roster
  | .register d i =>
    match r.register d i with
    | .ok (slot, _) => [⟨d, slot, i⟩]
    | .error _ => []
  | .openLink | .remove _ | .connectionLost _ | .deliverAck .. | .stopAll _ => []

/-- The registrations that are made in a run of calls and that no later one of them ends, in the
order in which they are made. -/
def survivors : Registry → List RegistryCall → Roster
  | _, [] => []
  | r, c :: cs =>
    (r.newcomers c).filter (fun m => !cs.any (·.ends m.descriptor)) ++ survivors (r.call c) cs

/-- The largest number of members before, between and after these calls. -/
def peak : Registry → List RegistryCall → Nat
  | r, [] => r.roster.length
  | r, c :: cs => max r.roster.length (peak (r.call c) cs)

variable {r : Registry} {d : Descriptor} {i : LinkId} {c : RegistryCall} {cs : List RegistryCall}

@[simp] theorem calls_nil : r.calls [] = r := rfl

@[simp] theorem calls_cons : r.calls (c :: cs) = (r.call c).calls cs := rfl

/-! ### One call -/

/-- A module that is not there is registered with the lowest free slot, behind all others. -/
theorem register_of_not_contains (h : r.roster.contains d = false) :
    r.register d i = .ok (r.roster.freeSlot, publishCount
      { r with roster := r.roster ++ [⟨d, r.roster.freeSlot, i⟩] } (r.roster.length + 1)) :=
  register_eq_ok_iff.mpr ⟨h, rfl, rfl⟩

/-- A module that is there already is refused by its name. -/
theorem register_of_contains (h : r.roster.contains d = true) :
    r.register d i = .error (.duplicateModule d.display) := by
  rw [register, enroll, Roster.enroll, if_pos h]
  rfl

/-- A registration that is refused leaves no trace. -/
theorem call_register_of_contains (h : r.roster.contains d = true) :
    r.call (.register d i) = r := by
  rw [call, register_of_contains h]
  rfl

theorem call_register_of_not_contains (h : r.roster.contains d = false) :
    r.call (.register d i) = publishCount
      { r with roster := r.roster ++ [⟨d, r.roster.freeSlot, i⟩] } (r.roster.length + 1) := by
  rw [call, register_of_not_contains h]
  rfl

theorem newcomers_of_contains (h : r.roster.contains d = true) :
    r.newcomers (.register d i) = [] := by
  rw [newcomers, register_of_contains h]

theorem newcomers_of_not_contains (h : r.roster.contains d = false) :
    r.newcomers (.register d i) = [⟨d, r.roster.freeSlot, i⟩] := by
  rw [newcomers, register_of_not_contains h]

/-- After a call there is who was there and is not ended by it, and then whoever is registered by
it. -/
theorem roster_call (r : Registry) (c : RegistryCall) :
    (r.call c).roster = r.roster.filter (fun m => !c.ends m.descriptor) ++ r.newcomers c := by
  have hkept : r.roster = r.roster.filter (fun _ => !false) :=
    (List.filter_eq_self.mpr (by simp)).symm
  cases c with
  | openLink => exact hkept.trans (List.append_nil _).symm
  | register d i =>
    cases h : r.roster.contains d with
    | true =>
      rw [call_register_of_contains h, newcomers_of_contains h, List.append_nil]
      exact hkept
    | false =>
      rw [call_register_of_not_contains h, newcomers_of_not_contains h]
      exact congrArg (· ++ _) hkept
  | remove d | connectionLost d => exact roster_remove.trans (List.append_nil _).symm
  | deliverAck d ack =>
    exact (roster_deliverAck ack).trans (hkept.trans (List.append_nil _).symm)
  | stopAll now => exact (roster_stopAll now).trans (by simp [RegistryCall.ends, newcomers])

/-- Whoever leaves is taken off the published number. -/
theorem count_remove (h : r.count = r.roster.length) :
    (r.remove d).2.count = (r.remove d).2.roster.length := by
  rw [remove]
  split
  · rfl
  · exact h

theorem count_deliverAck (ack : PulseAck) : (r.deliverAck d ack).2.count = r.count := by
  rw [deliverAck]
  cases r.roster.member? d <;> rfl

theorem count_send (e : Envelope) : (r.send i e).2.count = r.count := by
  rw [send_eq]
  split <;> rfl

theorem count_stopAll (now : TimeStamp) : (r.stopAll now).2.count = 0 := by
  have hsend (members : Roster) : ∀ r : Registry, (sendStop now members r).count = r.count := by
    induction members with
    | nil => exact fun _ => rfl
    | cons m rest ih => exact fun r => (ih _).trans (count_send _)
  exact hsend ..

/-- The number that is published is the number of members, after every call. -/
theorem count_call (h : r.count = r.roster.length) (c : RegistryCall) :
    (r.call c).count = (r.call c).roster.length := by
  cases c with
  | openLink => exact h
  | register d i =>
    cases hd : r.roster.contains d with
    | true => rw [call_register_of_contains hd, h]
    | false =>
      rw [call_register_of_not_contains hd]
      simp [publishCount]
  | remove d | connectionLost d => exact count_remove h
  | deliverAck d ack =>
    rw [call, count_deliverAck, roster_deliverAck]
    exact h
  | stopAll now => exact (count_stopAll now).trans (by rw [call, roster_stopAll, List.length_nil])

/-- A newcomer is none of the members, and has none of their slots. -/
theorem ne_of_mem_newcomers {m n : Member} (hm : m ∈ r.roster) (hn : n ∈ r.newcomers c) :
    m.descriptor.identity ≠ n.descriptor.identity ∧ m.slot ≠ n.slot := by
  cases c with
  | register d i =>
    cases h : r.roster.contains d with
    | true => simp [newcomers_of_contains h] at hn
    | false =>
      obtain rfl : n = ⟨d, r.roster.freeSlot, i⟩ := by simpa [newcomers_of_not_contains h] using hn
      refine ⟨fun hid => ?_, r.roster.isLeast_freeSlot.1 m hm⟩
      exact absurd (Roster.contains_iff.mpr ⟨m, hm, hid⟩) (by simp [h])
  | _ => simp [newcomers] at hn

/-- At most one module is registered in a call. -/
theorem pairwise_newcomers (R : Member → Member → Prop) (r : Registry) (c : RegistryCall) :
    (r.newcomers c).Pairwise R := by
  cases c with
  | register d i =>
    rw [newcomers]
    split <;> simp
  | _ => simp [newcomers]

/-! ### All calls -/

/-- No two members are the same module or share a slot, and their number is the published one. -/
structure InOrder (r : Registry) : Prop where
  identities : r.roster.Pairwise fun m n => m.descriptor.identity ≠ n.descriptor.identity
  slots : r.roster.Pairwise fun m n => m.slot ≠ n.slot
  count : r.count = r.roster.length

theorem inOrder_empty : empty.InOrder := ⟨.nil, .nil, rfl⟩

/-- What holds of any two members, and of a member and a newcomer, holds after the call. -/
theorem pairwise_call {R : Member → Member → Prop} (h : r.roster.Pairwise R)
    (hnew : ∀ m ∈ r.roster, ∀ n ∈ r.newcomers c, R m n) : (r.call c).roster.Pairwise R := by
  rw [roster_call]
  exact List.pairwise_append.mpr ⟨h.filter _, pairwise_newcomers R r c,
    fun m hm => hnew m (List.mem_of_mem_filter hm)⟩

theorem InOrder.call (h : r.InOrder) (c : RegistryCall) : (r.call c).InOrder where
  identities := pairwise_call h.identities fun _ hm _ hn => (ne_of_mem_newcomers hm hn).1
  slots := pairwise_call h.slots fun _ hm _ hn => (ne_of_mem_newcomers hm hn).2
  count := count_call h.count c

theorem InOrder.calls (h : r.InOrder) (cs : List RegistryCall) : (r.calls cs).InOrder := by
  induction cs generalizing r with
  | nil => exact h
  | cons c cs ih => exact ih (h.call c)

/-- **The members are those of the beginning that no call ended, and then the survivors.** -/
theorem roster_calls (r : Registry) (cs : List RegistryCall) :
    (r.calls cs).roster =
      r.roster.filter (fun m => !cs.any (·.ends m.descriptor)) ++ r.survivors cs := by
  induction cs generalizing r with
  | nil => simp [survivors]
  | cons c cs ih =>
    simp only [calls_cons, ih, roster_call, List.filter_append, List.filter_filter,
      List.append_assoc, survivors, List.any_cons, Bool.not_or, Bool.and_comm]

theorem length_le_peak (r : Registry) (cs : List RegistryCall) : r.roster.length ≤ r.peak cs := by
  cases cs with
  | nil => exact Nat.le_refl _
  | cons c cs => exact Nat.le_max_left ..

/-- The slot of a newcomer is below the number of members with it. -/
theorem slot_lt_of_mem_newcomers {m : Member} (hm : m ∈ r.newcomers c) :
    m.slot < (r.call c).roster.length := by
  cases c with
  | register d i =>
    cases h : r.roster.contains d with
    | true => simp [newcomers_of_contains h] at hm
    | false =>
      obtain rfl : m = ⟨d, r.roster.freeSlot, i⟩ := by simpa [newcomers_of_not_contains h] using hm
      rw [call_register_of_not_contains h]
      simpa [publishCount] using Nat.lt_succ_of_le r.roster.freeSlot_le_length
  | _ => simp [newcomers] at hm

/-- **Slots stay below the largest number of members so far**, if they are below `p` first. -/
theorem slot_lt_of_mem_calls {p : Nat} (h : ∀ m ∈ r.roster, m.slot < p) :
    ∀ m ∈ (r.calls cs).roster, m.slot < max p (r.peak cs) := by
  induction cs generalizing r p with
  | nil => exact fun m hm => Nat.lt_of_lt_of_le (h m hm) (Nat.le_max_left ..)
  | cons c cs ih =>
    have hcall : ∀ m ∈ (r.call c).roster, m.slot < max p (r.call c).roster.length := by
      intro m hm
      rw [roster_call] at hm
      rcases List.mem_append.mp hm with hold | hnew
      · exact Nat.lt_of_lt_of_le (h m (List.mem_of_mem_filter hold)) (Nat.le_max_left ..)
      · exact Nat.lt_of_lt_of_le (slot_lt_of_mem_newcomers hnew) (Nat.le_max_right ..)
    intro m hm
    have hpeak := length_le_peak (r.call c) cs
    have hslot := ih hcall m hm
    rw [peak]
    omega

/-- An acknowledgement is accepted if and only if the module is registered. -/
theorem deliverAck_fst_iff (ack : PulseAck) :
    (r.deliverAck d ack).1 = true ↔
      ∃ m ∈ r.roster, m.descriptor.identity = d.identity := by
  rw [deliverAck_fst, addressee?, Option.isSome_map, Roster.member?, List.find?_isSome]
  simp only [Descriptor.same_iff]

/-- **What a registry holds.** After any calls no two members are the same module or share a slot,
the members are the registrations that no later call has ended, in the order in which they were
made, their number is the published one, and every slot is below the largest number of members so
far. If a module that is there already is registered, that is refused, and nothing changes. Any
other module is registered: it gets the lowest slot that nobody has, stands behind all others, who
stay where they are, and is counted. An acknowledgement is accepted of members only. -/
theorem membership_of_calls (cs : List RegistryCall) :
    let r := empty.calls cs
    (r.roster.Pairwise fun m n => m.descriptor.identity ≠ n.descriptor.identity) ∧
      (r.roster.Pairwise fun m n => m.slot ≠ n.slot) ∧
      r.roster = empty.survivors cs ∧
      r.count = r.roster.length ∧
      (∀ m ∈ r.roster, m.slot < empty.peak cs) ∧
      (∀ d i, (∃ m ∈ r.roster, m.descriptor.identity = d.identity) →
        r.register d i = .error (.duplicateModule d.display) ∧ r.call (.register d i) = r) ∧
      (∀ d i, (∀ m ∈ r.roster, m.descriptor.identity ≠ d.identity) →
        ∃ slot r', r.register d i = .ok (slot, r') ∧ r.call (.register d i) = r' ∧
          IsLeast {s | ∀ m ∈ r.roster, m.slot ≠ s} slot ∧
          r'.roster = r.roster ++ [⟨d, slot, i⟩] ∧ r'.count = r.roster.length + 1) ∧
      ∀ d ack, (r.deliverAck d ack).1 = true ↔
        ∃ m ∈ r.roster, m.descriptor.identity = d.identity := by
  intro r
  have inOrder : r.InOrder := inOrder_empty.calls cs
  have hsurvivors : r.roster = empty.survivors cs := (roster_calls empty cs).trans rfl
  have hpeak : ∀ m ∈ r.roster, m.slot < max 0 (empty.peak cs) :=
    slot_lt_of_mem_calls (fun m hm => absurd hm List.not_mem_nil)
  rw [Nat.zero_max] at hpeak
  refine ⟨inOrder.identities, inOrder.slots, hsurvivors, inOrder.count, hpeak,
    fun d i hd => ?_, fun d i hd => ?_, fun d ack => deliverAck_fst_iff ack⟩
  · have hd := Roster.contains_iff.mpr hd
    exact ⟨register_of_contains hd, call_register_of_contains hd⟩
  · have hd : r.roster.contains d = false :=
      Bool.eq_false_iff.mpr fun h => by
        obtain ⟨m, hm, hid⟩ := Roster.contains_iff.mp h
        exact hd m hm hid
    exact ⟨_, _, register_of_not_contains hd, call_register_of_not_contains hd,
      r.roster.isLeast_freeSlot, rfl, rfl⟩

end Registry

end Cadence
