import Cadence.Proofs.Membership
import Cadence.Proofs.Pulses
import Mathlib.Data.List.Induction

/-!
# Pulses that are shifted

At level `pulseShift` a module is pulsed some time after the beginning of the tick, and how much
later follows from the slot that it was given when it was registered. Nobody is ever renumbered, so
a module keeps its offset as long as it is registered, whoever comes and goes. Modules that are
registered at the same time have different slots, and hence different offsets, unless the offsets
grow beyond what the wire can tell.

Whom a tick still has to pulse stands in slot order, which is in general not the order of joining:
whoever takes the slot of a module that has left comes before those who have joined in between.

What is sent is read off the outbound queues of the members, and what is queued over any link is
nothing else.

## Main definitions

* `Scene.registered`: the registrations of a run, with the slots that were handed out
* `Sending`, `Scene.sent`: the pulses of a run, for whom and when
* `Scene.Placed`: whom a scene knows, it knows by the slot of the registration
* `Phase.InSlotOrder`: what is left of a tick

## Main results

* `SchedulerOptions.toNat_offsetOf`, `SchedulerOptions.toNat_offsetOf_eq_saturated`,
  `SchedulerOptions.offsetOf_ne`: offsets
* `Scene.shift_cases`: whom a move pulses, with which offset, and when
* `Scene.shifted_by_slot`: all pulses of any run
-/

namespace Cadence

/-! ### Offsets -/

namespace SchedulerOptions

variable {o : SchedulerOptions} {slot other : Nat}

/-- An offset is the slot times the shift, as far as 32 bits go. -/
theorem toNat_offsetOf : (o.offsetOf slot).toNat = min (slot * o.shift) (2 ^ 32 - 1) := by
  have hlt : min (o.shift * slot) (UInt32.size - 1) < UInt32.size :=
    Nat.lt_of_le_of_lt (Nat.min_le_right ..) (by decide)
  rw [offsetOf, UInt32.toNat_ofNat_of_lt' hlt, Nat.mul_comm]
  rfl

/-- If the factors and the product are kept within 64 bits first, nothing changes: whatever is cut
off there is too large for 32 bits anyway, unless the other factor is zero. -/
theorem toNat_offsetOf_eq_saturated : (o.offsetOf slot).toNat =
    min (min (min o.shift (2 ^ 64 - 1) * min slot (2 ^ 64 - 1)) (2 ^ 64 - 1)) (2 ^ 32 - 1) := by
  rw [toNat_offsetOf]
  rcases Nat.eq_zero_or_pos slot with rfl | hslot
  · simp
  rcases Nat.eq_zero_or_pos o.shift with hzero | hshift
  · simp [hzero]
  by_cases hsmall : o.shift ≤ 2 ^ 64 - 1 ∧ slot ≤ 2 ^ 64 - 1
  · rw [Nat.min_eq_left hsmall.1, Nat.min_eq_left hsmall.2, Nat.mul_comm]
    omega
  · have hexact : 2 ^ 64 - 1 ≤ slot * o.shift := by
      have := Nat.le_mul_of_pos_right slot hshift
      have := Nat.le_mul_of_pos_left o.shift hslot
      omega
    have hsaturated : 2 ^ 64 - 1 ≤ min o.shift (2 ^ 64 - 1) * min slot (2 ^ 64 - 1) := by
      have := Nat.le_mul_of_pos_right (min o.shift (2 ^ 64 - 1))
        (show 0 < min slot (2 ^ 64 - 1) by omega)
      have := Nat.le_mul_of_pos_left (min slot (2 ^ 64 - 1))
        (show 0 < min o.shift (2 ^ 64 - 1) by omega)
      omega
    omega

/-- Different slots have different offsets, unless the larger one needs more than 32 bits. -/
theorem offsetOf_ne (hne : slot ≠ other) (hshift : 1 ≤ o.shift)
    (hlt : max slot other * o.shift < 2 ^ 32) : o.offsetOf slot ≠ o.offsetOf other := by
  intro heq
  have hslot : slot * o.shift ≤ max slot other * o.shift :=
    Nat.mul_le_mul_right _ (Nat.le_max_left ..)
  have hother : other * o.shift ≤ max slot other * o.shift :=
    Nat.mul_le_mul_right _ (Nat.le_max_right ..)
  have hsame := congrArg UInt32.toNat heq
  rw [toNat_offsetOf, toNat_offsetOf, Nat.min_eq_left (by omega), Nat.min_eq_left (by omega)]
    at hsame
  exact hne (Nat.eq_of_mul_eq_mul_right hshift hsame)

end SchedulerOptions

/-! ### Slot order -/

namespace Scheduler

theorem bySlot_perm (members : Roster) : (bySlot members).Perm members :=
  List.mergeSort_perm ..

/-- Members with different slots come one after the other. -/
theorem bySlot_pairwise {members : Roster} (h : members.Pairwise fun m n => m.slot ≠ n.slot) :
    (bySlot members).Pairwise fun m n => m.slot < n.slot := by
  have hle : (bySlot members).Pairwise fun m n => decide (m.slot ≤ n.slot) :=
    List.pairwise_mergeSort (fun a b c hab hbc => by simp at *; omega)
      (fun a b => by simp; omega) members
  have hne := ((bySlot_perm members).pairwise_iff fun h => Ne.symm h).mpr h
  exact (hle.and hne).imp fun h => Nat.lt_of_le_of_ne (of_decide_eq_true h.1) h.2

end Scheduler

/-- What is left of a tick at level `pulseShift`: nothing, or members in slot order. -/
def Phase.InSlotOrder (φ : Phase) : Prop :=
  φ = .idle ∨ ∃ p base rest, φ = .shifting p base rest ∧
    rest.Pairwise fun m n => m.slot < n.slot

namespace Scheduler

variable {clock : TimeStamp} {now : Nat} {s s' : Scheduler} {x x' : Exchange}
  {es : List SchedulerEvent} {p : Pulse} {base : Nat} {rest : Roster}

/-- The pulse that a member gets at its offset. -/
def shiftedPulse (o : SchedulerOptions) (clock : TimeStamp) (p : Pulse) (m : Member) : Pulse :=
  { p with realTime := clock, offset := o.offsetOf m.slot }

/-- A tick in which pulses are shifted ends, or the next member is pulsed because it is time. -/
theorem SmallStep.of_shifting (h : SmallStep clock now s x s' x' es)
    (hp : s.phase = .shifting p base rest) :
    (s'.phase = .idle ∧ x' = x) ∨
    ∃ m rest', rest = m :: rest' ∧ s'.phase = .shifting p base rest' ∧
      base + (s.options.offsetOf m.slot).toNat ≤ now ∧
      x' = x.send m.link (.ofPayload clock (shiftedPulse s.options clock p m)) := by
  cases h with
  | finish => exact .inl ⟨rfl, rfl⟩
  | @shifted q b m rest' h due =>
    rw [h] at hp
    cases hp
    exact .inr ⟨m, rest', rfl, rfl, due, rfl⟩
  | pulse h | visit h | early h | drained h | reached h | missed h | answered h | other h | left h
  | timedOut h | resume h =>
    rw [h] at hp
    cases hp

theorem firstPhase_of_pulseShift {o : SchedulerOptions} (hlevel : o.level = .pulseShift) (now : Nat)
    (p : Pulse) (members : Roster) :
    firstPhase o now p members = .shifting p now (bySlot members) := by
  rw [firstPhase, hlevel]

end Scheduler

/-! ### Registrations and their slots -/

/-- What a move of others is to the roster. -/
def OutsideMove.call (r : Registry) : OutsideMove → RegistryCall
  | .join d => .register d r.links.length
  | .leave d => .connectionLost d
  | .acknowledge d ack => .deliverAck d ack
  | .stopAll clock => .stopAll clock
  | .takeOut .. | .hangUp _ | .conference _ => .openLink

namespace Registry

variable {r : Registry}

theorem roster_after (r : Registry) (o : OutsideMove) :
    (r.after o).roster = (r.call (o.call r)).roster := by
  cases o with
  | join d =>
    rw [after, OutsideMove.call]
    cases h : r.roster.contains d with
    | true => rw [join_of_not_admits (by simp [admits, h]), call_register_of_contains h]
    | false =>
      rw [join_of_admits (by simp [admits, h]), call_register_of_not_contains h]
      rfl
  | leave | acknowledge | stopAll | takeOut | hangUp | conference => rfl

/-- Whoever is there after a move of others was there before, or is registered in it. -/
theorem roster_after_subset_append (o : OutsideMove) :
    (r.after o).roster ⊆ r.roster ++ r.newcomers (o.call r) := by
  rw [roster_after, roster_call]
  exact List.append_subset.mpr ⟨fun m hm => List.mem_append_left _ (List.mem_of_mem_filter hm),
    List.subset_append_right ..⟩

/-- No two members share a slot, whatever others do. -/
theorem slots_after (h : r.roster.Pairwise fun m n => m.slot ≠ n.slot) (o : OutsideMove) :
    (r.after o).roster.Pairwise fun m n => m.slot ≠ n.slot := by
  rw [roster_after]
  exact pairwise_call h fun _ hm _ hn => (ne_of_mem_newcomers hm hn).2

end Registry

/-- A pulse that is queued for a member at some time. -/
structure Sending where
  member : Member
  pulse : Pulse
  time : Nat

namespace Scene

variable {s : Scene} {ms : List SceneMove} {m : SceneMove} {rs : Roster}

/-- The registration that is made in a move, with the slot that is handed out. -/
def newcomers (s : Scene) : SceneMove → Roster
  | .outside o => s.registry.newcomers (o.call s.registry)
  | .begin .. | .advance .. | .giveUp => []

/-- The registrations that are made during a run. -/
def registered (s : Scene) (ms : List SceneMove) : Roster := Run.seen step newcomers s ms

/-- The pulses that are queued in a move for those who are still to be pulsed. -/
def sendings (s : Scene) : SceneMove → List Sending
  | .advance clock now => s.phase.upcoming.flatMap fun n =>
      (pulsesIn n.link s (.advance clock now)).map fun p => ⟨n, p, now⟩
  | .outside _ | .begin .. | .giveUp => []

/-- The pulses that are sent during a run. -/
def sent (s : Scene) (ms : List SceneMove) : List Sending := Run.seen step sendings s ms

@[simp] theorem registered_nil : s.registered [] = [] := rfl

@[simp] theorem registered_cons :
    s.registered (m :: ms) = s.newcomers m ++ (s.step m).registered ms := rfl

@[simp] theorem sent_nil : s.sent [] = [] := rfl

@[simp] theorem sent_cons : s.sent (m :: ms) = s.sendings m ++ (s.step m).sent ms := rfl

/-- Registrations are what the queues and the acknowledgements know as such. -/
theorem enrolments_eq (m : SceneMove) :
    s.enrolments m = (s.newcomers m).map fun n => ⟨n.descriptor, n.link⟩ := by
  cases m with
  | outside o =>
    cases o with
    | join d =>
      rw [enrolments, newcomers, OutsideMove.call, Registry.admits]
      cases h : s.registry.roster.contains d with
      | true =>
        rw [Registry.newcomers_of_contains h]
        rfl
      | false =>
        rw [Registry.newcomers_of_not_contains h]
        rfl
    | leave | acknowledge | stopAll | takeOut | hangUp | conference => rfl
  | begin | advance | giveUp => rfl

theorem enrolled_eq (ms : List SceneMove) :
    s.enrolled ms = (s.registered ms).map fun n => ⟨n.descriptor, n.link⟩ := by
  induction ms generalizing s with
  | nil => rfl
  | cons m ms ih =>
    rw [enrolled_cons, enrolments_eq, ih, registered_cons, List.map_append]

/-- No two registrations of a run are over the same link. -/
theorem registered_pairwise (options : SchedulerOptions) (voice : Option ParticipantId)
    (hub : Hub) (ms : List SceneMove) :
    ((new options voice hub).registered ms).Pairwise fun m n => m.link ≠ n.link := by
  have hdistinct := (knownFrom_last_new options voice hub ms).distinct
  rwa [enrolled_eq, List.pairwise_map] at hdistinct

/-! ### Whom a scene knows, and by which slot -/

/-- Whom a scene knows, it knows from these registrations. No two members share a slot, and what is
left of a tick is in slot order. -/
structure Placed (rs : Roster) (s : Scene) : Prop where
  roster : s.registry.roster ⊆ rs
  members : s.phase.members ⊆ rs
  slots : s.registry.roster.Pairwise fun m n => m.slot ≠ n.slot
  order : s.phase.InSlotOrder

namespace Placed

theorem new (options : SchedulerOptions) (voice : Option ParticipantId) (hub : Hub) :
    Placed [] (new options voice hub) :=
  ⟨List.nil_subset _, List.nil_subset _, .nil, .inl rfl⟩

theorem begin (h : Placed rs s) (hlevel : s.scheduler.options.level = .pulseShift)
    (clock : TimeStamp) (now : Nat) : Placed rs (s.step (.begin clock now)) := by
  by_cases hidle : s.scheduler.isIdle = true
  · have hphase : (s.step (.begin clock now)).phase =
        .shifting (s.scheduler.nextPulse clock) now (Scheduler.bySlot s.registry.roster) := by
      rw [Scene.step, if_pos hidle]
      exact Scheduler.firstPhase_of_pulseShift hlevel ..
    have hreg := registry_begin (s := s) clock now
    refine ⟨hreg ▸ h.roster, fun m hm => h.roster ?_, hreg ▸ h.slots, ?_⟩
    · rw [hphase, Phase.members] at hm
      exact (Scheduler.bySlot_perm _).mem_iff.mp hm
    · rw [hphase]
      exact .inr ⟨_, _, _, rfl, Scheduler.bySlot_pairwise h.slots⟩
  · rwa [Scene.step, if_neg hidle]

/-- Small steps go on in slot order. -/
theorem advance (h : Placed rs s) (clock : TimeStamp) (now : Nat) :
    Placed rs (s.step (.advance clock now)) := by
  rcases s.advance_cases clock now with ⟨hstep, -⟩ | small
  · rwa [hstep]
  · have hroster : (s.step (.advance clock now)).registry.roster = s.registry.roster :=
      small.roster_eq
    refine ⟨hroster ▸ h.roster, fun m hm => h.members (small.members_subset hm),
      hroster ▸ h.slots, ?_⟩
    rcases h.order with hidle | ⟨p, base, rest, hphase, hrest⟩
    · exact absurd hidle small.phase_ne_idle
    · rcases small.of_shifting hphase with ⟨hidle, -⟩ | ⟨m, rest', rfl, hphase', -⟩
      · exact .inl hidle
      · exact .inr ⟨p, base, rest', hphase', (List.pairwise_cons.mp hrest).2⟩

/-- **Every move keeps it**, with the registration that is made. -/
theorem step (h : Placed rs s) (hlevel : s.scheduler.options.level = .pulseShift)
    (m : SceneMove) : Placed (rs ++ s.newcomers m) (s.step m) := by
  cases m with
  | outside o =>
    refine ⟨fun m hm => ?_, fun m hm => List.mem_append_left _ (h.members hm),
      Registry.slots_after h.slots o, h.order⟩
    rcases List.mem_append.mp (Registry.roster_after_subset_append o hm) with hold | hnew
    · exact List.mem_append_left _ (h.roster hold)
    · exact List.mem_append_right _ hnew
  | begin clock now =>
    rw [newcomers, List.append_nil]
    exact h.begin hlevel clock now
  | advance clock now =>
    rw [newcomers, List.append_nil]
    exact h.advance clock now
  | giveUp =>
    rw [newcomers, List.append_nil]
    exact ⟨h.roster, List.nil_subset _, h.slots, .inl rfl⟩

theorem last (h : Placed rs s) (hlevel : s.scheduler.options.level = .pulseShift)
    (ms : List SceneMove) : Placed (rs ++ s.registered ms) (s.last ms) := by
  induction ms generalizing s rs with
  | nil => rwa [registered_nil, List.append_nil]
  | cons m ms ih =>
    rw [registered_cons, ← List.append_assoc]
    exact ih (h.step hlevel m) ((congrArg _ (options_step m)).trans hlevel)

end Placed

/-- Whom a scene knows at the end of a run, it knows by a slot that was handed out in the run. -/
theorem placed_last_new {options : SchedulerOptions} (hlevel : options.level = .pulseShift)
    (voice : Option ParticipantId) (hub : Hub) (ms : List SceneMove) :
    Placed ((new options voice hub).registered ms) ((new options voice hub).last ms) :=
  (Placed.new options voice hub).last hlevel ms

/-! ### Who is pulsed in a move -/

theorem sendings_eq_nil (h : ∀ i, pulsesIn i s m = []) : s.sendings m = [] := by
  cases m with
  | advance clock now => simp [sendings, h]
  | outside | begin | giveUp => rfl

/-- Before the offset of the next member has passed, a small step does nothing. -/
theorem step_of_not_due {clock : TimeStamp} {now base : Nat} {p : Pulse} {n : Member}
    {rest : Roster} (hphase : s.phase = .shifting p base (n :: rest))
    (hearly : now < base + (s.scheduler.options.offsetOf n.slot).toNat) :
    s.step (.advance clock now) = s := by
  have hnone : s.scheduler.advance clock now s.exchange = none := by
    rw [Scheduler.advance, show s.scheduler.phase = _ from hphase]
    exact if_neg (Nat.not_le_of_lt hearly)
  rw [step, hnone]

/-- When it has passed, a small step queues the pulse. -/
theorem step_of_due {clock : TimeStamp} {now base : Nat} {p : Pulse} {n : Member}
    {rest : Roster} (hphase : s.phase = .shifting p base (n :: rest))
    (due : base + (s.scheduler.options.offsetOf n.slot).toNat ≤ now) :
    s.step (.advance clock now) = ⟨{ s.scheduler with phase := .shifting p base rest },
      s.exchange.send n.link
        (.ofPayload clock (Scheduler.shiftedPulse s.scheduler.options clock p n))⟩ := by
  rw [step, (Scheduler.SmallStep.shifted hphase due).advance_eq]
  rfl

/-- In a turn one member is pulsed, if its end of the link is there, and nobody else. -/
theorem sendings_of_turn {clock : TimeStamp} {now base : Nat} {p q : Pulse} {n : Member}
    {rest : Roster} (hphase : s.phase = .shifting p base (n :: rest))
    (hdistinct : s.phase.upcoming.Pairwise fun m n => m.link ≠ n.link)
    (hsend : (s.step (.advance clock now)).exchange =
      s.exchange.send n.link (.ofPayload clock q)) :
    (∀ i, pulsesIn i s (.advance clock now) =
      if n.link = i ∧ (s.registry.link i).isOpen = true then [q] else []) ∧
      s.sendings (.advance clock now) =
        if (s.registry.link n.link).isOpen then [⟨n, q, now⟩] else [] := by
  have hpulses (i : LinkId) : pulsesIn i s (.advance clock now) =
      if n.link = i ∧ (s.registry.link i).isOpen = true then [q] else [] := by
    have hout := Registry.outbound_send (r := s.registry) (i := n.link) (j := i)
      (.ofPayload clock q)
    have hlink := congrArg (fun x => (x.registry.link i).outbound) hsend
    rw [pulsesIn_of_append (hlink.trans hout)]
    split <;> simp [Envelope.pulse?_ofPayload]
  refine ⟨hpulses, ?_⟩
  rw [hphase, Phase.upcoming] at hdistinct
  have hrest : rest.flatMap (fun k =>
      (pulsesIn k.link s (.advance clock now)).map fun p => Sending.mk k p now) = [] := by
    refine List.flatMap_eq_nil_iff.mpr fun k hk => ?_
    rw [hpulses, if_neg fun h => (List.pairwise_cons.mp hdistinct).1 k hk h.1, List.map_nil]
  rw [sendings, hphase, Phase.upcoming, List.flatMap_cons, hrest, List.append_nil, hpulses]
  split <;> simp_all

/-- **A move within a tick pulses nobody, or it is the turn of the next in slot order.** Then its
offset has passed, and it is pulsed with this offset if its end of the link is there. Nobody else is
pulsed. -/
theorem shift_cases (hsound : s.registry.Sound) (horder : s.phase.InSlotOrder)
    (hdistinct : s.phase.upcoming.Pairwise fun m n => m.link ≠ n.link)
    (hm : m.isWithinTick = true) :
    (((s.step m).phase = s.phase ∨ (s.step m).phase = .idle) ∧ (∀ i, pulsesIn i s m = []) ∧
      s.sendings m = []) ∨
    ∃ clock now p base n rest, m = .advance clock now ∧ s.phase = .shifting p base (n :: rest) ∧
      (s.step m).phase = .shifting p base rest ∧
      base + (s.scheduler.options.offsetOf n.slot).toNat ≤ now ∧
      let q := Scheduler.shiftedPulse s.scheduler.options clock p n
      (∀ i, pulsesIn i s m = if n.link = i ∧ (s.registry.link i).isOpen = true then [q] else []) ∧
      s.sendings m = if (s.registry.link n.link).isOpen then [⟨n, q, now⟩] else [] := by
  have hquiet (hphase : (s.step m).phase = s.phase ∨ (s.step m).phase = .idle)
      (hnone : ∀ i, pulsesIn i s m = []) :
      ((s.step m).phase = s.phase ∨ (s.step m).phase = .idle) ∧ (∀ i, pulsesIn i s m = []) ∧
        s.sendings m = [] := ⟨hphase, hnone, sendings_eq_nil hnone⟩
  cases m with
  | outside o => exact .inl (hquiet (.inl rfl) fun i => pulsesIn_outside hsound o)
  | advance clock now =>
    rcases s.advance_cases clock now with ⟨hstep, -⟩ | small
    · exact .inl (hquiet (.inl (by rw [hstep])) fun i => pulsesIn_eq_nil (by rw [hstep]))
    · rcases horder with hidle | ⟨p, base, rest, hphase, -⟩
      · exact absurd hidle small.phase_ne_idle
      · rcases small.of_shifting hphase with ⟨hidle, hsame⟩ | ⟨n, rest, rfl, hphase', due, hsend⟩
        · exact .inl (hquiet (.inr hidle) fun i => pulsesIn_eq_nil (by rw [registry, hsame]; rfl))
        · refine .inr ⟨clock, now, p, base, n, rest, rfl, hphase, hphase', due, ?_⟩
          exact sendings_of_turn hphase hdistinct hsend
  | begin | giveUp => cases hm

/-! ### The pulses of a run -/

section

variable (hsound : s.registry.Sound) (horder : s.phase.InSlotOrder)
  (hdistinct : s.phase.upcoming.Pairwise fun m n => m.link ≠ n.link)
include hsound horder hdistinct

/-- Who is pulsed in a move is one of those that the tick found, and the offset is the one of its
slot. -/
theorem offset_of_mem_sendings {x : Sending} (hx : x ∈ s.sendings m) :
    x.member ∈ s.phase.members ∧
      x.pulse.offset = s.scheduler.options.offsetOf x.member.slot := by
  have hm : m.isWithinTick = true := by
    cases m with
    | outside | advance => rfl
    | begin | giveUp => cases hx
  rcases shift_cases hsound horder hdistinct hm with
    ⟨-, -, hnone⟩ | ⟨clock, now, p, base, n, rest, -, hphase, -, -, -, hsend⟩
  · rw [hnone] at hx
    cases hx
  · rw [hsend] at hx
    split at hx
    · obtain rfl := List.mem_singleton.mp hx
      exact ⟨by rw [hphase]; exact List.mem_cons_self, rfl⟩
    · cases hx

/-- What is queued over a link in a move is what is sent to the member with this link. -/
theorem pulsesIn_eq_sendings (m : SceneMove) (i : LinkId) :
    pulsesIn i s m = ((s.sendings m).filter (·.member.link == i)).map (·.pulse) := by
  cases m with
  | begin clock now => exact pulsesIn_begin clock now
  | giveUp => exact pulsesIn_giveUp
  | outside o => exact pulsesIn_outside hsound o
  | advance clock now =>
    rcases shift_cases hsound horder hdistinct (m := .advance clock now) rfl with
      ⟨-, hnone, hsend⟩ | ⟨_, _, p, base, n, rest, -, -, -, -, hpulses, hsend⟩
    · rw [hnone, hsend]
      rfl
    · rw [hpulses, hsend]
      by_cases hlink : n.link = i
      · subst hlink
        cases (s.registry.link n.link).isOpen <;> simp
      · rw [if_neg fun h => hlink h.1]
        split <;> simp [hlink]

/-- Until a tick ends members are pulsed one after the other, as they stand in the tick, and none of
them before its offset has passed. -/
theorem sent_within_tick {base : Nat}
    (hbase : s.phase = .idle ∨ ∃ p rest, s.phase = .shifting p base rest)
    (hms : ∀ m ∈ ms, m.isWithinTick = true) :
    ((s.sent ms).map (·.member)).Sublist s.phase.upcoming ∧
      ∀ x ∈ s.sent ms, base + x.pulse.offset.toNat ≤ x.time := by
  induction ms generalizing s with
  | nil => exact ⟨List.nil_sublist _, fun x hx => absurd hx List.not_mem_nil⟩
  | cons m ms ih =>
    have hms' : ∀ n ∈ ms, n.isWithinTick = true := fun n hn => hms n (List.mem_cons_of_mem _ hn)
    have ih := fun horder hdistinct hbase =>
      ih (s := s.step m) (sound_step hsound m) horder hdistinct hbase hms'
    rw [sent_cons]
    rcases shift_cases hsound horder hdistinct (hms m List.mem_cons_self) with
      ⟨hphase, -, hnone⟩ | ⟨clock, now, p, b, n, rest, -, hphase, hphase', due, -, hsend⟩
    · rw [hnone, List.nil_append]
      rcases hphase with hsame | hidle
      · rw [hsame] at ih
        exact ih horder hdistinct hbase
      · -- The tick is over, and no move of the rest begins another one.
        rw [hidle] at ih
        obtain ⟨hsub, hdue⟩ := ih (.inl rfl) .nil (.inl rfl)
        exact ⟨hsub.trans (List.nil_sublist _), hdue⟩
    · obtain rfl : b = base := by
        rcases hbase with hidle | ⟨_, _, h⟩
        · rw [hphase] at hidle
          cases hidle
        · rw [hphase] at h
          cases h
          rfl
      rw [hphase] at horder hdistinct ⊢
      rw [hphase'] at ih
      have horder' : (Phase.shifting p b rest).InSlotOrder := by
        rcases horder with hidle | ⟨_, _, _, h, hslots⟩
        · cases hidle
        · cases h
          exact .inr ⟨p, b, rest, rfl, (List.pairwise_cons.mp hslots).2⟩
      obtain ⟨hsub, hdue⟩ := ih horder' (List.pairwise_cons.mp hdistinct).2 (.inr ⟨p, rest, rfl⟩)
      rw [hsend]
      -- A member whose end of the link is gone is passed over.
      split
      · refine ⟨hsub.cons_cons n, fun x hx => ?_⟩
        rcases List.mem_cons.mp hx with rfl | hx
        · exact due
        · exact hdue x hx
      · exact ⟨hsub.cons n, hdue⟩

end

section

variable {options : SchedulerOptions} (hlevel : options.level = .pulseShift)
  (voice : Option ParticipantId) (hub : Hub)
include hlevel

/-- Whoever is pulsed in a run was registered in it, and is pulsed with the offset of its slot. -/
theorem offset_of_mem_sent {x : Sending} (hx : x ∈ (new options voice hub).sent ms) :
    x.member ∈ (new options voice hub).registered ms ∧
      x.pulse.offset = options.offsetOf x.member.slot := by
  obtain ⟨before, m, later, rfl, hm⟩ := Run.mem_seen_iff.mp hx
  have hplaced := placed_last_new hlevel voice hub before
  obtain ⟨hmember, hoffset⟩ := offset_of_mem_sendings (sound_last_new options voice hub before)
    hplaced.order (counted_last_new options voice hub before).distinct hm
  refine ⟨?_, hoffset.trans ?_⟩
  · rw [registered, Run.seen_append]
    exact List.mem_append_left _ (hplaced.members hmember)
  · exact congrArg (fun o : SchedulerOptions => o.offsetOf x.member.slot)
      (options_last (s := new options voice hub) before)

/-- The pulses over a link are those that are sent to the member with this link. -/
theorem pulsesOn_eq_sent (ms : List SceneMove) (i : LinkId) :
    (new options voice hub).pulsesOn ms i =
      (((new options voice hub).sent ms).filter (·.member.link == i)).map (·.pulse) := by
  induction ms using List.reverseRecOn with
  | nil => rfl
  | append_singleton ms m ih =>
    have hm := pulsesIn_eq_sendings (sound_last_new options voice hub ms)
      (placed_last_new hlevel voice hub ms).order
      (counted_last_new options voice hub ms).distinct m i
    rw [pulsesOn, sent, Run.seen_append_singleton, Run.seen_append_singleton, List.filter_append,
      List.map_append]
    exact congrArg₂ _ ih hm

/-- The pulses of a tick, in slot order. -/
theorem sent_of_tick (past : List SceneMove) (clock : TimeStamp) (base : Nat)
    (hidle : ((new options voice hub).last past).scheduler.isIdle = true)
    (hms : ∀ m ∈ ms, m.isWithinTick = true) :
    let s := (new options voice hub).last past
    ((s.sent (.begin clock base :: ms)).Pairwise fun x y => x.member.slot < y.member.slot) ∧
      ∀ x ∈ s.sent (.begin clock base :: ms), base + x.pulse.offset.toNat ≤ x.time := by
  intro s
  have hplaced : Placed ((new options voice hub).registered past) s :=
    placed_last_new hlevel voice hub past
  have hoptions : s.scheduler.options = options := options_last (s := new options voice hub) past
  have hphase : (s.step (.begin clock base)).phase =
      .shifting (s.scheduler.nextPulse clock) base (Scheduler.bySlot s.registry.roster) := by
    rw [step, if_pos hidle]
    exact Scheduler.firstPhase_of_pulseShift ((congrArg _ hoptions).trans hlevel) ..
  have hcounted := (counted_last_new options voice hub past).step
    (sound_last_new options voice hub past) (.begin clock base)
  obtain ⟨hsub, hdue⟩ := sent_within_tick
    (sound_step (sound_last_new options voice hub past) (.begin clock base))
    (hplaced.begin ((congrArg _ hoptions).trans hlevel) clock base).order hcounted.distinct
    (.inr ⟨_, _, hphase⟩) hms
  rw [hphase, Phase.upcoming] at hsub
  have hslots := (Scheduler.bySlot_pairwise hplaced.slots).sublist hsub
  rw [List.pairwise_map] at hslots
  exact ⟨hslots, hdue⟩

end

/-- **Pulses are shifted by the slot of the registration.** In any run at level `pulseShift`,
whoever comes and goes, all that is queued as a pulse is sent to somebody who was registered in the
run, and carries the offset of the slot that was handed out then, which is the slot times the shift
as far as 32 bits go; over a link, which belongs to one registration, it is the same in every tick.
Two modules that are registered at the same time have different offsets, if the shift is not zero
and the larger one is within 32 bits. In a tick members are pulsed in the order of their slots, and
nobody before its offset has passed since the tick began. -/
theorem shifted_by_slot (options : SchedulerOptions) (voice : Option ParticipantId) (hub : Hub)
    (hlevel : options.level = .pulseShift) :
    let s₀ := new options voice hub
    (∀ ms, (s₀.registered ms).Pairwise (fun m n => m.link ≠ n.link) ∧
      (s₀.last ms).registry.roster ⊆ s₀.registered ms ∧
      (∀ i, s₀.pulsesOn ms i =
        ((s₀.sent ms).filter (·.member.link == i)).map (·.pulse)) ∧
      (∀ x ∈ s₀.sent ms, x.member ∈ s₀.registered ms ∧
        x.pulse.offset.toNat = min (x.member.slot * options.shift) (2 ^ 32 - 1)) ∧
      ∀ x ∈ s₀.sent ms, ∀ y ∈ s₀.sent ms, x.member.link = y.member.link →
        x.member = y.member ∧ x.pulse.offset = y.pulse.offset) ∧
    (∀ past ms, ∀ x ∈ s₀.sent (past ++ ms), ∀ y ∈ s₀.sent (past ++ ms),
      x.member ∈ (s₀.last past).registry.roster → y.member ∈ (s₀.last past).registry.roster →
      x.member ≠ y.member → 1 ≤ options.shift →
      max x.member.slot y.member.slot * options.shift < 2 ^ 32 →
      x.pulse.offset ≠ y.pulse.offset) ∧
    ∀ past clock base ms, (s₀.last past).scheduler.isIdle = true →
      (∀ m ∈ ms, m.isWithinTick = true) →
      let tick := (s₀.last past).sent (.begin clock base :: ms)
      (tick.Pairwise fun x y => x.member.slot < y.member.slot) ∧
        ∀ x ∈ tick, base + x.pulse.offset.toNat ≤ x.time := by
  intro s₀
  have hoffset {ms : List SceneMove} {x : Sending} (hx : x ∈ s₀.sent ms) :
      x.member ∈ s₀.registered ms ∧ x.pulse.offset = options.offsetOf x.member.slot :=
    offset_of_mem_sent hlevel voice hub hx
  refine ⟨fun ms => ⟨registered_pairwise options voice hub ms,
      (placed_last_new hlevel voice hub ms).roster, pulsesOn_eq_sent hlevel voice hub ms,
      fun x hx => ⟨(hoffset hx).1, by rw [(hoffset hx).2, SchedulerOptions.toNat_offsetOf]⟩,
      fun x hx y hy hlink => ?_⟩,
    fun past ms x hx y hy hxr hyr hne hshift hlt => ?_, fun past clock base ms hidle hms => ?_⟩
  · have hsame : x.member = y.member := by
      have : Std.Symm fun m n : Member => m.link ≠ n.link := ⟨fun _ _ h => h.symm⟩
      by_contra hne
      exact (registered_pairwise options voice hub ms).forall (hoffset hx).1 (hoffset hy).1 hne
        hlink
    exact ⟨hsame, by rw [(hoffset hx).2, (hoffset hy).2, hsame]⟩
  · have : Std.Symm fun m n : Member => m.slot ≠ n.slot := ⟨fun _ _ h => h.symm⟩
    have hslots : x.member.slot ≠ y.member.slot :=
      (placed_last_new hlevel voice hub past).slots.forall hxr hyr hne
    rw [(hoffset hx).2, (hoffset hy).2]
    exact SchedulerOptions.offsetOf_ne hslots hshift hlt
  · exact sent_of_tick hlevel voice hub past clock base hidle hms

/-- The first slot is handed out again, to somebody who has joined last and is pulsed first. -/
theorem shifted_newcomer_first :
    let options : SchedulerOptions := { level := .pulseShift }
    let s₀ := new options none .empty
    let past : List SceneMove :=
      [.outside (.join ⟨"alpha", none, "1"⟩), .outside (.join ⟨"beta", none, "1"⟩),
        .outside (.leave ⟨"alpha", none, "1"⟩), .outside (.join ⟨"gamma", none, "1"⟩)]
    let tick := (s₀.last past).sent
      [.begin .unset 0, .advance .unset 0, .advance .unset 9999, .advance .unset 10000]
    options.level = .pulseShift ∧
      (s₀.last past).registry.roster.map (fun m => (m.descriptor.name, m.slot)) =
        [("beta", 1), ("gamma", 0)] ∧
      tick.map (fun x => (x.member.descriptor.name, x.pulse.offset, x.time)) =
        [("gamma", 0, 0), ("beta", 10000, 10000)] ∧
      tick.Pairwise fun x y => x.member.slot < y.member.slot := by
  intro options s₀ past tick
  have hlevel : options.level = .pulseShift := rfl
  have hslots := ((shifted_by_slot options none .empty hlevel).2.2 past .unset 0
    [.advance .unset 0, .advance .unset 9999, .advance .unset 10000] (by decide +kernel)
    (by decide)).1
  refine ⟨hlevel, by decide +kernel, ?_, hslots⟩
  let beta : Member := ⟨⟨"beta", none, "1"⟩, 1, 1⟩
  let gamma : Member := ⟨⟨"gamma", none, "1"⟩, 0, 2⟩
  let p := (s₀.last past).scheduler.nextPulse .unset
  let first := Scheduler.shiftedPulse options .unset p gamma
  let second := Scheduler.shiftedPulse options .unset p beta
  let s₁ := (s₀.last past).step (.begin .unset 0)
  let s₂ : Scene := ⟨{ s₁.scheduler with phase := .shifting p 0 [beta] },
    s₁.exchange.send 2 (.ofPayload .unset first)⟩
  have hphase : s₁.phase = .shifting p 0 [gamma, beta] := by
    have hsort : Scheduler.bySlot [beta, gamma] = [gamma, beta] := by
      simp [beta, gamma, Scheduler.bySlot, List.mergeSort]
    rw [← hsort]
    rfl
  have hphase₂ : s₂.phase = .shifting p 0 [beta] := rfl
  have hstep₁ : s₁.step (.advance .unset 0) = s₂ := step_of_due hphase (by decide +kernel)
  have hstep₂ : s₂.step (.advance .unset 9999) = s₂ :=
    step_of_not_due hphase₂ (by decide +kernel)
  have hstep₃ : s₂.step (.advance .unset 10000) = _ := step_of_due hphase₂ (by decide +kernel)
  have hsend₁ : s₁.sendings (.advance .unset 0) = [⟨gamma, first, 0⟩] :=
    (sendings_of_turn hphase (by rw [hphase]; decide +kernel) (congrArg exchange hstep₁)).2
  have hsend₂ : s₂.sendings (.advance .unset 9999) = [] :=
    sendings_eq_nil fun i => pulsesIn_eq_nil (by rw [hstep₂])
  have hsend₃ : s₂.sendings (.advance .unset 10000) = [⟨beta, second, 10000⟩] :=
    (sendings_of_turn hphase₂ (by decide +kernel) (congrArg exchange hstep₃)).2
  have htick : tick = s₁.sendings (.advance .unset 0) ++
      (s₁.step (.advance .unset 0)).sent [.advance .unset 9999, .advance .unset 10000] := rfl
  rw [htick, hsend₁, hstep₁, sent_cons, hsend₂, hstep₂, sent_cons, hsend₃, sent_nil]
  decide +kernel

end Scene

end Cadence
