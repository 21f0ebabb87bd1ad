import Cadence.Proofs.Membership
import Mathlib.Data.List.Induction

/-!
# The published number of members, when calls overlap

A call that changes the roster publishes the number of members afterwards. The roster is locked for
the change only, so other calls can change it, and publish their numbers, before this one publishes
the number that it has found. Here each call is made in these two steps, and the steps of all calls
are taken in any order.

Every call publishes once, and what is published in the end is what the last call to publish has
found. That is the number of members if this call found as many members as the last call to change
the roster did, and not otherwise: two modules that join at the same time can leave a number behind
that counts one of them. It stays until the next call publishes.

## Main definitions

* `Finding`: the number of members that a call has found
* `CallsUnderway`, `CallStep`: a registry while calls are made, and their steps
* `CallsUnderway.found`, `CallsUnderway.published`: what calls find and what they publish

## Main results

* `CallsUnderway.account_last`: what is found, what is published, and what is still to be published
* `CallsUnderway.count_eq_length_iff`: when the published number is right
* `CallsUnderway.overlapping_joins_miscounted`: when it is not
-/

namespace Cadence

/-- What a call has found that has changed the roster. -/
structure Finding where
  /-- How many calls had changed the roster before. -/
  turn : Nat
  /-- The number of members after the change. -/
  members : Nat
  deriving DecidableEq, Repr

/-- A registry while calls are made. -/
structure CallsUnderway where
  registry : Registry
  /-- How many calls have changed the roster. -/
  turns : Nat
  /-- What the calls have found that have not published it yet, in the order of their changes. -/
  unpublished : List Finding

/-- A step of a call. -/
inductive CallStep where
  /-- A module joins. If it is there already, the call ends with this step. -/
  | enroll (d : Descriptor) (i : LinkId)
  /-- A module leaves. If it is not there, the call ends with this step. -/
  | dismiss (d : Descriptor)
  /-- All leave. -/
  | clear
  /-- Of the calls that are still to publish, the one in this place does so. -/
  | publish (place : Nat)

namespace CallsUnderway

/-- A registry without members, of which nobody has made a call. -/
def fresh : CallsUnderway := ⟨.empty, 0, []⟩

/-- A call has changed the roster, and is to publish the number of members. -/
def changed (s : CallsUnderway) (r : Registry) : CallsUnderway :=
  ⟨r, s.turns + 1, s.unpublished ++ [⟨s.turns, r.roster.length⟩]⟩

/-- The registry that a step leaves when it changes the roster. -/
def change? (s : CallsUnderway) : CallStep → Option Registry
  | .enroll d i => (s.registry.enroll d i).toOption
  | .dismiss d => if s.registry.roster.contains d then some (s.registry.dismiss d) else none
  | .clear => some s.registry.clear
  | .publish _ => none

/-- What is published in a step. -/
def publication? (s : CallsUnderway) : CallStep → Option Finding
  | .publish place => s.unpublished[place]?
  | .enroll .. | .dismiss _ | .clear => none

/-- The registry after a step. -/
def after (s : CallsUnderway) : CallStep → CallsUnderway
  | .publish place =>
    match s.unpublished[place]? with
    | some finding =>
      { s with
        registry := s.registry.publishCount finding.members
        unpublished := s.unpublished.eraseIdx place }
    | none => s
  | c@(.enroll ..) | c@(.dismiss _) | c@.clear => ((s.change? c).map s.changed).getD s

/-- The registry after these steps. -/
def last (s : CallsUnderway) (steps : List CallStep) : CallsUnderway := Run.last after s steps

/-- What calls find during these steps, in the order of their changes. -/
def found (s : CallsUnderway) (steps : List CallStep) : List Finding :=
  Run.seen after (fun s c => ((s.change? c).map (⟨s.turns, ·.roster.length⟩)).toList) s steps

/-- What calls publish during these steps, in this order. -/
def published (s : CallsUnderway) (steps : List CallStep) : List Finding :=
  Run.seen after (fun s c => (s.publication? c).toList) s steps

variable {s : CallsUnderway} {r : Registry} {c : CallStep} {steps : List CallStep}

/-! ### Calls that are not interrupted -/

/-- Whoever registers a module without being interrupted makes a whole call. -/
theorem registry_last_register (hnone : s.unpublished = []) (d : Descriptor) (i : LinkId) :
    (s.last [.enroll d i, .publish 0]).registry = s.registry.call (.register d i) := by
  cases h : s.registry.roster.contains d with
  | true => simp [last, after, change?, Registry.enroll, Roster.enroll, h, hnone, Except.map,
      Except.toOption, Registry.call_register_of_contains]
  | false => simp [last, after, change?, changed, Registry.enroll, Roster.enroll, h, hnone,
      Except.map, Except.toOption, Registry.call_register_of_not_contains]

/-- Whoever removes a module without being interrupted makes a whole call. -/
theorem registry_last_remove (hnone : s.unpublished = []) (d : Descriptor) :
    (s.last [.dismiss d, .publish 0]).registry = s.registry.call (.remove d) := by
  cases h : s.registry.roster.contains d with
  | true => simp [last, after, change?, changed, h, hnone, Registry.call, Registry.remove]
  | false => simp [last, after, change?, h, hnone, Registry.call, Registry.remove]

/-- Whoever stops all without being interrupted makes a whole call, up to what the members are
told. -/
theorem registry_last_stopAll (hnone : s.unpublished = []) (now : TimeStamp) :
    (s.last [.clear, .publish 0]).registry.sendStop now s.registry.roster =
      s.registry.call (.stopAll now) := by
  simp [last, after, change?, changed, hnone, Registry.call, Registry.stopAll, Registry.clear]

/-! ### One step -/

theorem after_of_change? (h : s.change? c = some r) :
    s.after c = s.changed r ∧ s.publication? c = none := by
  cases c with
  | publish place => cases h
  | enroll d i | dismiss d | clear => exact ⟨by rw [after, h]; rfl, rfl⟩

theorem after_of_publication? {finding : Finding} (h : s.publication? c = some finding) :
    ∃ place, s.unpublished[place]? = some finding ∧ s.change? c = none ∧
      s.after c = { s with
        registry := s.registry.publishCount finding.members
        unpublished := s.unpublished.eraseIdx place } := by
  cases c with
  | publish place =>
    rw [publication?] at h
    exact ⟨place, h, rfl, by simp only [after, h]⟩
  | enroll d i | dismiss d | clear => cases h

/-- A step in which a call neither changes the roster nor publishes changes nothing. -/
theorem after_eq_self (h : s.change? c = none) (h' : s.publication? c = none) :
    s.after c = s := by
  cases c with
  | publish place =>
    rw [publication?] at h'
    simp only [after, h']
  | enroll d i | dismiss d | clear => rw [after, h]; rfl

/-- A registry is only changed by what is called a change, and only counts what is published. -/
theorem count_changed (h : s.change? c = some r) : r.count = s.registry.count := by
  cases c with
  | enroll d i =>
    rw [change?, Registry.enroll] at h
    cases hroster : s.registry.roster.enroll d i with
    | error error => simp [hroster, Except.map, Except.toOption] at h
    | ok roster =>
      obtain rfl : { s.registry with roster } = r := by
        simpa [hroster, Except.map, Except.toOption] using h
      rfl
  | dismiss d =>
    rw [change?] at h
    split at h
    · cases h
      rfl
    · cases h
  | clear =>
    cases h
    rfl
  | publish place => cases h

/-! ### Whole runs -/

/-- The accounts of a registry: the findings, the publications, and what they amount to. -/
structure Account (s : CallsUnderway) (found published : List Finding) : Prop where
  turns : found.map (·.turn) = List.range s.turns
  /-- What is found is published, or still to be published. -/
  perm : found.Perm (published ++ s.unpublished)
  members : s.registry.roster.length = (found.getLast?.map (·.members)).getD 0
  count : s.registry.count = (published.getLast?.map (·.members)).getD 0

theorem account_fresh : fresh.Account [] [] := ⟨rfl, .nil, rfl, rfl⟩

/-- The accounts after a step. -/
theorem Account.step {fs ps : List Finding} (h : s.Account fs ps) (c : CallStep) :
    (s.after c).Account (fs ++ ((s.change? c).map (⟨s.turns, ·.roster.length⟩)).toList)
      (ps ++ (s.publication? c).toList) := by
  cases hchange : s.change? c with
  | some r =>
    obtain ⟨hafter, hpublication⟩ := after_of_change? hchange
    rw [hafter, hpublication]
    refine ⟨?_, ?_, by simp [changed], ?_⟩
    · simp [changed, h.turns, List.range_succ]
    · simpa [changed] using h.perm.append_right [⟨s.turns, r.roster.length⟩]
    · simpa [changed, count_changed hchange] using h.count
  | none =>
    cases hpublication : s.publication? c with
    | some finding =>
      obtain ⟨place, hplace, -, hafter⟩ := after_of_publication? hpublication
      rw [hafter]
      refine ⟨by simpa using h.turns, ?_, by simpa [Registry.publishCount] using h.members,
        by simp [Registry.publishCount]⟩
      -- The finding goes from those that are to be published to those that are published.
      obtain ⟨hlt, rfl⟩ := List.getElem?_eq_some_iff.mp hplace
      have hmoved := List.getElem_cons_eraseIdx_perm hlt
      simpa using h.perm.trans (hmoved.symm.append_left ps)
    | none => simpa [after_eq_self hchange hpublication] using h

/-- The accounts at the end of any run. -/
theorem account_last (steps : List CallStep) :
    (fresh.last steps).Account (fresh.found steps) (fresh.published steps) := by
  induction steps using List.reverseRecOn with
  | nil => exact account_fresh
  | append_singleton steps c ih =>
    rw [last, Run.last_append, found, Run.seen_append_singleton, published,
      Run.seen_append_singleton]
    exact ih.step c

/-- **When the published number is right.** Take the steps of any calls in any order, such that all
calls have come to their end. Each of the calls that changed the roster has published once what it
found. There are as many members as the last of them to change the roster has found, and published
is what the last of them to publish has found. So the published number is that of the members if and
only if these two calls have found the same; and that is so if they are the same call. -/
theorem count_eq_length_iff (steps : List CallStep)
    (hdone : (fresh.last steps).unpublished = []) :
    let r := (fresh.last steps).registry
    (fresh.published steps).Perm (fresh.found steps) ∧
      (fresh.found steps).map (·.turn) = List.range (fresh.found steps).length ∧
      r.roster.length = ((fresh.found steps).getLast?.map (·.members)).getD 0 ∧
      r.count = ((fresh.published steps).getLast?.map (·.members)).getD 0 ∧
      (r.count = r.roster.length ↔
        (fresh.published steps).getLast?.map (·.members) =
          (fresh.found steps).getLast?.map (·.members)) ∧
      ((fresh.published steps).getLast? = (fresh.found steps).getLast? →
        r.count = r.roster.length) := by
  intro r
  have account := account_last steps
  have hperm : (fresh.published steps).Perm (fresh.found steps) := by
    simpa [hdone] using account.perm.symm
  have hturns : (fresh.found steps).length = (fresh.last steps).turns := by
    simpa using congrArg List.length account.turns
  have hiff : r.count = r.roster.length ↔
      (fresh.published steps).getLast?.map (·.members) =
        (fresh.found steps).getLast?.map (·.members) := by
    rw [account.members, account.count]
    cases hfound : (fresh.found steps).getLast? with
    | none =>
      -- Nothing was found, so nothing was published.
      rw [List.getLast?_eq_none_iff] at hfound
      rw [hfound, List.perm_nil] at hperm
      simp [hperm]
    | some f =>
      cases hpublished : (fresh.published steps).getLast? with
      | none =>
        rw [List.getLast?_eq_none_iff] at hpublished
        rw [hpublished, List.nil_perm] at hperm
        simp [hperm] at hfound
      | some p => simp
  exact ⟨hperm, by rw [account.turns, hturns], account.members, account.count, hiff,
    fun h => hiff.mpr (by rw [h])⟩

/-- A module joins, another one joins before the first is counted, the first leaves, and the calls
publish in the order of their changes. -/
def overlappingInTurn : List CallStep :=
  let a : Descriptor := ⟨"cockpit", none, "1"⟩
  [.enroll a 0, .enroll ⟨"driver", none, "1"⟩ 1, .publish 0, .dismiss a, .publish 0, .publish 0]

/-- One member is left then, and one is counted. -/
theorem overlapping_in_turn_counted :
    (fresh.last overlappingInTurn).unpublished = [] ∧
      (fresh.published overlappingInTurn).map (·.members) = [1, 2, 1] ∧
      (fresh.last overlappingInTurn).registry.count =
        (fresh.last overlappingInTurn).registry.roster.length := by
  have hdone : (fresh.last overlappingInTurn).unpublished = [] := by decide
  obtain ⟨-, -, -, -, -, hright⟩ := count_eq_length_iff overlappingInTurn hdone
  exact ⟨hdone, by decide, hright (by decide)⟩

/-- Two modules join at the same time, and the call that was the first to change the roster is the
last to publish. Both calls are over, both modules are there, and one is counted. -/
theorem overlapping_joins_miscounted :
    let a : Descriptor := ⟨"cockpit", none, "1"⟩
    let b : Descriptor := ⟨"driver", none, "1"⟩
    let s := fresh.last [.enroll a 0, .enroll b 1, .publish 1, .publish 0]
    s.unpublished = [] ∧ s.registry.roster = [⟨a, 0, 0⟩, ⟨b, 1, 1⟩] ∧ s.registry.count = 1 := by
  decide

end CallsUnderway

end Cadence
