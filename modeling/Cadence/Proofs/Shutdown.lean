import Cadence.Proofs.SupercomponentRun
import Mathlib.Data.List.Induction

/-!
# Who is told to stop

When a supercomponent is told to stop, its scheduler finds that out at some time and tells every
member of the registry to stop. Here it is proved whom it reaches: the modules whose registration
came before that moment, whose session had not ended by then, and whose end of the link was there.
Nobody else is told, neither earlier nor later. A module whose session was in the middle of its
handshake then goes on to register and stays in the registry, and is never told.

## Main definitions

* `Supercomponent.registered`, `Supercomponent.ended`, `Supercomponent.told`: the links over which
  modules are registered, whose sessions end, and over which modules are told to stop
* `Supercomponent.Serving`: whoever is served is a member
* `Supercomponent.Recorded`: what is known of the members of a run

## Main results

* `Supercomponent.recorded_of_running`: who is a member as long as the scheduler runs
* `Supercomponent.eq_of_mem_tellings`: the only kind of move in which anybody is told
* `Supercomponent.mem_told_iff`: who is told to stop
-/

namespace Cadence

/-! ### What is seen of a run -/

/-- The link over which a module is registered when its session gets from stage to stage. -/
def SessionStage.registration? : SessionStage → SessionStage → Option LinkId
  | .greeted _, .serving _ l => some l
  | _, _ => none

/-- The link of the module whose session ends when it gets from stage to stage. That a session is
given up does not count. -/
def SessionStage.ending? : SessionStage → SessionStage → Option LinkId
  | .serving _ l, .leaving _ | .serving _ l, .over => some l
  | _, _ => none

theorem SessionStage.registration?_self (stage : SessionStage) :
    stage.registration? stage = none := by
  cases stage <;> rfl

theorem SessionStage.ending?_self (stage : SessionStage) : stage.ending? stage = none := by
  cases stage <;> rfl

/-- What becomes of a session that is given up. -/
theorem Session.exists_aborted {s t : Session} (h : s.abort = some t) :
    ∃ link?, t.stage = .aborted link? := by
  rw [abort] at h
  split at h <;> cases h <;> exact ⟨_, rfl⟩

namespace SessionStep

variable {r r' : Registry} {s t : Session} {l : LinkId}

/-- A session that registers its module does it over a new link. -/
theorem eq_of_registration (h : SessionStep r s t r')
    (hl : s.stage.registration? t.stage = some l) :
    l = r.links.length ∧ r'.links.length = l + 1 := by
  cases h with
  | enrolled hbefore admits hstage =>
    rw [hbefore, hstage] at hl
    cases hl
    rw [Registry.join_of_admits admits]
    exact ⟨rfl, Registry.length_links_openLink⟩
  | connection hstage | heeded _ _ hstage | wrote _ _ hstage | gaveUp _ hstage
  | wroteAll _ _ hstage =>
    rw [hstage, SessionStage.registration?_self] at hl
    cases hl
  | greeted hbefore _ | ended hbefore _ | closed hbefore _ =>
    rw [hbefore] at hl
    cases hl
  | refused _ hstage =>
    rw [hstage] at hl
    revert hl
    cases s.stage <;> simp [SessionStage.registration?]

end SessionStep

namespace Supercomponent

/-- What the sessions have done, from one state of the supercomponent to the next. -/
def changes (f : SessionStage → SessionStage → Option LinkId) (c c' : Supercomponent) :
    List LinkId :=
  (List.range c.acceptor.sessions.length).filterMap fun i =>
    (c.stage? i).bind fun before => (c'.stage? i).bind (f before)

/-- The links over which modules are registered during a run. -/
def registered (c : Supercomponent) (ms : List (TimeStamp × SupercomponentMove)) : List LinkId :=
  Run.seen after (fun c m => changes SessionStage.registration? c (c.after m)) c ms

/-- The links of the modules whose sessions end during a run. -/
def ended (c : Supercomponent) (ms : List (TimeStamp × SupercomponentMove)) : List LinkId :=
  Run.seen after (fun c m => changes SessionStage.ending? c (c.after m)) c ms

/-- The links on which the command to stop is queued in a move. -/
def tellings (c : Supercomponent) (m : TimeStamp × SupercomponentMove) : List LinkId :=
  (List.range c.registry.links.length).filter fun l =>
    ((c.after m).registry.link l).outbound =
      (c.registry.link l).outbound ++ [Registry.stopCommand m.1]

/-- The links on which the command to stop is queued during a run. -/
def told (c : Supercomponent) (ms : List (TimeStamp × SupercomponentMove)) : List LinkId :=
  Run.seen after tellings c ms

variable {c c' : Supercomponent} {es : List SchedulerEvent} {l : LinkId} {i : SessionId}
  {f : SessionStage → SessionStage → Option LinkId}

theorem mem_changes_iff : l ∈ changes f c c' ↔
    ∃ i before after, c.stage? i = some before ∧ c'.stage? i = some after ∧
      f before after = some l := by
  simp only [changes, List.mem_filterMap, List.mem_range, Option.bind_eq_some_iff]
  constructor
  · rintro ⟨i, -, before, hbefore, after, hafter, hf⟩
    exact ⟨i, before, after, hbefore, hafter, hf⟩
  · rintro ⟨i, before, after, hbefore, hafter, hf⟩
    obtain ⟨s, hs, -⟩ := Option.map_eq_some_iff.mp hbefore
    obtain ⟨hi, -⟩ := List.getElem?_eq_some_iff.mp hs
    exact ⟨i, hi, before, hbefore, after, hafter, hf⟩

/-- Where the sessions stay as they are nothing is done. -/
theorem changes_eq_nil (hf : ∀ stage, f stage stage = none)
    (h : ∀ i stage, c.stage? i = some stage → c'.stage? i = some stage) : changes f c c' = [] := by
  rw [List.eq_nil_iff_forall_not_mem]
  intro l hl
  obtain ⟨i, before, after, hbefore, hafter, hchange⟩ := mem_changes_iff.mp hl
  rw [h i before hbefore] at hafter
  cases hafter
  rw [hf] at hchange
  cases hchange

/-- Where one session gets from stage to stage, what is done is what that session does. -/
theorem mem_changes_set_iff (hf : ∀ stage, f stage stage = none) {s t : Session}
    (hs : c.acceptor.sessions[i]? = some s)
    (h : c'.acceptor.sessions = c.acceptor.sessions.set i t) :
    l ∈ changes f c c' ↔ f s.stage t.stage = some l := by
  obtain ⟨hi, -⟩ := List.getElem?_eq_some_iff.mp hs
  have hself : c'.stage? i = some t.stage := by
    rw [stage?, h, List.getElem?_set_self hi]
    rfl
  rw [mem_changes_iff]
  constructor
  · rintro ⟨j, before, after, hbefore, hafter, hchange⟩
    by_cases hij : i = j
    · subst hij
      rw [stage?, hs] at hbefore
      rw [hself] at hafter
      cases hbefore
      cases hafter
      exact hchange
    · rw [stage?, h, List.getElem?_set_ne hij] at hafter
      rw [stage?, hafter] at hbefore
      cases hbefore
      rw [hf] at hchange
      cases hchange
  · intro hchange
    exact ⟨i, s.stage, t.stage, by rw [stage?, hs]; rfl, hself, hchange⟩

/-! ### Who is served is a member -/

/-- Whoever is served is a member, over a link that no other session serves. -/
structure Serving (c : Supercomponent) : Prop where
  sound : c.registry.Sound
  member : ∀ i d l, c.stage? i = some (.serving d l) → ∃ slot, ⟨d, slot, l⟩ ∈ c.registry.roster
  distinct : ∀ i j d e l, c.stage? i = some (.serving d l) → c.stage? j = some (.serving e l) →
    i = j

theorem serving_fresh (now : Nat) (o : SupercomponentOptions) (voice : ParticipantId) (hub : Hub) :
    (fresh now o voice hub).Serving :=
  ⟨Registry.sound_empty, by simp [fresh, stage?, Acceptor.new],
    by simp [fresh, stage?, Acceptor.new]⟩

/-- Nothing is lost where the roster only grows and nobody new is served. -/
theorem Serving.mono (h : c.Serving) (hsound : c'.registry.Sound)
    (hroster : c.registry.roster ⊆ c'.registry.roster)
    (hstage : ∀ i d l, c'.stage? i = some (.serving d l) → c.stage? i = some (.serving d l)) :
    c'.Serving where
  sound := hsound
  member i d l hi := by
    obtain ⟨slot, hslot⟩ := h.member i d l (hstage i d l hi)
    exact ⟨slot, hroster hslot⟩
  distinct i j d e l hi hj := h.distinct i j d e l (hstage i d l hi) (hstage j e l hj)

/-- What becomes of the stages when one session moves. -/
theorem stage?_set {s t : Session} (hs : c.acceptor.sessions[i]? = some s)
    (h : c'.acceptor.sessions = c.acceptor.sessions.set i t) (j : SessionId) :
    c'.stage? j = if i = j then some t.stage else c.stage? j := by
  obtain ⟨hi, -⟩ := List.getElem?_eq_some_iff.mp hs
  rw [stage?, h]
  split
  · next hij =>
    subst hij
    rw [List.getElem?_set_self hi]
    rfl
  · next hij =>
    rw [List.getElem?_set_ne hij]
    rfl

theorem stage?_accept (j : SessionId) :
    ({ c with acceptor := { c.acceptor with
        sessions := c.acceptor.sessions ++ [.start] } } : Supercomponent).stage? j =
      if j = c.acceptor.sessions.length then some .greeting else c.stage? j := by
  by_cases hj : j = c.acceptor.sessions.length
  · simp [stage?, hj, Session.start]
  · rcases Nat.lt_or_gt_of_ne hj with hlt | hgt
    · simp [stage?, hj, List.getElem?_append_left hlt]
    · simp [stage?, hj, List.getElem?_append_right (Nat.le_of_lt hgt),
        List.getElem?_eq_none (Nat.le_of_lt hgt), Nat.sub_ne_zero_of_lt hgt]

/-- The sessions that are there already stay where they are when a connection is accepted. -/
theorem stage?_accept_of_eq_some {stage : SessionStage} (h : c.stage? i = some stage) :
    ({ c with acceptor := { c.acceptor with
        sessions := c.acceptor.sessions ++ [.start] } } : Supercomponent).stage? i =
      some stage := by
  obtain ⟨s, hs, -⟩ := Option.map_eq_some_iff.mp h
  obtain ⟨hlt, -⟩ := List.getElem?_eq_some_iff.mp hs
  rw [stage?_accept, if_neg (Nat.ne_of_lt hlt), h]

/-- A move of a session that is not served then, by which nobody leaves. -/
theorem Serving.set (h : c.Serving) {s t : Session} (hs : c.acceptor.sessions[i]? = some s)
    (hset : c'.acceptor.sessions = c.acceptor.sessions.set i t) (hsound : c'.registry.Sound)
    (hroster : c.registry.roster ⊆ c'.registry.roster)
    (hstage : ∀ d l, t.stage = .serving d l → s.stage = .serving d l) : c'.Serving := by
  refine h.mono hsound hroster fun j d l hj => ?_
  rw [stage?_set hs hset] at hj
  split at hj
  · next hij =>
    subst hij
    rw [stage?_of_session hs, hstage d l (Option.some.inj hj)]
  · exact hj

/-- Whoever is registered is served over a link that nobody had. -/
theorem Serving.enrolled (h : c.Serving) {s t : Session} {d : Descriptor}
    (hs : c.acceptor.sessions[i]? = some s)
    (hset : c'.acceptor.sessions = c.acceptor.sessions.set i t)
    (hregistry : c'.registry = c.registry.join d) (admits : c.registry.admits d = true)
    (hstage : t.stage = .serving d c.registry.links.length) : c'.Serving := by
  have hroster : c'.registry.roster =
      c.registry.roster ++ [⟨d, c.registry.roster.freeSlot, c.registry.links.length⟩] := by
    rw [hregistry, Registry.join_of_admits admits]
    rfl
  have hnew : ∀ j e, c.stage? j ≠ some (.serving e c.registry.links.length) := by
    intro j e hj
    obtain ⟨slot, hslot⟩ := h.member j e _ hj
    exact Nat.lt_irrefl _ (h.sound.valid _ hslot)
  refine ⟨hregistry ▸ Registry.sound_join h.sound, fun j e l hj => ?_, fun j k e e' l hj hk => ?_⟩
  · rw [stage?_set hs hset] at hj
    rw [hroster]
    split at hj
    · rw [hstage] at hj
      cases hj
      exact ⟨_, List.mem_append_right _ (List.mem_singleton_self _)⟩
    · obtain ⟨slot, hslot⟩ := h.member j e l hj
      exact ⟨slot, List.mem_append_left _ hslot⟩
  · rw [stage?_set hs hset] at hj hk
    split at hj
    · next hij =>
      rw [hstage] at hj
      cases hj
      split at hk
      · next hik => rw [← hij, ← hik]
      · exact absurd hk (hnew k e')
    · split at hk
      · rw [hstage] at hk
        cases hk
        exact absurd hj (hnew j e)
      · exact h.distinct j k e e' l hj hk

/-- The member that a session serves leaves when the session ends, and nobody else does. -/
theorem Serving.mem_roster_connectionLost_iff (h : c.Serving) {d : Descriptor}
    (hi : c.stage? i = some (.serving d l)) {m : Member} :
    m ∈ (c.registry.connectionLost d).roster ↔ m ∈ c.registry.roster ∧ m.link ≠ l := by
  obtain ⟨slot, hslot⟩ := h.member i d l hi
  rw [Registry.connectionLost, Registry.roster_remove, Roster.mem_dismiss]
  refine and_congr_right fun hm => not_congr ⟨fun hid => ?_, fun hlink => ?_⟩
  · rw [h.sound.eq_of_identity_eq hm hslot hid]
  · rw [h.sound.eq_of_link_eq hm hslot hlink]

/-- Whoever else is served is still a member when a session ends. -/
theorem Serving.closed (h : c.Serving) {s t : Session} {d : Descriptor}
    (hs : c.acceptor.sessions[i]? = some s)
    (hset : c'.acceptor.sessions = c.acceptor.sessions.set i t)
    (hregistry : c'.registry = c.registry.connectionLost d) (hserving : s.stage = .serving d l)
    (hstage : t.stage = .leaving l ∨ t.stage = .over) : c'.Serving := by
  have hi : c.stage? i = some (.serving d l) := by rw [stage?_of_session hs, hserving]
  have hother : ∀ j e k, c'.stage? j = some (.serving e k) →
      i ≠ j ∧ c.stage? j = some (.serving e k) := by
    intro j e k hj
    rw [stage?_set hs hset] at hj
    split at hj
    · rcases hstage with hstage | hstage <;> rw [hstage] at hj <;> cases hj
    · next hij => exact ⟨hij, hj⟩
  refine ⟨hregistry ▸ h.sound.remove, fun j e k hj => ?_, fun j k e e' l' hj hk => ?_⟩
  · obtain ⟨hij, hj⟩ := hother j e k hj
    obtain ⟨slot, hslot⟩ := h.member j e k hj
    refine ⟨slot, ?_⟩
    rw [hregistry, h.mem_roster_connectionLost_iff hi]
    exact ⟨hslot, fun hk : k = l => hij (h.distinct i j d e l hi (hk ▸ hj))⟩
  · exact h.distinct j k e e' l' (hother j e l' hj).2 (hother k e' l' hk).2

/-! ### Who is a member as long as the scheduler runs -/

/-- Who is a member after a move is who was registered in it, and who was a member before and whose
session has not ended in it. -/
def KeepsMembers (c c' : Supercomponent) : Prop :=
  ∀ l, c'.registry.roster.hasLink l = true ↔ l ∈ changes SessionStage.registration? c c' ∨
    c.registry.roster.hasLink l = true ∧ l ∉ changes SessionStage.ending? c c'

/-- Where nobody comes or goes and no session moves on, members stay who they are. -/
theorem keepsMembers_of_stages (hroster : c'.registry.roster = c.registry.roster)
    (hstage : ∀ i stage, c.stage? i = some stage → c'.stage? i = some stage) :
    KeepsMembers c c' := by
  intro l
  rw [hroster, changes_eq_nil SessionStage.registration?_self hstage,
    changes_eq_nil SessionStage.ending?_self hstage]
  simp

/-- Where one session moves on, and neither registers its module nor ends. -/
theorem keepsMembers_of_set {s t : Session} (hs : c.acceptor.sessions[i]? = some s)
    (hset : c'.acceptor.sessions = c.acceptor.sessions.set i t)
    (hroster : c'.registry.roster = c.registry.roster)
    (hreg : s.stage.registration? t.stage = none) (hend : s.stage.ending? t.stage = none) :
    KeepsMembers c c' := by
  intro l
  rw [hroster, mem_changes_set_iff SessionStage.registration?_self hs hset, hreg,
    mem_changes_set_iff SessionStage.ending?_self hs hset, hend]
  simp

/-- A move of a session that neither registers its module nor ends, and by which nobody comes or
leaves. -/
theorem Serving.of_set (h : c.Serving) {s t : Session} (hs : c.acceptor.sessions[i]? = some s)
    (hset : c'.acceptor.sessions = c.acceptor.sessions.set i t) (hsound : c'.registry.Sound)
    (hroster : c'.registry.roster = c.registry.roster)
    (hstage : ∀ d l, t.stage = .serving d l → s.stage = .serving d l)
    (hreg : s.stage.registration? t.stage = none) (hend : s.stage.ending? t.stage = none) :
    c'.Serving ∧ KeepsMembers c c' :=
  ⟨h.set hs hset hsound (hroster ▸ List.Subset.refl _) hstage,
    keepsMembers_of_set hs hset hroster hreg hend⟩

/-- A move by which a session stays in its stage. -/
theorem Serving.of_stage_eq (h : c.Serving) {s t : Session}
    (hs : c.acceptor.sessions[i]? = some s)
    (hset : c'.acceptor.sessions = c.acceptor.sessions.set i t) (hsound : c'.registry.Sound)
    (hroster : c'.registry.roster = c.registry.roster) (hstage : t.stage = s.stage) :
    c'.Serving ∧ KeepsMembers c c' := by
  refine h.of_set hs hset hsound hroster (fun d l hserving => hstage ▸ hserving) ?_ ?_
  · rw [hstage, SessionStage.registration?_self]
  · rw [hstage, SessionStage.ending?_self]

/-- Whoever is registered is a member. -/
theorem keepsMembers_of_enrolled {s t : Session} {d : Descriptor}
    (hs : c.acceptor.sessions[i]? = some s)
    (hset : c'.acceptor.sessions = c.acceptor.sessions.set i t)
    (hregistry : c'.registry = c.registry.join d) (admits : c.registry.admits d = true)
    (hbefore : s.stage = .greeted d) (hstage : t.stage = .serving d c.registry.links.length) :
    KeepsMembers c c' := by
  intro l
  rw [mem_changes_set_iff SessionStage.registration?_self hs hset, hbefore, hstage,
    mem_changes_set_iff SessionStage.ending?_self hs hset, hbefore, hstage, hregistry,
    Registry.join_of_admits admits]
  simp [Registry.publishCount, Roster.hasLink, SessionStage.registration?, SessionStage.ending?,
    or_comm]

/-- Whose session ends is not a member any more. -/
theorem Serving.keepsMembers_of_closed (h : c.Serving) {s t : Session} {d : Descriptor}
    (hs : c.acceptor.sessions[i]? = some s)
    (hset : c'.acceptor.sessions = c.acceptor.sessions.set i t)
    (hregistry : c'.registry = c.registry.connectionLost d) (hserving : s.stage = .serving d l)
    (hstage : t.stage = .leaving l ∨ t.stage = .over) : KeepsMembers c c' := by
  intro k
  have hi : c.stage? i = some (.serving d l) := by rw [stage?_of_session hs, hserving]
  have hend : s.stage.ending? t.stage = some l := by
    rcases hstage with hstage | hstage <;> rw [hserving, hstage] <;> rfl
  have hreg : s.stage.registration? t.stage = none := by
    rcases hstage with hstage | hstage <;> rw [hserving, hstage] <;> rfl
  rw [mem_changes_set_iff SessionStage.registration?_self hs hset, hreg,
    mem_changes_set_iff SessionStage.ending?_self hs hset, hend, hregistry,
    Roster.hasLink_iff, Roster.hasLink_iff]
  constructor
  · rintro ⟨m, hm, rfl⟩
    obtain ⟨hm, hne⟩ := (h.mem_roster_connectionLost_iff hi).mp hm
    exact .inr ⟨⟨m, hm, rfl⟩, fun h => hne (Option.some.inj h).symm⟩
  · rintro (h | ⟨⟨m, hm, rfl⟩, hne⟩)
    · cases h
    · exact ⟨m, (h.mem_roster_connectionLost_iff hi).mpr
        ⟨hm, fun h => hne (congrArg some h.symm)⟩, rfl⟩

/-- When a session moves, whoever is served is still a member, and the members change by what the
session does. -/
theorem Serving.step_session (h : c.Serving) {s t : Session} {r : Registry}
    (hs : c.acceptor.sessions[i]? = some s) (step : SessionStep c.registry s t r)
    (hset : c'.acceptor.sessions = c.acceptor.sessions.set i t) (hregistry : c'.registry = r) :
    c'.Serving ∧ KeepsMembers c c' := by
  have hsound : c'.registry.Sound := hregistry ▸ step.sound h.sound
  cases step with
  | connection hstage | wroteAll _ _ hstage | wrote _ _ hstage | gaveUp _ hstage =>
    exact h.of_stage_eq hs hset hsound (hregistry ▸ rfl) hstage
  | heeded _ _ hstage =>
    exact h.of_stage_eq hs hset hsound (hregistry ▸ Session.roster_heed) hstage
  | greeted hbefore hstage | ended hbefore hstage =>
    exact h.of_set hs hset hsound (hregistry ▸ rfl) (by simp [hstage])
      (by rw [hbefore, hstage]; rfl) (by rw [hbefore, hstage]; rfl)
  | refused hbefore hstage =>
    refine h.of_set hs hset hsound (hregistry ▸ rfl) (by simp [hstage]) ?_ ?_
    · rcases hbefore with hbefore | ⟨d, hbefore⟩ <;> rw [hbefore, hstage] <;> rfl
    · rcases hbefore with hbefore | ⟨d, hbefore⟩ <;> rw [hbefore, hstage] <;> rfl
  | enrolled hbefore admits hstage =>
    exact ⟨h.enrolled hs hset hregistry admits hstage,
      keepsMembers_of_enrolled hs hset hregistry admits hbefore hstage⟩
  | closed hbefore hstage =>
    exact ⟨h.closed hs hset hregistry hbefore hstage,
      h.keepsMembers_of_closed hs hset hregistry hbefore hstage⟩

/-- As long as the scheduler runs, whoever is served is a member, and the members change by what the
sessions do. -/
theorem Serving.step (h : c.Serving) (step : SupercomponentStep c c' es)
    (hrun : c'.run.isRunning = true) : c'.Serving ∧ KeepsMembers c c' := by
  cases step with
  | session hs step => exact h.step_session hs step rfl rfl
  | @abort i s t hs ht closed =>
    obtain ⟨link?, hstage⟩ := Session.exists_aborted ht
    refine h.of_set hs rfl h.sound rfl (by simp [hstage]) ?_ ?_
    · rw [hstage]
      cases s.stage <;> rfl
    · rw [hstage]
      cases s.stage <;> rfl
  | accept =>
    refine ⟨h.mono h.sound (List.Subset.refl _) fun j d l hj => ?_,
      keepsMembers_of_stages rfl fun j stage hj => ?_⟩
    · rw [stage?_accept] at hj
      split at hj
      · cases hj
      · exact hj
    · exact stage?_accept_of_eq_some hj
  | schedule step =>
    exact ⟨h.mono (h.sound.of_roster_eq step.roster_eq step.length_links_eq)
      (fun m hm => step.roster_eq.symm ▸ hm) (fun _ _ _ h => h),
      keepsMembers_of_stages step.roster_eq fun _ _ h => h⟩
  | requestStop | stopAcceptor =>
    exact ⟨h.mono h.sound (List.Subset.refl _) (fun _ _ _ h => h),
      keepsMembers_of_stages rfl fun _ _ h => h⟩
  | stopScheduler => cases hrun

/-- In every move the sessions stay where they are, or one of them moves, or one is given up. -/
theorem stages_cases (step : SupercomponentStep c c' es) :
    (∀ i stage, c.stage? i = some stage → c'.stage? i = some stage) ∨
    ∃ i s t, c.acceptor.sessions[i]? = some s ∧
      c'.acceptor.sessions = c.acceptor.sessions.set i t ∧
      (SessionStep c.registry s t c'.registry ∨ ∃ link?, t.stage = .aborted link?) := by
  cases step with
  | session hs step => exact .inr ⟨_, _, _, hs, rfl, .inl step⟩
  | abort hs ht =>
    exact .inr ⟨_, _, _, hs, rfl, .inr (Session.exists_aborted ht)⟩
  | accept => exact .inl fun _ _ hj => stage?_accept_of_eq_some hj
  | schedule | requestStop | stopScheduler | stopAcceptor => exact .inl fun _ _ h => h

/-- A module is registered over a link that is new. -/
theorem eq_of_mem_registration (step : SupercomponentStep c c' es)
    (hl : l ∈ changes SessionStage.registration? c c') :
    l = c.registry.links.length ∧ c'.registry.links.length = l + 1 := by
  rcases stages_cases step with hstage | ⟨i, s, t, hs, hset, step | ⟨link?, hstage⟩⟩
  · rw [changes_eq_nil SessionStage.registration?_self hstage] at hl
    cases hl
  · rw [mem_changes_set_iff SessionStage.registration?_self hs hset] at hl
    exact step.eq_of_registration hl
  · rw [mem_changes_set_iff SessionStage.registration?_self hs hset, hstage] at hl
    revert hl
    cases s.stage <;> simp [SessionStage.registration?]

theorem length_links_le (step : SupercomponentStep c c' es) :
    c.registry.links.length ≤ c'.registry.links.length := by
  cases step with
  | session _ step => exact step.length_links_le
  | schedule step => exact step.length_links_eq.ge
  | stopScheduler clock => exact (Registry.length_links_stopAll clock).ge
  | abort | accept | requestStop | stopAcceptor => exact Nat.le_refl _

/-- A module whose session ends has a link already. -/
theorem Serving.lt_of_mem_ending (h : c.Serving) (hl : l ∈ changes SessionStage.ending? c c') :
    l < c.registry.links.length := by
  obtain ⟨i, before, after, hbefore, -, hchange⟩ := mem_changes_iff.mp hl
  obtain ⟨d, rfl⟩ : ∃ d, before = .serving d l := by
    cases before <;> cases after <;> cases hchange <;> exact ⟨_, rfl⟩
  obtain ⟨slot, hslot⟩ := h.member i d l hbefore
  exact h.sound.valid _ hslot

/-! ### As long as the scheduler runs -/

variable {m : TimeStamp × SupercomponentMove} {ms : List (TimeStamp × SupercomponentMove)}

theorem registered_append_singleton : c.registered (ms ++ [m]) =
    c.registered ms ++ changes SessionStage.registration? (c.last ms) ((c.last ms).after m) :=
  Run.seen_append_singleton ..

theorem ended_append_singleton : c.ended (ms ++ [m]) =
    c.ended ms ++ changes SessionStage.ending? (c.last ms) ((c.last ms).after m) :=
  Run.seen_append_singleton ..

/-- What is known of the members and the links at the end of a run `ms` from `c` on. -/
structure Recorded (c : Supercomponent) (ms : List (TimeStamp × SupercomponentMove)) : Prop where
  serving : (c.last ms).Serving
  hasLink_iff : ∀ l, (c.last ms).registry.roster.hasLink l = true ↔
    l ∈ c.registered ms ∧ l ∉ c.ended ms
  registered_lt : ∀ l ∈ c.registered ms, l < (c.last ms).registry.links.length
  ended_lt : ∀ l ∈ c.ended ms, l < (c.last ms).registry.links.length

theorem Recorded.append_singleton (h : Recorded c ms)
    (hrun : ((c.last ms).after m).run.isRunning = true) : Recorded c (ms ++ [m]) := by
  have hlast : c.last (ms ++ [m]) = (c.last ms).after m := last_append
  rcases (c.last ms).after_cases m with ⟨hsame, -⟩ | step
  · have hreg : c.registered (ms ++ [m]) = c.registered ms := by
      rw [registered_append_singleton, hsame,
        changes_eq_nil SessionStage.registration?_self fun _ _ h => h, List.append_nil]
    have hend : c.ended (ms ++ [m]) = c.ended ms := by
      rw [ended_append_singleton, hsame,
        changes_eq_nil SessionStage.ending?_self fun _ _ h => h, List.append_nil]
    rw [hsame] at hlast
    exact ⟨hlast ▸ h.serving, by rw [hlast, hreg, hend]; exact h.hasLink_iff,
      by rw [hlast, hreg]; exact h.registered_lt, by rw [hlast, hend]; exact h.ended_lt⟩
  · obtain ⟨hserving, hkeeps⟩ := h.serving.step step hrun
    have hle := length_links_le step
    refine ⟨hlast ▸ hserving, fun l => ?_, fun l hl => ?_, fun l hl => ?_⟩
    · rw [hlast, hkeeps l, h.hasLink_iff l, registered_append_singleton, ended_append_singleton,
        List.mem_append, List.mem_append]
      -- A link that is new is not in the record yet, and no session on it has ended.
      have hnew : l ∈ changes SessionStage.registration? (c.last ms) ((c.last ms).after m) →
          l ∉ c.ended ms ∧ l ∉ changes SessionStage.ending? (c.last ms) ((c.last ms).after m) := by
        intro hl
        obtain ⟨rfl, -⟩ := eq_of_mem_registration step hl
        exact ⟨fun hold => Nat.lt_irrefl _ (h.ended_lt _ hold),
          fun hnow => Nat.lt_irrefl _ (h.serving.lt_of_mem_ending hnow)⟩
      tauto
    · rw [hlast]
      rw [registered_append_singleton, List.mem_append] at hl
      rcases hl with hl | hl
      · exact Nat.lt_of_lt_of_le (h.registered_lt l hl) hle
      · exact (eq_of_mem_registration step hl).2 ▸ Nat.lt_succ_self l
    · rw [hlast]
      rw [ended_append_singleton, List.mem_append] at hl
      rcases hl with hl | hl
      · exact Nat.lt_of_lt_of_le (h.ended_lt l hl) hle
      · exact Nat.lt_of_lt_of_le (h.serving.lt_of_mem_ending hl) hle

/-- As long as the scheduler runs, the members are who was registered and whose session has not
ended. -/
theorem recorded_of_running (h : c.Serving) (hempty : c.registry.roster = [])
    (hrun : (c.last ms).run.isRunning = true) : Recorded c ms := by
  induction ms using List.reverseRecOn with
  | nil => exact ⟨h, fun l => by simp [hempty, Roster.hasLink, registered], by simp [registered],
      by simp [ended]⟩
  | append_singleton ms m ih =>
    rw [last_append] at hrun
    exact (ih (isRunning_of_after hrun)).append_singleton hrun

/-! ### Who is told -/

/-- A pulse is not the command to stop. -/
theorem ofPayload_pulse_ne_stopCommand (clock clock' : TimeStamp) (p : Pulse) :
    Envelope.ofPayload clock p ≠ Registry.stopCommand clock' := by
  intro h
  have : (Payload.dataType Pulse : DataType) = Payload.dataType StateCommand :=
    congrArg Envelope.dataType h
  exact absurd this (by decide)

/-- Nobody is told in a move that does not stop the scheduler. -/
theorem tellings_eq_nil (hrun : (c.after m).run.isRunning = c.run.isRunning) :
    c.tellings m = [] := by
  have hgrows : ∀ l, ((c.after m).registry.link l).outbound.length ≤
        (c.registry.link l).outbound.length ∨
      ∃ clock, ∃ p : Pulse, ((c.after m).registry.link l).outbound =
        (c.registry.link l).outbound ++ [.ofPayload clock p] := by
    intro l
    rcases c.after_cases m with ⟨hsame, -⟩ | step
    · rw [hsame]
      exact .inl (Nat.le_refl _)
    · generalize c.after m = c', c.reports m = es at hrun step
      cases step with
      | session _ step => exact .inl (step.length_outbound_le l)
      | @schedule clock _ _ _ _ step =>
        rcases step.outbound_cases l with heq | ⟨p, heq⟩
        · exact .inl (congrArg List.length heq).le
        · exact .inr ⟨clock, p, heq⟩
      | stopScheduler _ _ running =>
        rw [running] at hrun
        cases hrun
      | accept | abort | requestStop | stopAcceptor => exact .inl (Nat.le_refl _)
  rw [tellings, List.filter_eq_nil_iff]
  intro l _ hl
  rw [decide_eq_true_eq] at hl
  rcases hgrows l with hle | ⟨clock, p, hpulse⟩
  · rw [hl, List.length_append, List.length_singleton] at hle
    exact Nat.not_succ_le_self _ hle
  · rw [hpulse] at hl
    exact ofPayload_pulse_ne_stopCommand _ _ _
      (List.singleton_inj.mp (List.append_cancel_left hl))

/-- What becomes of a supercomponent whose scheduler finds out that it has been told to stop. -/
theorem after_stopScheduler {t : TimeStamp} (hstop : c.isStopping = true)
    (hrun : c.run.isRunning = true) :
    (c.after (t, .stopScheduler)).registry = (c.registry.stopAll t).2 ∧
      (c.after (t, .stopScheduler)).run.isRunning = false := by
  have h : c.move t .stopScheduler = some
      ({ c with run := (c.run.stop t c.exchange).1, exchange := (c.run.stop t c.exchange).2 },
        []) := by
    rw [move, hstop, hrun]
    rfl
  rw [(after_eq (m := (t, .stopScheduler)) h).1]
  exact ⟨rfl, rfl⟩

/-- When the scheduler stops, the members with an open link are told. -/
theorem Serving.mem_tellings_iff (h : c.Serving) {t : TimeStamp} (hstop : c.isStopping = true)
    (hrun : c.run.isRunning = true) : l ∈ c.tellings (t, .stopScheduler) ↔
      c.registry.roster.hasLink l = true ∧ (c.registry.link l).isOpen = true := by
  rw [tellings, List.mem_filter, List.mem_range, decide_eq_true_eq,
    (after_stopScheduler hstop hrun).1, Registry.outbound_stopAll t h.sound.links_ne]
  constructor
  · rintro ⟨-, heq⟩
    split at heq
    · next htold => exact htold
    · simp at heq
  · intro htold
    exact ⟨Registry.lt_of_isOpen htold.2, by rw [if_pos htold]⟩

/-- Only one kind of move tells anybody anything: that the scheduler finds out. -/
theorem eq_of_mem_tellings (hl : l ∈ c.tellings m) :
    ∃ t, m = (t, .stopScheduler) ∧ c.isStopping = true ∧ c.run.isRunning = true := by
  obtain ⟨t, what⟩ := m
  have hrun : (c.after (t, what)).run.isRunning ≠ c.run.isRunning := by
    intro h
    rw [tellings_eq_nil h] at hl
    cases hl
  have hmove : (c.move t what).isSome = true := by
    rw [Option.isSome_iff_ne_none]
    intro h
    rw [after, h] at hrun
    exact hrun rfl
  obtain ⟨⟨c', es⟩, hmove⟩ := Option.isSome_iff_exists.mp hmove
  rw [(after_eq (m := (t, what)) hmove).1] at hrun
  cases what with
  | stopScheduler =>
    rw [move] at hmove
    split at hmove
    · next hstop => exact ⟨t, rfl, Bool.and_eq_true_iff.mp hstop⟩
    · cases hmove
  | schedule now =>
    obtain ⟨⟨run, x, es⟩, hproceed, heq⟩ := Option.map_eq_some_iff.mp hmove
    cases heq
    exact absurd (RunStep.of_proceed hproceed).isRunning_eq hrun
  | accept | session =>
    obtain ⟨_, _, heq⟩ := Option.map_eq_some_iff.mp hmove
    cases heq
    exact absurd rfl hrun
  | requestStop =>
    cases hmove
    exact absurd rfl hrun
  | stopAcceptor =>
    rw [move] at hmove
    split at hmove
    · cases hmove
      exact absurd rfl hrun
    · cases hmove

/-- **Who is told to stop.** Take any run of a supercomponent, with any number of sessions that
move in any order. A module is told to stop if and only if its registration came before the moment
in which the scheduler finds out that it has to stop, its session had not ended by then, and its
end of the link was there. -/
theorem mem_told_iff (now : Nat) (o : SupercomponentOptions) (voice : ParticipantId) (hub : Hub)
    (ms : List (TimeStamp × SupercomponentMove)) (l : LinkId) :
    l ∈ (fresh now o voice hub).told ms ↔
      ∃ pre t post, ms = pre ++ (t, .stopScheduler) :: post ∧
        ((fresh now o voice hub).last pre).isStopping = true ∧
        ((fresh now o voice hub).last pre).run.isRunning = true ∧
        l ∈ (fresh now o voice hub).registered pre ∧ l ∉ (fresh now o voice hub).ended pre ∧
        (((fresh now o voice hub).last pre).registry.link l).isOpen = true := by
  have hrecorded : ∀ pre, ((fresh now o voice hub).last pre).run.isRunning = true →
      Recorded (fresh now o voice hub) pre :=
    fun pre hrun => recorded_of_running (serving_fresh ..) rfl hrun
  rw [told, Run.mem_seen_iff]
  constructor
  · rintro ⟨pre, m, post, rfl, hl⟩
    obtain ⟨t, rfl, hstop, hrun⟩ := eq_of_mem_tellings hl
    have h := hrecorded pre hrun
    obtain ⟨hlink, hopen⟩ := (h.serving.mem_tellings_iff hstop hrun).mp hl
    obtain ⟨hreg, hend⟩ := (h.hasLink_iff l).mp hlink
    exact ⟨pre, t, post, rfl, hstop, hrun, hreg, hend, hopen⟩
  · rintro ⟨pre, t, post, rfl, hstop, hrun, hreg, hend, hopen⟩
    have h := hrecorded pre hrun
    exact ⟨pre, _, post, rfl, (h.serving.mem_tellings_iff hstop hrun).mpr
      ⟨(h.hasLink_iff l).mpr ⟨hreg, hend⟩, hopen⟩⟩

/-- A module that is welcomed, and registered after the scheduler has stopped. Then the acceptor
stops too, and the session is given up. -/
def lateRun (d : Descriptor) : List (TimeStamp × SupercomponentMove) :=
  [.accept, .session 0 (.arrive (Wire.Frame.encode (Wire.Message.encode
      (Envelope.ofPayload ⟨1, 0⟩ d)))), .session 0 .greet, .requestStop, .stopScheduler,
    .session 0 .enroll, .stopAcceptor, .session 0 .abort].map (⟨1, 0⟩, ·)

/-- The shutdown is complete, nobody is left to serve, and the module that was registered late is
still a member and has not been told anything. -/
theorem late_module_not_told :
    let c := fresh 0 {} 0 ⟨[⟨111, true, false, []⟩]⟩
    let d : Descriptor := ⟨"cockpit", none, "1"⟩
    0 ∈ c.registered (lateRun d) ∧ 0 ∉ c.ended (lateRun d) ∧ 0 ∉ c.told (lateRun d) ∧
      (c.last (lateRun d)).run.isRunning = false ∧
      (c.last (lateRun d)).acceptor.accepting = false ∧
      (c.last (lateRun d)).acceptor.taken = 0 ∧
      (c.last (lateRun d)).members = [⟨d, 0, 0⟩] ∧
      ((c.last (lateRun d)).registry.link 0).outbound = [] := by
  decide +kernel

end Supercomponent

end Cadence
