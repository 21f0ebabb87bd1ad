import Cadence.Proofs.Scene
import Mathlib.Data.List.Nodup

/-!
# Who is there, by the reports

At the start of a tick a scheduler reports who has left and who has joined since the tick before. A
follower sees nothing but the reports: it takes a module in when it is reported to have joined, and
strikes it off when it is reported to have left. Here it is proved that a follower knows after every
tick who was there when the tick began, and that it is never told what it knows already.

The reports are the differences of two snapshots, and what has come and gone in between is not seen.
In particular a module that leaves and comes back with another version between two ticks is the same
module as before: nothing is reported, and a follower goes on with the version that it was told
first. What is compared here are therefore identities, as everywhere else.

## Main definitions

* `SchedulerEvent.follow`, `SchedulerEvent.replay`: what a follower makes of the reports
* `SchedulerEvent.IsNews`, `SchedulerEvent.AreNews`: events that tell a follower something new
* `Scene.Followed`: a follower knows whom the scheduler knows

## Main results

* `Scheduler.follow_membershipEvents_perm`, `Scheduler.areNews_membershipEvents`: the reports at the
  start of a tick
* `Scene.Followed.step`, `Scene.followed_last`: what a follower knows after a move, and after a run
* `Scene.replay_perm_members`: what a follower knows of each tick of any run
-/

namespace Cadence

/-! ### Who is on one list and not on the other -/

namespace Descriptor

/-- The modules on a list that are not on another. -/
def without (ds es : List Descriptor) : List Descriptor := ds.filter fun d => !es.any d.same

variable {ds es : List Descriptor} {x : String × Option UInt32}

theorem mem_without_iff : x ∈ (without ds es).map identity ↔
    x ∈ ds.map identity ∧ x ∉ es.map identity := by
  simp only [without, List.mem_map, List.mem_filter, Bool.not_eq_true', List.any_eq_false,
    same_iff]
  constructor
  · rintro ⟨d, ⟨hd, hes⟩, rfl⟩
    exact ⟨⟨d, hd, rfl⟩, fun ⟨e, he, heq⟩ => hes e he heq.symm⟩
  · rintro ⟨⟨d, hd, rfl⟩, hes⟩
    exact ⟨d, ⟨hd, fun e he heq => hes ⟨e, he, heq.symm⟩⟩, rfl⟩

theorem nodup_without (h : (ds.map identity).Nodup) : ((without ds es).map identity).Nodup :=
  h.sublist ((List.filter_sublist (l := ds)).map identity)

end Descriptor

open Descriptor (without mem_without_iff nodup_without)

/-! ### Followers -/

namespace SchedulerEvent

/-- Does an event report that somebody has joined or left? -/
def isMembership : SchedulerEvent → Bool
  | .joined _ | .left _ => true
  | .pulseSent .. | .ackReceived .. | .ackTimeout .. | .published .. => false

/-- What a follower makes of one event. -/
def follow (known : List Descriptor) : SchedulerEvent → List Descriptor
  | .joined d => known ++ [d]
  | .left d => known.filter fun e => !e.same d
  | .pulseSent .. | .ackReceived .. | .ackTimeout .. | .published .. => known

/-- Whom a follower knows to be there who has seen these events from the beginning. -/
def replay (es : List SchedulerEvent) : List Descriptor := Run.last follow [] es

/-- Who has joined was not there, and who has left was. -/
def IsNews (known : List Descriptor) : SchedulerEvent → Prop
  | .joined d => d.identity ∉ known.map (·.identity)
  | .left d => d.identity ∈ known.map (·.identity)
  | .pulseSent .. | .ackReceived .. | .ackTimeout .. | .published .. => True

/-- Each of these events is news for a follower who has known these modules and has seen the events
in front of it. -/
def AreNews (known : List Descriptor) (es : List SchedulerEvent) : Prop :=
  ¬ Run.Happens follow (fun known e => ¬ e.IsNews known) known es

variable {known ds : List Descriptor} {e : SchedulerEvent}
  {es fs before after : List SchedulerEvent}

theorem areNews_nil : AreNews known [] := fun ⟨_, _, _, h, _⟩ => by simp at h

theorem areNews_append : AreNews known (es ++ fs) ↔
    AreNews known es ∧ AreNews (Run.last follow known es) fs := by
  rw [AreNews, Run.happens_append, not_or]
  rfl

theorem areNews_cons : AreNews known (e :: es) ↔
    e.IsNews known ∧ AreNews (follow known e) es := by
  rw [AreNews, Run.happens_cons, not_or, not_not]
  rfl

theorem AreNews.isNews (h : AreNews known (before ++ e :: after)) :
    e.IsNews (Run.last follow known before) :=
  (areNews_cons.mp (areNews_append.mp h).2).1

/-- A follower learns nothing from what is reported of pulses and acknowledgements. -/
theorem follow_of_not_isMembership (h : e.isMembership = false) : follow known e = known := by
  cases e <;> first | rfl | cases h

theorem last_follow_eq_self (h : ∀ e ∈ es, e.isMembership = false) :
    Run.last follow known es = known := by
  induction es with
  | nil => rfl
  | cons e es ih =>
    rw [Run.last_cons, follow_of_not_isMembership (h e List.mem_cons_self)]
    exact ih fun f hf => h f (List.mem_cons_of_mem _ hf)

theorem areNews_of_not_isMembership (h : ∀ e ∈ es, e.isMembership = false) :
    AreNews known es := by
  rintro ⟨before, e, after, rfl, hnews⟩
  have he := h e (List.mem_append_right _ List.mem_cons_self)
  cases e with
  | joined | left => cases he
  | pulseSent | ackReceived | ackTimeout | published => exact hnews trivial

theorem last_follow_left (known ds : List Descriptor) :
    Run.last follow known (ds.map .left) = without known ds := by
  induction ds generalizing known with
  | nil => simp [without]
  | cons d ds ih =>
    rw [List.map_cons, Run.last_cons, ih, follow, without, without, List.filter_filter]
    refine List.filter_congr fun e _ => ?_
    rw [List.any_cons, Bool.not_or, Bool.and_comm]

theorem last_follow_joined (known ds : List Descriptor) :
    Run.last follow known (ds.map .joined) = known ++ ds := by
  induction ds generalizing known with
  | nil => simp
  | cons d ds ih => rw [List.map_cons, Run.last_cons, ih, follow, List.append_assoc]; rfl

/-- Those who were there can be struck off, each once. -/
theorem areNews_left (hds : (ds.map (·.identity)).Nodup)
    (hknown : ∀ x ∈ ds.map (·.identity), x ∈ known.map (·.identity)) :
    AreNews known (ds.map .left) := by
  induction ds generalizing known with
  | nil => exact areNews_nil
  | cons d ds ih =>
    obtain ⟨hd, hds⟩ := List.nodup_cons.mp hds
    refine areNews_cons.mpr ⟨hknown _ List.mem_cons_self, ih hds fun x hx => ?_⟩
    -- Whoever is struck off first is none of the others, so these are still known.
    have hfollow : follow known (.left d) = without known [d] := by
      simp [follow, without]
    rw [hfollow, mem_without_iff]
    refine ⟨hknown x (List.mem_cons_of_mem _ hx), fun h => ?_⟩
    obtain rfl := List.mem_singleton.mp h
    exact hd hx

/-- Those who were not there can be taken in, each once. -/
theorem areNews_joined (hds : (ds.map (·.identity)).Nodup)
    (hknown : ∀ x ∈ ds.map (·.identity), x ∉ known.map (·.identity)) :
    AreNews known (ds.map .joined) := by
  induction ds generalizing known with
  | nil => exact areNews_nil
  | cons d ds ih =>
    obtain ⟨hd, hds⟩ := List.nodup_cons.mp hds
    refine areNews_cons.mpr ⟨hknown _ List.mem_cons_self, ih hds fun x hx h => ?_⟩
    rw [follow, List.map_append, List.mem_append] at h
    rcases h with h | h
    · exact hknown x (List.mem_cons_of_mem _ hx) h
    · obtain rfl := List.mem_singleton.mp h
      exact hd hx

end SchedulerEvent

/-! ### The start of a tick -/

namespace Scheduler

open SchedulerEvent

variable {before after known : List Descriptor}

theorem membershipEvents_eq (before after : List Descriptor) :
    membershipEvents before after =
      (without before after).map .left ++ (without after before).map .joined := rfl

theorem last_follow_membershipEvents (before after known : List Descriptor) :
    Run.last follow known (membershipEvents before after) =
      without known (without before after) ++ without after before := by
  rw [membershipEvents_eq, Run.last_append, last_follow_left, last_follow_joined]

/-- **A follower who knew who was there knows who is there now.** -/
theorem follow_membershipEvents_perm (hbefore : (before.map (·.identity)).Nodup)
    (hafter : (after.map (·.identity)).Nodup)
    (hknown : (known.map (·.identity)).Perm (before.map (·.identity))) :
    ((Run.last follow known (membershipEvents before after)).map (·.identity)).Perm
      (after.map (·.identity)) := by
  rw [last_follow_membershipEvents, List.map_append]
  refine (List.perm_ext_iff_of_nodup ?_ hafter).mpr fun x => ?_
  · refine List.nodup_append'.mpr ⟨nodup_without (hknown.nodup_iff.mpr hbefore),
      nodup_without hafter, fun x hold hnew => ?_⟩
    exact (mem_without_iff.mp hnew).2 (hknown.mem_iff.mp (mem_without_iff.mp hold).1)
  · rw [List.mem_append, mem_without_iff, mem_without_iff, mem_without_iff, hknown.mem_iff]
    tauto

/-- What is reported at the start of a tick is news for a follower who knew who was there. -/
theorem areNews_membershipEvents (hbefore : (before.map (·.identity)).Nodup)
    (hafter : (after.map (·.identity)).Nodup)
    (hknown : (known.map (·.identity)).Perm (before.map (·.identity))) :
    AreNews known (membershipEvents before after) := by
  rw [membershipEvents_eq, areNews_append, last_follow_left]
  refine ⟨areNews_left (nodup_without hbefore) fun x hx => ?_,
    areNews_joined (nodup_without hafter) fun x hx h => ?_⟩
  · exact hknown.mem_iff.mpr (mem_without_iff.mp hx).1
  · exact (mem_without_iff.mp hx).2 (hknown.mem_iff.mp (mem_without_iff.mp h).1)

/-- No small step reports that anybody has joined or left. -/
theorem SmallStep.isMembership_eq_false {clock : TimeStamp} {now : Nat} {s s' : Scheduler}
    {x x' : Exchange} {es : List SchedulerEvent} (h : SmallStep clock now s x s' x' es) :
    ∀ e ∈ es, e.isMembership = false := by
  intro e he
  obtain ⟨m, -, ⟨_, _, rfl⟩ | ⟨_, _, rfl⟩ | ⟨_, rfl⟩ | ⟨_, rfl⟩⟩ := h.exists_member he <;> rfl

theorem SmallStep.known_eq {clock : TimeStamp} {now : Nat} {s s' : Scheduler}
    {x x' : Exchange} {es : List SchedulerEvent} (h : SmallStep clock now s x s' x' es) :
    s'.known = s.known := by
  cases h <;> rfl

end Scheduler

namespace Registry

theorem Sound.nodup_identities {r : Registry} (h : r.Sound) :
    ((r.roster.map (·.descriptor)).map (·.identity)).Nodup := by
  rw [List.map_map]
  exact List.pairwise_map.mpr h.identities

end Registry

/-! ### Any run -/

namespace Scene

open SchedulerEvent

variable {s : Scene} {ms : List SceneMove} {es : List SchedulerEvent}

/-- A follower who has seen these events knows whom the scheduler knows, and all of them were
news. -/
structure Followed (es : List SchedulerEvent) (s : Scene) : Prop where
  known : ((replay es).map (·.identity)).Perm (s.scheduler.known.map (·.identity))
  distinct : (s.scheduler.known.map (·.identity)).Nodup
  news : AreNews [] es

theorem followed_new (options : SchedulerOptions) (voice : Option ParticipantId) (hub : Hub) :
    Followed [] (new options voice hub) :=
  ⟨.nil, .nil, areNews_nil⟩

/-- While a tick goes on nobody is reported to have joined or left. -/
theorem isMembership_reports {m : SceneMove} (hm : ∀ clock now, m ≠ .begin clock now) :
    ∀ e ∈ s.reports m, e.isMembership = false := by
  cases m with
  | begin clock now => exact absurd rfl (hm clock now)
  | advance clock now =>
    rcases s.advance_cases clock now with ⟨-, hreports, -⟩ | small
    · simp [hreports]
    · exact small.isMembership_eq_false
  | outside | giveUp => exact fun e he => by cases he

theorem known_step {m : SceneMove} (hm : ∀ clock now, m ≠ .begin clock now) :
    (s.step m).scheduler.known = s.scheduler.known := by
  cases m with
  | begin clock now => exact absurd rfl (hm clock now)
  | advance clock now =>
    rcases s.advance_cases clock now with ⟨hstep, -⟩ | small
    · rw [hstep]
    · exact small.known_eq
  | outside | giveUp => rfl

/-- What is reported when a tick begins, and whom the scheduler knows then. -/
theorem begin_of_isIdle (hidle : s.scheduler.isIdle = true) (clock : TimeStamp) (now : Nat) :
    s.reports (.begin clock now) = Scheduler.membershipEvents s.scheduler.known
        (s.registry.roster.map (·.descriptor)) ∧
      (s.step (.begin clock now)).scheduler.known = s.registry.roster.map (·.descriptor) := by
  rw [reports, step, if_pos hidle, if_pos hidle]
  exact ⟨rfl, rfl⟩

namespace Followed

/-- A move that is not the beginning of a tick is no matter to a follower. -/
theorem step_of_ne_begin (h : Followed es s) {m : SceneMove}
    (hm : ∀ clock now, m ≠ .begin clock now) : Followed (es ++ s.reports m) (s.step m) where
  known := by
    rw [replay, Run.last_append, last_follow_eq_self (isMembership_reports hm), known_step hm]
    exact h.known
  distinct := by
    rw [known_step hm]
    exact h.distinct
  news := areNews_append.mpr ⟨h.news, areNews_of_not_isMembership (isMembership_reports hm)⟩

/-- When a tick begins a follower is told who has left and who has joined. -/
theorem step_begin (h : Followed es s) (hsound : s.registry.Sound)
    (hidle : s.scheduler.isIdle = true) (clock : TimeStamp) (now : Nat) :
    Followed (es ++ s.reports (.begin clock now)) (s.step (.begin clock now)) := by
  obtain ⟨hreports, hknown⟩ := begin_of_isIdle hidle clock now
  have hpresent := hsound.nodup_identities
  refine ⟨?_, hknown ▸ hpresent, areNews_append.mpr ⟨h.news, ?_⟩⟩
  · rw [replay, Run.last_append, hreports, hknown]
    exact Scheduler.follow_membershipEvents_perm h.distinct hpresent h.known
  · rw [hreports]
    exact Scheduler.areNews_membershipEvents h.distinct hpresent h.known

/-- **After every move a follower knows whom the scheduler knows.** -/
theorem step (h : Followed es s) (hsound : s.registry.Sound) (m : SceneMove) :
    Followed (es ++ s.reports m) (s.step m) := by
  by_cases hm : ∃ clock now, m = .begin clock now ∧ s.scheduler.isIdle = true
  · obtain ⟨clock, now, rfl, hidle⟩ := hm
    exact h.step_begin hsound hidle clock now
  · cases m with
    | begin clock now =>
      -- A tick that begins while another one goes on does not begin.
      have hidle : s.scheduler.isIdle ≠ true := fun hidle => hm ⟨clock, now, rfl, hidle⟩
      rw [reports, Scene.step, if_neg hidle, if_neg hidle, List.append_nil]
      exact h
    | outside | advance | giveUp => exact h.step_of_ne_begin (by simp)

theorem last (h : Followed es s) (hsound : s.registry.Sound) (ms : List SceneMove) :
    Followed (es ++ s.reported ms) (s.last ms) := by
  induction ms generalizing s es with
  | nil => rwa [reported_nil, List.append_nil]
  | cons m ms ih =>
    rw [reported_cons, ← List.append_assoc]
    exact ih (h.step hsound m) (sound_step hsound m)

end Followed

/-- At the end of every run a follower knows whom the scheduler knows. -/
theorem followed_last (options : SchedulerOptions) (voice : Option ParticipantId) (hub : Hub)
    (ms : List SceneMove) : Followed ((new options voice hub).reported ms)
      ((new options voice hub).last ms) :=
  (followed_new options voice hub).last Registry.sound_empty ms

/-- Nobody is reported to have joined or left until the tick ends, and the scheduler knows the same
modules as long. -/
theorem quiet_within_tick (hms : ∀ m ∈ ms, m.isWithinTick = true) :
    (∀ e ∈ s.reported ms, e.isMembership = false) ∧
      (s.last ms).scheduler.known = s.scheduler.known := by
  induction ms generalizing s with
  | nil => exact ⟨fun e he => (by cases he), rfl⟩
  | cons m ms ih =>
    have hm : ∀ clock now, m ≠ .begin clock now := by
      rintro clock now rfl
      cases hms _ List.mem_cons_self
    obtain ⟨hreported, hknown⟩ := ih (s := s.step m) fun n hn => hms n (List.mem_cons_of_mem _ hn)
    refine ⟨fun e he => ?_, hknown.trans (known_step hm)⟩
    rw [reported_cons, List.mem_append] at he
    exact he.elim (isMembership_reports hm e) (hreported e)

/-- **The reports say who is there.** Let a tick begin after any run, at any level, and let anything
happen meanwhile. Whoever has followed the reports so far knows the modules that were there when the
tick began, each once and nobody else. In the tick all that have left are reported first, then all
that have joined, and after that only pulses and acknowledgements. In no run a module is reported to
have joined that a follower knows to be there, or to have left that it does not know to be there. -/
theorem replay_perm_members (options : SchedulerOptions) (voice : Option ParticipantId)
    (hub : Hub) :
    let s₀ := new options voice hub
    (∀ past clock now ms, (s₀.last past).scheduler.isIdle = true →
      (∀ m ∈ ms, m.isWithinTick = true) →
      let s := s₀.last past
      ((replay (s₀.reported (past ++ .begin clock now :: ms))).map (·.identity)).Perm
        (s.registry.roster.map (·.descriptor.identity)) ∧
      ∃ (gone come : List Descriptor) (rest : List SchedulerEvent),
        s.reported (.begin clock now :: ms) = gone.map .left ++ come.map .joined ++ rest ∧
          ∀ e ∈ rest, e.isMembership = false) ∧
    ∀ ms before after d,
      (s₀.reported ms = before ++ .joined d :: after →
        d.identity ∉ (replay before).map (·.identity)) ∧
      (s₀.reported ms = before ++ .left d :: after →
        d.identity ∈ (replay before).map (·.identity)) := by
  intro s₀
  refine ⟨fun past clock now ms hidle hms => ⟨?_, ?_⟩, fun ms before after d => ⟨?_, ?_⟩⟩
  · have hfollowed := followed_last options voice hub (past ++ .begin clock now :: ms)
    have hknown : (s₀.last (past ++ .begin clock now :: ms)).scheduler.known =
        (s₀.last past).registry.roster.map (·.descriptor) := by
      rw [last_append, last_cons, (quiet_within_tick hms).2]
      exact (begin_of_isIdle hidle clock now).2
    have hperm := hfollowed.known
    rw [hknown, List.map_map] at hperm
    exact hperm
  · have hreports := (begin_of_isIdle hidle clock now).1
    rw [Scheduler.membershipEvents_eq] at hreports
    rw [reported_cons, hreports]
    exact ⟨_, _, _, rfl, (quiet_within_tick hms).1⟩
  · intro hsplit
    exact (hsplit ▸ (followed_last options voice hub ms).news).isNews
  · intro hsplit
    exact (hsplit ▸ (followed_last options voice hub ms).news).isNews

/-- A module that comes back with another version between two ticks. Another one has joined in front
of it meanwhile, and that is all that is reported. -/
theorem returned_module_not_reported :
    let s₀ := new { level := .none } none .empty
    let past : List SceneMove :=
      [.outside (.join ⟨"alpha", none, "1"⟩), .begin .unset 0,
        .outside (.leave ⟨"alpha", none, "1"⟩), .outside (.join ⟨"beta", none, "1"⟩),
        .outside (.join ⟨"alpha", none, "2"⟩)]
    (s₀.last past).scheduler.isIdle = true ∧
      s₀.reported (past ++ [.begin .unset 100000]) =
        [.joined ⟨"alpha", none, "1"⟩, .joined ⟨"beta", none, "1"⟩] ∧
      (s₀.last past).registry.roster.map (·.descriptor) =
        [⟨"beta", none, "1"⟩, ⟨"alpha", none, "2"⟩] ∧
      ((replay (s₀.reported (past ++ [.begin .unset 100000]))).map (·.identity)).Perm
        ((s₀.last past).registry.roster.map (·.descriptor.identity)) := by
  intro s₀ past
  have hidle : (s₀.last past).scheduler.isIdle = true := by decide +kernel
  exact ⟨hidle, by decide +kernel, by decide +kernel,
    ((replay_perm_members { level := .none } none .empty).1 past .unset 100000 [] hidle
      (by simp)).1⟩

end Scene

end Cadence
