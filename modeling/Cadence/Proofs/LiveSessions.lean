import Cadence.Proofs.Membership
import Cadence.Proofs.OpenRuns
import Cadence.Proofs.SessionRun
import Cadence.Proofs.SettingsTransfer

/-!
# Members and places

A session takes one of the places of a supercomponent until it ends, and its module takes one in the
registry. These are two things: the place is given back by the session itself, however it ends,
while the module leaves because the session says so, or because everybody is told to stop. Here it
is proved that the second never outlives the first. Whoever is in the registry was registered by a
session that still serves it, so that there are never more members than places, and where no session
is left there is no member either, and anybody can come in.

Sessions that are given up when the acceptor stops are the exception. They say nothing more, and
their modules stay.

All this holds of open runs, in which others have access to the registry as well.

## Main definitions

* `SessionStage.Backs`: a session that has registered a member and has not ended
* `Supercomponent.Housed`: members have sessions, and sessions have places

## Main results

* `SessionStep.backs`: what a move of a session is to a member
* `Supercomponent.housed_last`: any run
* `Supercomponent.Housed.length_members_le`: there are no more members than live sessions
* `Supercomponent.readmitted`: where nobody is left a module comes in again
* `Supercomponent.members_bounded`: members, sessions and places
-/

namespace Cadence

open Wire

/-! ### Sessions and members -/

/-- A session at this stage has registered the member and has not ended, unless it was given up. -/
def SessionStage.Backs (n : Member) (stage : SessionStage) : Prop :=
  stage = .serving n.descriptor n.link ∨ stage = .aborted (some n.link)

namespace SessionStep

variable {r r' : Registry} {s t : Session} {n : Member}

/-- **Whoever is a member after a move of a session** was one before, and keeps the session if it
had it; or the session has just registered it. -/
theorem backs (h : SessionStep r s t r') (hn : n ∈ r'.roster) :
    (n ∈ r.roster ∧ (s.stage.Backs n → t.stage.Backs n)) ∨ t.stage.Backs n := by
  cases h with
  | connection hstage | wrote _ _ hstage | gaveUp _ hstage | wroteAll _ _ hstage =>
    exact .inl ⟨hn, fun hs => hstage ▸ hs⟩
  | heeded _ _ hstage =>
    rw [Session.roster_heed] at hn
    exact .inl ⟨hn, fun hs => hstage ▸ hs⟩
  | greeted hbefore | ended hbefore =>
    exact .inl ⟨hn, fun hs => by simp [SessionStage.Backs, hbefore] at hs⟩
  | refused hbefore =>
    refine .inl ⟨hn, fun hs => ?_⟩
    rcases hbefore with hbefore | ⟨d, hbefore⟩ <;> simp [SessionStage.Backs, hbefore] at hs
  | enrolled hbefore admits hstage =>
    -- The only move after which somebody is there who was not.
    rw [Registry.join_of_admits admits] at hn
    rcases List.mem_append.mp hn with hold | hnew
    · exact .inl ⟨hold, fun hs => by simp [SessionStage.Backs, hbefore] at hs⟩
    · rw [List.mem_singleton.mp hnew, hstage]
      exact .inr (.inl rfl)
  | closed hbefore =>
    rw [Registry.connectionLost, Registry.roster_remove, Roster.mem_dismiss] at hn
    refine .inl ⟨hn.1, fun hs => ?_⟩
    simp only [SessionStage.Backs, hbefore, SessionStage.serving.injEq, reduceCtorEq,
      or_false] at hs
    exact absurd (congrArg Descriptor.identity hs.1.symm) hn.2

/-- A session that has ended does not come back to life. -/
theorem isLive_of (h : SessionStep r s t r') (ht : t.isLive = true) : s.isLive = true := by
  cases h with
  | connection hstage | heeded _ _ hstage | wrote _ _ hstage | gaveUp _ hstage
  | wroteAll _ _ hstage => rwa [Session.isLive, ← hstage]
  | greeted hbefore | enrolled hbefore | closed hbefore => rw [Session.isLive, hbefore]
  | refused _ hstage | ended _ hstage =>
    rw [Session.isLive, hstage] at ht
    cases ht

end SessionStep

namespace Session

variable {r : Registry} {s t : Session} {n : Member} {d : Descriptor}

/-- A session that is given up has ended, and its member stays. -/
theorem backs_abort (h : s.abort = some t) (hs : s.stage.Backs n) : t.stage.Backs n := by
  rcases hs with hs | hs <;> rw [abort, hs] at h <;> cases h
  exact .inr rfl

theorem isLive_abort (h : s.abort = some t) : t.isLive = false := by
  obtain ⟨link?, hstage⟩ := exists_aborted h
  rw [isLive, hstage]

/-- A module that is not there yet is welcomed by its introduction. -/
theorem greet_of_admits {clock : TimeStamp} {settings : Settings} {asked answered : Outflow}
    (hadmits : r.admits d = true)
    (hasked : Outflow.fresh.send clock (.ofPayload clock d) = .ok asked)
    (hanswered : Outflow.fresh.send clock (.ofPayload clock (settings.scopedFor d)) =
      .ok answered) :
    greet clock settings r { start with inflow := start.inflow.receive asked.bytes } =
      some { start with outflow := answered, stage := .greeted d } := by
  have hcontains : r.roster.contains d = false := by simpa [Registry.admits] using hadmits
  have hunread : (start.inflow.receive asked.bytes).unread = asked.bytes ++ .empty :=
    ByteArray.empty_append.trans ByteArray.append_empty.symm
  rw [greet_eq rfl rfl hasked hunread, hanswered, hcontains]
  rfl

/-- It is registered with a link of its own. -/
theorem enroll_of_admits (hstage : s.stage = .greeted d) (hadmits : r.admits d = true) :
    s.enroll r =
      some ({ s with writing := true, stage := .serving d r.links.length }, r.join d) := by
  have hcontains : r.openLink.2.roster.contains d = false := by
    simpa [Registry.admits] using hadmits
  rw [enroll, hstage, Registry.join]
  simp only [Registry.register_of_not_contains hcontains]
  rfl

end Session

namespace Supercomponent

variable {c c' : Supercomponent} {es : List SchedulerEvent} {i : SessionId} {n : Member}
  {d : Descriptor} {ms : List OpenMove}

/-! ### Members have sessions, and sessions have places -/

/-- Every member was registered by a session that has not ended, unless it was given up, and there
are no more live sessions than places. -/
structure Housed (c : Supercomponent) : Prop where
  sound : c.registry.Sound
  backed : ∀ n ∈ c.registry.roster, ∃ i stage, c.stage? i = some stage ∧ stage.Backs n
  room : c.acceptor.taken ≤ c.acceptor.places

theorem housed_fresh (now : Nat) (o : SupercomponentOptions) (voice : ParticipantId) (hub : Hub) :
    (fresh now o voice hub).Housed where
  sound := Registry.sound_empty
  backed _ hn := absurd hn List.not_mem_nil
  room := Nat.zero_le _

/-- Nobody comes, and the sessions stay as they are. -/
theorem Housed.mono (h : c.Housed) (hsound : c'.registry.Sound)
    (hroster : c'.registry.roster ⊆ c.registry.roster) (hacceptor : c'.acceptor = c.acceptor) :
    c'.Housed where
  sound := hsound
  backed n hn := by
    obtain ⟨i, stage, hi, hbacks⟩ := h.backed n (hroster hn)
    exact ⟨i, stage, by rw [stage?, hacceptor]; exact hi, hbacks⟩
  room := by
    rw [hacceptor]
    exact h.room

/-- Where a session does not come to life, no more places are taken. -/
theorem countP_set_le {α : Type} {p : α → Bool} {l : List α} {i : Nat} {a b : α}
    (hi : l[i]? = some b) (hp : p a = true → p b = true) : (l.set i a).countP p ≤ l.countP p := by
  obtain ⟨hlt, rfl⟩ := List.getElem?_eq_some_iff.mp hi
  rw [List.countP_set hlt]
  by_cases ha : p a = true
  · have hpos : 0 < l.countP p := List.countP_pos_iff.mpr ⟨_, List.getElem_mem hlt, hp ha⟩
    rw [if_pos ha, if_pos (hp ha)]
    omega
  · rw [if_neg ha]
    exact Nat.sub_le ..

/-- A session makes a move. -/
theorem Housed.set (h : c.Housed) {s t : Session} (hs : c.acceptor.sessions[i]? = some s)
    (hset : c'.acceptor = { c.acceptor with sessions := c.acceptor.sessions.set i t })
    (hsound : c'.registry.Sound) (hlive : t.isLive = true → s.isLive = true)
    (hbacks : ∀ n ∈ c'.registry.roster,
      (n ∈ c.registry.roster ∧ (s.stage.Backs n → t.stage.Backs n)) ∨ t.stage.Backs n) :
    c'.Housed where
  sound := hsound
  backed n hn := by
    have hsessions : c'.acceptor.sessions = c.acceptor.sessions.set i t := by rw [hset]
    have hstage? := stage?_set hs hsessions
    have hself : c'.stage? i = some t.stage := by rw [hstage?, if_pos rfl]
    rcases hbacks n hn with ⟨hold, hkeeps⟩ | hnew
    · obtain ⟨j, stage, hj, hstage⟩ := h.backed n hold
      by_cases hij : i = j
      · subst hij
        rw [stage?_of_session hs] at hj
        cases hj
        exact ⟨i, t.stage, hself, hkeeps hstage⟩
      · exact ⟨j, stage, by rw [hstage?, if_neg hij]; exact hj, hstage⟩
    · exact ⟨i, t.stage, hself, hnew⟩
  room := by
    rw [hset]
    exact Nat.le_trans (countP_set_le hs hlive) h.room

/-- A connection is accepted. -/
theorem Housed.accept (h : c.Housed) (room : c.acceptor.taken < c.acceptor.places) :
    ({ c with acceptor := { c.acceptor with
      sessions := c.acceptor.sessions ++ [.start] } } : Supercomponent).Housed where
  sound := h.sound
  backed n hn := by
    obtain ⟨i, stage, hi, hbacks⟩ := h.backed n hn
    exact ⟨i, stage, stage?_accept_of_eq_some hi, hbacks⟩
  room := by
    rw [Acceptor.taken, List.countP_append]
    exact room

/-- **Every move keeps it.** -/
theorem Housed.of_step (h : c.Housed) (step : SupercomponentStep c c' es) : c'.Housed := by
  cases step with
  | accept _ room => exact h.accept room
  | session hs step => exact h.set hs rfl (step.sound h.sound) step.isLive_of fun _ => step.backs
  | abort hs ht =>
    refine h.set hs rfl h.sound (fun hlive => ?_) fun n hn => .inl ⟨hn, Session.backs_abort ht⟩
    rw [Session.isLive_abort ht] at hlive
    cases hlive
  | schedule step =>
    exact h.mono (h.sound.of_roster_eq step.roster_eq step.length_links_eq)
      (fun _ hn => step.roster_eq ▸ hn) rfl
  | stopScheduler clock =>
    exact h.mono (h.sound.stopAll clock)
      (fun n hn => by simp [registry, Registry.roster_stopAll] at hn) rfl
  | requestStop => exact h.mono h.sound (List.Subset.refl _) rfl
  | stopAcceptor => exact ⟨h.sound, h.backed, h.room⟩

theorem Housed.opened (h : c.Housed) (m : OpenMove) : (c.opened m).Housed := by
  cases m with
  | own m =>
    rcases c.after_cases m with ⟨hsame, -⟩ | step
    · rwa [Supercomponent.opened, hsame]
    · exact h.of_step step
  | outside o =>
    rcases c.opened_outside o with hsame | ⟨hjoin, hacceptor, hregistry⟩
    · rwa [hsame]
    · exact h.mono (hregistry ▸ h.sound.after o)
        (hregistry ▸ Registry.roster_after_subset hjoin) hacceptor

theorem housed_last (now : Nat) (o : SupercomponentOptions) (voice : ParticipantId) (hub : Hub)
    (ms : List OpenMove) : ((fresh now o voice hub).lastOpened ms).Housed :=
  Run.last_induction (fun _ m h => h.opened m) (housed_fresh now o voice hub) ms

/-! ### Counting -/

/-- No session that had a module has been given up. -/
def KeepsSessions (c : Supercomponent) : Prop :=
  ∀ s ∈ c.acceptor.sessions, ∀ l, s.stage ≠ .aborted (some l)

/-- Where no session has been given up, every member is served by the session that has registered
it. -/
theorem Housed.exists_serving (h : c.Housed) (hkept : c.KeepsSessions) (hn : n ∈ c.members) :
    ∃ (i : SessionId) (s : Session), c.acceptor.sessions[i]? = some s ∧ s.isLive = true ∧
      s.stage = .serving n.descriptor n.link := by
  obtain ⟨i, stage, hi, hbacks⟩ := h.backed n hn
  obtain ⟨s, hs, rfl⟩ := Option.map_eq_some_iff.mp hi
  rcases hbacks with hstage | hstage
  · exact ⟨i, s, hs, by rw [Session.isLive, hstage], hstage⟩
  · exact absurd hstage (hkept s (List.mem_of_getElem? hs) _)

/-- The link over which a session serves. -/
def servingOver? (s : Session) : Option LinkId :=
  match s.stage with
  | .serving _ l => some l
  | _ => none

/-- **There are no more members than live sessions.** -/
theorem Housed.length_members_le (h : c.Housed) (hkept : c.KeepsSessions) :
    c.members.length ≤ c.acceptor.taken := by
  -- Links tell the members apart, and every link is served by a session of its own.
  have hsubset : c.members.map (·.link) ⊆ c.acceptor.sessions.filterMap servingOver? := by
    intro l hl
    obtain ⟨n, hn, rfl⟩ := List.mem_map.mp hl
    obtain ⟨i, s, hs, -, hstage⟩ := h.exists_serving hkept hn
    exact List.mem_filterMap.mpr ⟨s, List.mem_of_getElem? hs, by rw [servingOver?, hstage]⟩
  have hnodup : (c.members.map (·.link)).Nodup := List.pairwise_map.mpr h.sound.links_ne
  have hlength := (hnodup.subperm hsubset).length_le
  rw [List.length_map, List.length_filterMap_eq_countP] at hlength
  refine Nat.le_trans hlength (List.countP_mono_left fun s _ hs => ?_)
  rw [servingOver?] at hs
  rw [Session.isLive]
  split at hs
  · next hstage => rw [hstage]
  · cases hs

/-- Where no session is left there is no member. -/
theorem Housed.members_eq_nil (h : c.Housed) (hkept : c.KeepsSessions)
    (hended : ∀ s ∈ c.acceptor.sessions, s.isLive = false) : c.members = [] := by
  refine List.eq_nil_iff_forall_not_mem.mpr fun n hn => ?_
  obtain ⟨i, s, hs, hlive, -⟩ := h.exists_serving hkept hn
  rw [hended s (List.mem_of_getElem? hs)] at hlive
  cases hlive

/-! ### Coming in again -/

/-- A session makes a move that it can make. -/
theorem session_moves {clock : TimeStamp} {s t : Session} {r : Registry} {what : SessionMove}
    (hs : c.acceptor.sessions[i]? = some s) (hown : what ≠ .abort)
    (hmove : Acceptor.moveSession clock c.acceptor.settings c.run.scheduler.snapshot c.registry s
      what = some (t, r)) :
    (c.after (clock, .session i what)).acceptor.sessions[i]? = some t ∧
      (c.after (clock, .session i what)).registry = r ∧
      (c.after (clock, .session i what)).acceptor.settings = c.acceptor.settings := by
  rw [after_session hs fun h => absurd h hown, hmove]
  exact ⟨List.getElem?_set_self (List.getElem?_eq_some_iff.mp hs).1, rfl, rfl⟩

/-- A new connection is accepted where there is a place. -/
theorem connection_accepted (clock : TimeStamp) (haccepting : c.acceptor.accepting = true)
    (hroom : c.acceptor.taken < c.acceptor.places) :
    (c.after (clock, .accept)).acceptor.sessions[c.acceptor.sessions.length]? = some .start ∧
      (c.after (clock, .accept)).registry = c.registry ∧
      (c.after (clock, .accept)).acceptor.settings = c.acceptor.settings := by
  rw [after, move, Acceptor.accept, if_pos (by simp [haccepting, hroom])]
  exact ⟨List.getElem?_concat_length, rfl, rfl⟩

/-- The moves by which a module comes in on a new connection. -/
def comingIn (c : Supercomponent) (clock : TimeStamp) (introduction : ByteArray) :
    List (TimeStamp × SupercomponentMove) :=
  let i := c.acceptor.sessions.length
  [.accept, .session i (.arrive introduction), .session i .greet, .session i .enroll].map (clock, ·)

/-- **Where nobody is left, every module can come in**, if there is a place, and if its introduction
and its settings fit into a frame. It gets the first slot. -/
theorem readmitted {clock : TimeStamp} {asked answered : Outflow} (hnobody : c.members = [])
    (haccepting : c.acceptor.accepting = true) (hroom : c.acceptor.taken < c.acceptor.places)
    (hasked : Outflow.fresh.send clock (.ofPayload clock d) = .ok asked)
    (hanswered : Outflow.fresh.send clock
      (.ofPayload clock (c.acceptor.settings.scopedFor d)) = .ok answered) :
    (c.last (c.comingIn clock asked.bytes)).stage? c.acceptor.sessions.length =
        some (.serving d c.registry.links.length) ∧
      (c.last (c.comingIn clock asked.bytes)).members = [⟨d, 0, c.registry.links.length⟩] := by
  have hroster : c.registry.roster = [] := hnobody
  have hadmits : c.registry.admits d = true := by
    rw [Registry.admits, hroster]
    rfl
  -- The connection is accepted, the introduction arrives, it is answered, the module is registered.
  obtain ⟨hs₁, hr₁, hsettings₁⟩ := connection_accepted clock haccepting hroom
  generalize hc₁ : c.after (clock, .accept) = c₁ at hs₁ hr₁ hsettings₁
  have harrive : Acceptor.moveSession clock c₁.acceptor.settings c₁.run.scheduler.snapshot
      c₁.registry .start (.arrive asked.bytes) =
      some ({ Session.start with inflow := Session.start.inflow.receive asked.bytes },
        c₁.registry) := rfl
  obtain ⟨hs₂, hr₂, hsettings₂⟩ := session_moves hs₁ (by simp) harrive
  generalize hc₂ : c₁.after _ = c₂ at hs₂ hr₂ hsettings₂
  have hgreet : Acceptor.moveSession clock c₂.acceptor.settings c₂.run.scheduler.snapshot
      c₂.registry { Session.start with inflow := Session.start.inflow.receive asked.bytes } .greet =
      some ({ Session.start with outflow := answered, stage := .greeted d }, c₂.registry) := by
    rw [Acceptor.moveSession, hsettings₂, hsettings₁,
      Session.greet_of_admits (by rw [hr₂, hr₁, hadmits]) hasked hanswered]
    rfl
  obtain ⟨hs₃, hr₃, -⟩ := session_moves hs₂ (by simp) hgreet
  generalize hc₃ : c₂.after _ = c₃ at hs₃ hr₃
  have henroll : Acceptor.moveSession clock c₃.acceptor.settings c₃.run.scheduler.snapshot
      c₃.registry { Session.start with outflow := answered, stage := .greeted d } .enroll =
      some ({ Session.start with outflow := answered, writing := true,
                                 stage := .serving d c.registry.links.length },
        c.registry.join d) := by
    rw [Acceptor.moveSession, hr₃, hr₂, hr₁]
    exact Session.enroll_of_admits rfl hadmits
  obtain ⟨hs₄, hr₄, -⟩ := session_moves hs₃ (by simp) henroll
  have hlast : c.last (c.comingIn clock asked.bytes) =
      c₃.after (clock, .session c.acceptor.sessions.length .enroll) := by
    rw [← hc₃, ← hc₂, ← hc₁]
    rfl
  rw [hlast]
  refine ⟨stage?_of_session hs₄, ?_⟩
  rw [members, show (c₃.after _).exchange.registry = c.registry.join d from hr₄,
    Registry.join_of_admits hadmits, hroster]
  rfl

/-! ### Any run -/

/-- **Members are bounded by sessions, and sessions by places.** Take any run of a supercomponent
whose registry is open to others. Every member was registered by a session that still serves it or
was given up while it did. At most as many sessions are live as there are places, and a connection
is accepted if there is a place left and connections are accepted at all. As long as no session is
given up, every member has a live session, and so there are no more members than places. When all
sessions have ended, nobody is in the registry, every module can be registered, and a new connection
brings a module in, if its introduction and its settings fit into a frame. -/
theorem members_bounded (now : Nat) (o : SupercomponentOptions) (voice : ParticipantId)
    (hub : Hub) (ms : List OpenMove) :
    let c := (fresh now o voice hub).lastOpened ms
    (∀ n ∈ c.members, ∃ i, c.stage? i = some (.serving n.descriptor n.link) ∨
      c.stage? i = some (.aborted (some n.link))) ∧
    c.acceptor.taken ≤ max 1 o.maxModules ∧
    (c.acceptor.accept.isSome = true ↔
      c.acceptor.accepting = true ∧ c.acceptor.taken < max 1 o.maxModules) ∧
    (c.KeepsSessions →
      (∀ n ∈ c.members, ∃ (i : SessionId) (s : Session), c.acceptor.sessions[i]? = some s ∧
        s.isLive = true ∧ s.stage = .serving n.descriptor n.link) ∧
      c.members.length ≤ c.acceptor.taken ∧ c.members.length ≤ max 1 o.maxModules ∧
      ((∀ s ∈ c.acceptor.sessions, s.isLive = false) →
        c.members = [] ∧ (∀ d l, ∃ r, c.registry.register d l = .ok (0, r)) ∧
        (c.acceptor.accepting = true → ∀ clock d asked answered,
          Outflow.fresh.send clock (.ofPayload clock d) = .ok asked →
          Outflow.fresh.send clock (.ofPayload clock (o.settings.scopedFor d)) = .ok answered →
          let c' := c.last (c.comingIn clock asked.bytes)
          c'.stage? c.acceptor.sessions.length = some (.serving d c.registry.links.length) ∧
            c'.members = [⟨d, 0, c.registry.links.length⟩]))) := by
  intro c
  have housed : c.Housed := housed_last now o voice hub ms
  obtain ⟨hmaxModules, hsettings⟩ : c.acceptor.maxModules = o.maxModules ∧
      c.acceptor.settings = o.settings := constants_last (fresh now o voice hub) ms
  have hplaces : c.acceptor.places = max 1 o.maxModules := by rw [Acceptor.places, hmaxModules]
  have htaken : c.acceptor.taken ≤ max 1 o.maxModules := hplaces ▸ housed.room
  refine ⟨fun n hn => ?_, htaken, ?_, fun hkept => ⟨fun n hn => housed.exists_serving hkept hn,
    housed.length_members_le hkept, (housed.length_members_le hkept).trans htaken,
    fun hended => ?_⟩⟩
  · obtain ⟨i, stage, hi, hbacks⟩ := housed.backed n hn
    exact ⟨i, hbacks.imp (fun hstage => hi.trans (congrArg some hstage))
      fun hstage => hi.trans (congrArg some hstage)⟩
  · rw [Acceptor.accept, hplaces]
    split <;> simp_all
  · have hnobody : c.members = [] := housed.members_eq_nil hkept hended
    have hroom : c.acceptor.taken < c.acceptor.places := by
      have hnone : c.acceptor.taken = 0 :=
        List.countP_eq_zero.mpr fun s hs => by rw [hended s hs]; decide
      rw [hnone]
      exact Nat.lt_of_lt_of_le Nat.one_pos (Nat.le_max_left ..)
    have hroster : c.registry.roster = [] := hnobody
    refine ⟨hnobody, fun d l => ?_, fun haccepting clock d asked answered hasked hanswered =>
      readmitted hnobody haccepting hroom hasked (hsettings ▸ hanswered)⟩
    rw [Registry.register_of_not_contains (by rw [hroster]; rfl), hroster]
    exact ⟨_, rfl⟩

/-- The moves of a first session: a module comes in, closes its end, and leaves. -/
def firstSession (introduction : ByteArray) : List OpenMove :=
  ([.accept, .session 0 (.arrive introduction), .session 0 .greet, .session 0 .enroll,
    .session 0 .closeInflow, .session 0 .read, .session 0 .write, .session 0 .conclude].map
    (⟨1, 0⟩, ·)).map .own

/-- One place, which is taken, given back and taken again. -/
theorem place_taken_again :
    let d : Descriptor := ⟨"cockpit", none, "1"⟩
    let asked : Outflow := { Outflow.fresh with written := [.ofPayload ⟨1, 0⟩ d] }
    let c₀ := fresh 0 { maxModules := 0 } 0 ⟨[⟨111, true, false, []⟩]⟩
    let served := c₀.lastOpened ((firstSession asked.bytes).take 4)
    let c := c₀.lastOpened (firstSession asked.bytes)
    served.members = [⟨d, 0, 0⟩] ∧ served.acceptor.accept.isSome = false ∧
      c.acceptor.sessions.map (·.stage) = [.over] ∧ c.members = [] ∧
      (c.last (c.comingIn ⟨1, 0⟩ asked.bytes)).members = [⟨d, 0, 1⟩] := by
  refine ⟨by decide +kernel, by decide +kernel, ?_⟩
  generalize hasked : ({ Outflow.fresh with written :=
    [.ofPayload ⟨1, 0⟩ (⟨"cockpit", none, "1"⟩ : Descriptor)] } : Outflow) = asked
  have hbounded := members_bounded 0 { maxModules := 0 } 0 ⟨[⟨111, true, false, []⟩]⟩
    (firstSession asked.bytes)
  -- The run is evaluated here. From here on, it counts only how it has ended.
  have hrun :
      let c := (fresh 0 { maxModules := 0 } 0 ⟨[⟨111, true, false, []⟩]⟩).lastOpened
        (firstSession asked.bytes)
      c.acceptor.sessions.map (·.stage) = [.over] ∧ c.acceptor.accepting = true ∧
        c.registry.links.length = 1 := by
    rw [← hasked]
    decide +kernel
  generalize (fresh 0 { maxModules := 0 } 0 ⟨[⟨111, true, false, []⟩]⟩).lastOpened
    (firstSession asked.bytes) = c at hbounded hrun ⊢
  obtain ⟨hstages, haccepting, hlinks⟩ := hrun
  have hover : ∀ s ∈ c.acceptor.sessions, s.stage = .over := fun s hs => by
    have hstage : s.stage ∈ c.acceptor.sessions.map (·.stage) := List.mem_map_of_mem hs
    rwa [hstages, List.mem_singleton] at hstage
  obtain ⟨-, -, -, hended⟩ := hbounded.2.2.2 fun s hs l => by simp [hover s hs]
  obtain ⟨hnobody, -, hcomesIn⟩ := hended fun s hs => by rw [Session.isLive, hover s hs]
  have hreadmitted := hcomesIn haccepting ⟨1, 0⟩ ⟨"cockpit", none, "1"⟩ asked _
    (hasked ▸ Outflow.send_ofPayload rfl (by decide +kernel))
    (Outflow.send_ofPayload rfl (by decide +kernel))
  refine ⟨hstages, hnobody, ?_⟩
  rw [hreadmitted.2, hlinks]

end Supercomponent

end Cadence
