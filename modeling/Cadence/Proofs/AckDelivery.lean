import Cadence.Proofs.Scene

/-!
# The way of an acknowledgement

An acknowledgement that a module hands in is accepted on the link of its registration, waits there,
and goes out on the conference when the scheduler takes it. Here it is proved that none is lost on
this way, none is doubled, and none is overtaken; that a visit begins with all that waited before
it; that nobody is credited with what another module, or another registration of the same module,
has acknowledged; and that, as long as others leave the conferences alone, the envelopes of an
acknowledgement come to the participants of the conference one right after the other.

A participant that does not keep up loses the oldest of its frames. That is the only way for a frame
to be lost, and it leaves the order as it is.

## Main definitions

* `Hub.fitting`: the frames of the envelopes that fit
* `Hub.Given`, `Hub.Spoken`: what one participant, and all of them, have of frames that are
  published
* `Scene.spoken`: the frames that the scheduler publishes during a run

## Main results

* `Hub.spoken_publishAll`: what the participants have of envelopes that are published
* `Scene.acks_prefix_publishedOn`: what waited before a visit is published before the pulse
* `Scene.spoken_last`: what the conference gets of a run
* `Scene.acks_in_order`: the way of the acknowledgements in any run
-/

namespace Cadence

/-! ### On the conference -/

namespace Hub

/-- The frames of the envelopes that fit, in order. -/
def fitting (now : TimeStamp) (es : List Envelope) : List ByteArray :=
  es.filterMap fun e => (frameOf now e).toOption

/-- A participant `q` becomes `q'` when it is given these frames, one right after the other. It may
lose frames then, but only the oldest, and only as many as do not find room. -/
structure Given (frames : List ByteArray) (q q' : Participant) : Prop where
  cid : q'.cid = q.cid
  present : q'.present = q.present
  listening : q'.listening = q.listening
  pending : ∃ lost, lost ++ q'.pending = q.pending ++ frames ∧
    lost.length ≤ q.pending.length + frames.length - queueDepth

/-- A participant takes frame after frame of a conference. -/
def takeAll (cid : UInt8) (frames : List ByteArray) (q : Participant) : Participant :=
  frames.foldl (fun q frame => Participant.take cid frame q) q

section

variable {cid : UInt8} {frame : ByteArray} {frames more : List ByteArray} {q q' q'' : Participant}

theorem given_nil (q : Participant) : Given [] q q := ⟨rfl, rfl, rfl, [], by simp⟩

theorem given_take (h : (q.present && q.cid == cid) = true) (frame : ByteArray) :
    Given [frame] q (Participant.take cid frame q) := by
  rw [Participant.take, if_pos h]
  refine ⟨rfl, rfl, rfl,
    (q.pending ++ [frame]).take ((q.pending ++ [frame]).length - queueDepth), ?_, ?_⟩
  · simp only [keepLatest, List.take_append_drop]
  · rw [List.length_take, List.length_append]
    exact Nat.min_le_left ..

theorem Given.trans (h : Given frames q q') (h' : Given more q' q'') :
    Given (frames ++ more) q q'' := by
  obtain ⟨lost, hlost, hfew⟩ := h.pending
  obtain ⟨lost', hlost', hfew'⟩ := h'.pending
  have hlength := congrArg List.length hlost
  simp only [List.length_append] at hlength
  refine ⟨h'.cid.trans h.cid, h'.present.trans h.present, h'.listening.trans h.listening,
    lost ++ lost', ?_, ?_⟩
  · rw [List.append_assoc, hlost', ← List.append_assoc, hlost, List.append_assoc]
  · simp only [List.length_append]
    omega

/-- Whoever is there and in the conference is given all the frames. -/
theorem given_takeAll (h : (q.present && q.cid == cid) = true) (frames : List ByteArray) :
    Given frames q (takeAll cid frames q) := by
  induction frames generalizing q with
  | nil => exact given_nil q
  | cons frame frames ih =>
    have first := given_take h frame
    exact first.trans (ih (by rw [first.present, first.cid, h]))

/-- Whoever is not there, or elsewhere, is given nothing. -/
theorem takeAll_eq_self (h : (q.present && q.cid == cid) = false) (frames : List ByteArray) :
    takeAll cid frames q = q := by
  induction frames with
  | nil => rfl
  | cons frame frames ih =>
    rw [takeAll, List.foldl_cons, Participant.take, if_neg (by simp [h])]
    exact ih

theorem take_cid : (Participant.take cid frame q).cid = q.cid := by
  rw [Participant.take]
  split <;> rfl

theorem take_present : (Participant.take cid frame q).present = q.present := by
  rw [Participant.take]
  split <;> rfl

end

variable {h : Hub} {now : TimeStamp} {i : ParticipantId} {p : Participant}

/-- The envelopes that a participant publishes are given, as far as they fit, to everybody in its
conference. -/
theorem participants_publishAll (hp : h.participants[i]? = some p) (hpresent : p.present = true)
    (es : List Envelope) :
    (h.publishAll now i es).participants = h.participants.map (takeAll p.cid (fitting now es)) := by
  induction es generalizing h p with
  | nil => exact (List.map_id _).symm
  | cons e es ih =>
    have hstep : h.publishAll now i (e :: es) =
        ((h.publish now i e).toOption.getD h).publishAll now i es := rfl
    rw [hstep, publish, hp]
    simp only [hpresent, if_true, publishOn]
    cases hframe : frameOf now e with
    | error error =>
      rw [show fitting now (e :: es) = fitting now es by simp [fitting, hframe, Except.toOption]]
      exact ih hp hpresent
    | ok frame =>
      have hfitting : fitting now (e :: es) = frame :: fitting now es := by
        simp [fitting, hframe, Except.toOption]
      have hp' : (⟨h.participants.map (Participant.take p.cid frame)⟩ : Hub).participants[i]? =
          some (Participant.take p.cid frame p) := by simp [hp]
      rw [hfitting]
      refine (ih hp' (take_present.trans hpresent)).trans ?_
      simp only [List.map_map, take_cid]
      rfl

/-- A participant `i` has published these frames, one right after the other. If it was there, then
those in its conference are given them, and for all others nothing has changed. -/
def Spoken (i : ParticipantId) (frames : List ByteArray) (h h' : Hub) : Prop :=
  ∀ speaker, h.participants[i]? = some speaker → speaker.present = true →
    ∀ (j : ParticipantId) listener, h.participants[j]? = some listener →
      ∃ listener', h'.participants[j]? = some listener' ∧
        ((listener.present && listener.cid == speaker.cid) = true →
          Given frames listener listener') ∧
        ((listener.present && listener.cid == speaker.cid) = false → listener' = listener)

theorem spoken_nil (i : ParticipantId) (h : Hub) : Spoken i [] h h :=
  fun _ _ _ _ listener hlistener => ⟨listener, hlistener, fun _ => given_nil _, fun _ => rfl⟩

/-- What is published first comes first. -/
theorem Spoken.trans {h h' h'' : Hub} {frames more : List ByteArray} (first : Spoken i frames h h')
    (second : Spoken i more h' h'') : Spoken i (frames ++ more) h h'' := by
  intro speaker hspeaker hpresent j listener hlistener
  obtain ⟨speaker', hspeaker', hspeaks, -⟩ := first speaker hspeaker hpresent i speaker hspeaker
  have hgiven := hspeaks (by simp [hpresent])
  obtain ⟨listener', hlistener', hin, hout⟩ :=
    first speaker hspeaker hpresent j listener hlistener
  obtain ⟨listener'', hlistener'', hin', hout'⟩ := second speaker' hspeaker'
    (hgiven.present.trans hpresent) j listener' hlistener'
  rw [hgiven.cid] at hin' hout'
  refine ⟨listener'', hlistener'', fun h => ?_, fun h => ?_⟩
  · have hheard := hin h
    exact hheard.trans (hin' (by rw [hheard.present, hheard.cid, h]))
  · obtain rfl := hout h
    exact hout' h

theorem spoken_publishAll (now : TimeStamp) (i : ParticipantId) (es : List Envelope) (h : Hub) :
    Spoken i (fitting now es) h (h.publishAll now i es) := by
  intro speaker hspeaker hpresent j listener hlistener
  refine ⟨takeAll speaker.cid (fitting now es) listener, ?_, fun hin => given_takeAll hin _,
    fun hout => takeAll_eq_self hout _⟩
  rw [participants_publishAll hspeaker hpresent]
  simp [hlistener]

end Hub

namespace Scene

variable {s : Scene} {ms : List SceneMove} {p q : Pulse} {m m' : Member} {rest rest' : Roster}

/-! ### Before the pulse -/

/-- Nothing waits of a member when the scheduler turns to pulsing it. -/
theorem acks_eq_nil_of_sending {mv : SceneMove} {i : LinkId}
    (hp : ∀ p m rest, s.phase = .sending p m rest → m.link ≠ i)
    (hp' : (s.step mv).phase = .sending p m rest) (hi : m.link = i) : (s.step mv).acks i = [] := by
  cases mv with
  | outside mv => exact absurd hi (hp p m rest hp')
  | begin clock now =>
    by_cases hidle : s.scheduler.isIdle
    · simp only [step, hidle, if_true] at hp'
      exact absurd hp' Scheduler.firstPhase_ne_sending
    · simp only [step, hidle] at hp'
      exact absurd hi (hp p m rest hp')
  | advance clock now =>
    rcases s.advance_cases clock now with ⟨hstep, -⟩ | small
    · rw [hstep] at hp'
      exact absurd hi (hp p m rest hp')
    · rw [← hi]
      exact small.acks_eq_nil_of_sending hp'
  | giveUp => cases hp'

/-- What waited of a member when its visit began is published when it is about to be pulsed. It does
not matter whether the member is still in the registry. -/
theorem acks_prefix_publishedOn (hsound : s.registry.Sound)
    (hp : s.phase = .visiting p (m :: rest)) (hend : (s.last ms).phase = .sending q m' rest')
    (hlink : m'.link = m.link) : s.acks m.link <+: s.publishedOn ms m.link := by
  obtain ⟨before, mv, later, rfl, hstays, henters⟩ := Run.exists_leaving
    (P := fun t : Scene => ∀ p m' rest, t.phase = .sending p m' rest → m'.link ≠ m.link)
    (fun p m' rest h => by simp [hp] at h) (fun h => h q m' rest' hend hlink)
  simp only [not_forall, not_not] at henters
  obtain ⟨p', n, rest', hphase, hn⟩ := henters
  have hempty : (s.last (before ++ [mv])).acks m.link = [] := by
    rw [last_append]
    exact acks_eq_nil_of_sending hstays.last hphase hn
  have hkept := acks_append_acceptedOn hsound (before ++ [mv]) m.link
  rw [hempty, List.append_nil] at hkept
  rw [List.append_cons, publishedOn_append, ← hkept, List.append_assoc]
  exact List.prefix_append ..

/-! ### The conference of the voice -/

/-- The frames that the scheduler puts on the conference in a move: those of what it takes, one
acknowledgement after the other. -/
def outgoing (s : Scene) : SceneMove → List ByteArray
  | .advance clock now =>
    (s.publications (.advance clock now)).flatMap fun t => Hub.fitting clock t.2.envelopes
  | .outside _ | .begin .. | .giveUp => []

/-- The frames that the scheduler puts on the conference during a run. -/
def spoken (s : Scene) (ms : List SceneMove) : List ByteArray := Run.seen step outgoing s ms

variable {i : ParticipantId}

/-- With a small step the conference gets what the scheduler takes then. -/
theorem spoken_of_advance (clock : TimeStamp) (now : Nat) (hvoice : s.scheduler.voice = some i) :
    Hub.Spoken i (s.outgoing (.advance clock now)) s.hub (s.step (.advance clock now)).hub := by
  rw [hub_advance, outgoing, hvoice]
  generalize s.publications (.advance clock now) = ts, s.hub = h
  induction ts generalizing h with
  | nil => exact Hub.spoken_nil i h
  | cons t ts ih => exact (Hub.spoken_publishAll clock i t.2.envelopes h).trans (ih _)

/-- As long as others leave the conferences alone, the conference of the voice gets what the
scheduler takes, in this order and nothing else. -/
theorem spoken_last (hquiet : ∀ m ∈ ms, ∀ hub, m ≠ .outside (.conference hub))
    (hvoice : s.scheduler.voice = some i) :
    Hub.Spoken i (s.spoken ms) s.hub (s.last ms).hub := by
  induction ms generalizing s with
  | nil => exact Hub.spoken_nil i s.hub
  | cons m ms ih =>
    have hfirst : Hub.Spoken i (s.outgoing m) s.hub (s.step m).hub := by
      cases m with
      | advance clock now => exact spoken_of_advance clock now hvoice
      | outside m =>
        cases m with
        | conference hub => exact absurd rfl (hquiet _ List.mem_cons_self hub)
        | join | leave | acknowledge | stopAll | takeOut | hangUp => exact Hub.spoken_nil i s.hub
      | giveUp => exact Hub.spoken_nil i s.hub
      | begin =>
        rw [show (s.step (.begin _ _)).hub = s.hub by rw [step]; split <;> rfl]
        exact Hub.spoken_nil i s.hub
    exact hfirst.trans (ih (fun m hm => hquiet m (List.mem_cons_of_mem _ hm))
      ((voice_step m).trans hvoice))

/-! ### Any run -/

/-- **The way of the acknowledgements.** In every run, whatever the moves and their order: what is
accepted on a link is, in this order, published or still waits. What is published is reported as
published, in this order. Registrations are over different links; what is published is credited to
the registration over whose link it came, and was accepted for that module. What waited when a visit
began is published when the member is about to be pulsed. During every stretch in which others leave
the conferences alone, the conference of the voice gets the envelopes of what is published, as far
as they fit, one right after the other, and nothing else. -/
theorem acks_in_order (options : SchedulerOptions) (voice : Option ParticipantId) (hub : Hub)
    (ms : List SceneMove) :
    let s₀ := new options voice hub
    (∀ i, s₀.acceptedOn ms i = s₀.publishedOn ms i ++ (s₀.last ms).acks i) ∧
    (s₀.reported ms).filter (·.isPublication) =
      (s₀.published ms).map (fun t => t.2.publishedBy t.1) ∧
    (s₀.enrolled ms).Pairwise (fun e f => e.link ≠ f.link) ∧
    (∀ t ∈ s₀.published ms, ⟨t.1.descriptor, t.1.link⟩ ∈ s₀.enrolled ms) ∧
    (∀ a ∈ s₀.delivered ms, ∃ e ∈ s₀.enrolled ms,
      e.link = a.link ∧ e.descriptor.identity = a.descriptor.identity) ∧
    (∀ (before drain : List SceneMove) (p q : Pulse) (m m' : Member) (rest rest' : Roster),
      ms = before ++ drain → (s₀.last before).phase = .visiting p (m :: rest) →
      (s₀.last ms).phase = .sending q m' rest' → m'.link = m.link →
      (s₀.last before).acks m.link <+: (s₀.last before).publishedOn drain m.link) ∧
    ∀ (before stretch later : List SceneMove) (i : ParticipantId),
      ms = before ++ (stretch ++ later) →
      (∀ m ∈ stretch, ∀ hub, m ≠ .outside (.conference hub)) → voice = some i →
      Hub.Spoken i ((s₀.last before).spoken stretch) (s₀.last before).hub
        (s₀.last (before ++ stretch)).hub := by
  intro s₀
  have hsound : s₀.registry.Sound := Registry.sound_empty
  have hknown := knownFrom_last_new options voice hub ms
  refine ⟨fun i => ?_, reported_filter_isPublication ms, hknown.distinct,
    fun t ht => published_subset_enrolled options voice hub ht,
    fun a ha => exists_enrolled_of_delivered options voice hub ha, ?_, ?_⟩
  · exact acks_append_acceptedOn hsound ms i
  · rintro before drain p q m m' rest rest' rfl hp hend hlink
    rw [last_append] at hend
    exact acks_prefix_publishedOn (sound_last hsound before) hp hend hlink
  · intro before stretch later i _ hquiet hvoice
    rw [last_append]
    exact spoken_last hquiet ((voice_last before).trans hvoice)

/-- An acknowledgement with two envelopes waits when the visit of its module begins, and another
comes before the pulse. The first is published then, and whoever listens in the conference has its
two envelopes, one after the other; the second still waits. -/
theorem two_acks_in_order :
    let alpha : Descriptor := ⟨"alpha", none, "1"⟩
    let e (n : UInt8) : Envelope := .wrap .unset 1000 ⟨#[n]⟩
    let frame (n : UInt8) : ByteArray := Wire.Frame.encode (Wire.Message.encode (e n))
    let first : PulseAck := ⟨7, [e 1, e 2]⟩
    let second : PulseAck := ⟨1, []⟩
    let hub : Hub := ⟨[⟨111, true, true, []⟩, ⟨111, true, true, []⟩]⟩
    let s₀ := new { level := .pulseTimeAck } (some 0) hub
    let before : List SceneMove := [.outside (.join alpha), .outside (.acknowledge alpha first),
      .begin .unset 0]
    let drain : List SceneMove := [.advance .unset 0, .advance .unset 0, .advance .unset 0,
      .outside (.acknowledge alpha second)]
    [first, second] = s₀.publishedOn (before ++ drain) 0 ++ [second] ∧
      [first] <+: (s₀.last before).publishedOn drain 0 ∧
      ∃ listener, (s₀.last (before ++ drain)).hub.participants[1]? = some listener ∧
        listener.pending = [frame 1, frame 2] := by
  intro alpha e frame first second hub s₀ before drain
  let p := s₀.scheduler.nextPulse .unset
  let m : Member := ⟨alpha, 0, 0⟩
  obtain ⟨hkept, -, -, -, -, hdrained, hspoken⟩ :=
    acks_in_order { level := .pulseTimeAck } (some 0) hub (before ++ drain)
  refine ⟨?_, hdrained before drain p p m m [] [] rfl (by rfl) (by rfl) rfl, ?_⟩
  · have haccepted : s₀.acceptedOn (before ++ drain) 0 = [first, second] := by decide +kernel
    have hwaiting : (s₀.last (before ++ drain)).acks 0 = [second] := by decide +kernel
    rw [← haccepted, ← hwaiting]
    exact hkept 0
  · have hquiet : ∀ m ∈ drain, ∀ hub, m ≠ .outside (.conference hub) := by simp [drain]
    have hframes : (s₀.last before).spoken drain = [frame 1, frame 2] := by decide +kernel
    have hheard : Hub.Spoken 0 [frame 1, frame 2] hub (s₀.last (before ++ drain)).hub :=
      hframes ▸ hspoken before drain [] 0 (by simp) hquiet rfl
    obtain ⟨listener, hlistener, hgiven, -⟩ :=
      hheard ⟨111, true, true, []⟩ rfl rfl 1 ⟨111, true, true, []⟩ rfl
    obtain ⟨lost, hlost, hfew⟩ := (hgiven rfl).pending
    obtain rfl : lost = [] :=
      List.length_eq_zero_iff.mp (Nat.le_zero.mp (hfew.trans (by decide +kernel)))
    exact ⟨listener, hlistener, hlost⟩

end Scene

end Cadence
