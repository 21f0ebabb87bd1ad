import Cadence.Proofs.Shutdown

/-!
# One session in a run

A run of a supercomponent is the run of many sessions. Here it is seen from one of them: in every
move it makes a move of its own, or stays as it is. A session that has left the registry, or was
never let in, does not come back.

## Main definitions

* `Session.Writes`: what the writer of a session does
* `Supercomponent.Moves`: a session makes a move
* `SessionStage.isGone`: the session neither serves nor is about to

## Main results

* `Supercomponent.session_cases`, `Supercomponent.session_of_none`: what becomes of a session
* `Supercomponent.gone_last`: whoever has gone does not come back
-/

namespace Cadence

/-! ### Writing -/

namespace Session

/-- What the writer of a session does next, for the link whose queue it writes. -/
inductive Writes (now : TimeStamp) (snapshot : Roster) (r : Registry) (s : Session) (l : LinkId) :
    Session → Registry → Prop where
  | wrote {e : Envelope} {rest : List Envelope} {outflow : Outflow}
      (queued : (r.link l).outbound = e :: rest) (sent : s.outflow.send now e = .ok outflow) :
      Writes now snapshot r s l { s with outflow } (r.takeOut l 1)
  /-- What comes next cannot be written, and the queue is given up. -/
  | gaveUp {e : Envelope} {rest : List Envelope} {error : ConnectionError}
      (queued : (r.link l).outbound = e :: rest) (refused : s.outflow.send now e = .error error) :
      Writes now snapshot r s l s.endWriting (r.hangUp l)
  /-- Nothing is left, and nobody can queue anything more. -/
  | wroteAll (empty : (r.link l).outbound = []) (unheld : r.isHeld snapshot l = false) :
      Writes now snapshot r s l s.endWriting r

variable {now : TimeStamp} {snapshot : Roster} {r r' : Registry} {s t : Session} {l : LinkId}

theorem Writes.of_write (h : s.write now snapshot r = some (t, r')) :
    ∃ l, s.writingTo? = some l ∧ Writes now snapshot r s l t r' := by
  simp only [write, bind, Option.bind_eq_some_iff] at h
  obtain ⟨l, hl, h⟩ := h
  refine ⟨l, hl, ?_⟩
  split at h
  · next e rest queued =>
    split at h
    · next sent =>
      cases h
      rw [SessionStep.updateLink_eq_takeOut queued]
      exact .wrote queued sent
    · next refused =>
      cases h
      exact .gaveUp queued refused
  · next empty =>
    split at h
    · cases h
    · next unheld =>
      cases h
      exact .wroteAll empty (by simpa using unheld)

/-- The writer of a session changes what has been written, and nothing else, unless it finishes. -/
theorem Writes.stage_eq (h : Writes now snapshot r s l t r') : t.stage = s.stage := by
  cases h <;> rfl

theorem Writes.inflow_eq (h : Writes now snapshot r s l t r') : t.inflow = s.inflow := by
  cases h <;> rfl

end Session

/-! ### Sessions that have gone -/

/-- The session neither serves a module nor is on the way to it. -/
def SessionStage.isGone : SessionStage → Bool
  | .greeting | .greeted _ | .serving _ _ => false
  | .leaving _ | .refused _ | .over | .aborted _ => true

namespace SessionStep

variable {r r' : Registry} {s t : Session}

/-- A session that has gone does not come back. -/
theorem isGone (h : SessionStep r s t r') (hs : s.stage.isGone = true) :
    t.stage.isGone = true := by
  cases h with
  | connection hstage | heeded _ _ hstage | wrote _ _ hstage | gaveUp _ hstage
  | wroteAll _ _ hstage => rwa [hstage]
  | greeted hbefore | enrolled hbefore | closed hbefore =>
    rw [hbefore] at hs
    cases hs
  | refused _ hstage | ended _ hstage =>
    rw [hstage]
    rfl

end SessionStep

/-! ### The moves of one session -/

namespace Supercomponent

/-- A session makes a move. -/
structure Moves (c : Supercomponent) (m : TimeStamp × SupercomponentMove) (i : SessionId)
    (what : SessionMove) (s t : Session) : Prop where
  move : m.2 = .session i what
  before : c.acceptor.sessions[i]? = some s
  result : Acceptor.moveSession m.1 c.acceptor.settings c.run.scheduler.snapshot c.registry s what =
    some (t, (c.after m).registry)
  after : (c.after m).acceptor.sessions[i]? = some t

variable {c : Supercomponent} {m : TimeStamp × SupercomponentMove} {i : SessionId} {s t : Session}
  {what : SessionMove} {ms : List (TimeStamp × SupercomponentMove)}

/-- The moves of an acceptor are those of its sessions. -/
theorem acceptor_move_eq {clock : TimeStamp} {snapshot : Roster} {r : Registry} {a : Acceptor}
    (hs : a.sessions[i]? = some s) (hallowed : what = .abort → a.accepting = false) :
    a.move clock snapshot r i what =
      (Acceptor.moveSession clock a.settings snapshot r s what).map fun moved =>
        ({ a with sessions := a.sessions.set i moved.1 }, moved.2) := by
  cases hmove : Acceptor.moveSession clock a.settings snapshot r s what with
  | none => simp [Acceptor.move, hs, hmove]
  | some moved =>
    cases what with
    | abort => simp [Acceptor.move, hs, hmove, hallowed rfl]
    | _ => simp [Acceptor.move, hs, hmove]

/-- What becomes of a supercomponent when a session moves. -/
theorem after_session {clock : TimeStamp} (hs : c.acceptor.sessions[i]? = some s)
    (hallowed : what = .abort → c.acceptor.accepting = false) :
    c.after (clock, .session i what) =
      ((Acceptor.moveSession clock c.acceptor.settings c.run.scheduler.snapshot c.registry s
        what).map fun moved =>
          { c with
            acceptor := { c.acceptor with sessions := c.acceptor.sessions.set i moved.1 }
            exchange := { c.exchange with registry := moved.2 } }).getD c := by
  rw [after, Supercomponent.move, acceptor_move_eq hs hallowed, registry]
  cases Acceptor.moveSession clock c.acceptor.settings c.run.scheduler.snapshot
    c.exchange.registry s what <;> rfl

/-- Sessions that are given up while connections are accepted stay as they are. -/
theorem after_abort_of_accepting {clock : TimeStamp} (h : c.acceptor.accepting = true) :
    c.after (clock, .session i .abort) = c := by
  rw [after, Supercomponent.move, Acceptor.move]
  cases c.acceptor.sessions[i]? <;> simp [h]

/-- A session that is there stays as it is when others move. -/
theorem sessions_after_of_ne (hs : c.acceptor.sessions[i]? = some s)
    (hne : ∀ what, m.2 ≠ .session i what) : (c.after m).acceptor.sessions[i]? = some s := by
  obtain ⟨clock, what⟩ := m
  cases what with
  | session j what =>
    have hij : j ≠ i := fun hij => hne what (by rw [hij])
    cases ht : c.acceptor.sessions[j]? with
    | none =>
      have hmove : c.move clock (.session j what) = none := by
        simp [Supercomponent.move, Acceptor.move, ht]
      rw [after, hmove]
      exact hs
    | some u =>
      by_cases hallowed : what = .abort → c.acceptor.accepting = false
      · rw [after_session ht hallowed]
        cases Acceptor.moveSession clock c.acceptor.settings c.run.scheduler.snapshot c.registry u
          what with
        | none => exact hs
        | some moved => exact (List.getElem?_set_ne hij).trans hs
      · push Not at hallowed
        obtain ⟨rfl, haccepting⟩ := hallowed
        rw [after_abort_of_accepting (by simpa using haccepting)]
        exact hs
  | accept =>
    obtain ⟨hi, -⟩ := List.getElem?_eq_some_iff.mp hs
    rw [after, Supercomponent.move, Acceptor.accept]
    split
    · exact (List.getElem?_append_left hi).trans hs
    · exact hs
  | schedule now =>
    rw [after, Supercomponent.move]
    cases c.run.proceed clock now c.exchange <;> exact hs
  | stopScheduler | stopAcceptor =>
    rw [after, Supercomponent.move]
    split <;> exact hs
  | requestStop => exact hs

/-- A session that is there makes a move, or stays as it is. -/
theorem session_cases (m : TimeStamp × SupercomponentMove)
    (hs : c.acceptor.sessions[i]? = some s) :
    (∃ what t, c.Moves m i what s t) ∨
      (c.after m).acceptor.sessions[i]? = some s ∧ ∀ what, m.2 = .session i what → c.after m = c ∧
        (what = .abort ∨ Acceptor.moveSession m.1 c.acceptor.settings c.run.scheduler.snapshot
          c.registry s what = none) := by
  by_cases hne : ∀ what, m.2 ≠ .session i what
  · exact .inr ⟨sessions_after_of_ne hs hne, fun what h => absurd h (hne what)⟩
  push Not at hne
  obtain ⟨what, hwhat⟩ := hne
  obtain ⟨clock, _⟩ := m
  obtain rfl := hwhat
  by_cases hallowed : what = .abort → c.acceptor.accepting = false
  · have hafter : c.after (clock, .session i what) = _ := after_session hs hallowed
    cases hmove : Acceptor.moveSession clock c.acceptor.settings c.run.scheduler.snapshot
      c.registry s what with
    | none =>
      rw [hmove] at hafter
      refine .inr ⟨by rw [hafter]; exact hs, fun what' h => ⟨hafter, .inr ?_⟩⟩
      cases h
      exact hmove
    | some moved =>
      rw [hmove] at hafter
      obtain ⟨hi, -⟩ := List.getElem?_eq_some_iff.mp hs
      refine .inl ⟨what, moved.1, rfl, hs, ?_, ?_⟩
      · rw [hafter]
        exact hmove
      · rw [hafter]
        exact List.getElem?_set_self hi
  · push Not at hallowed
    obtain ⟨rfl, haccepting⟩ := hallowed
    have hsame : c.after (clock, .session i .abort) = c :=
      after_abort_of_accepting (by simpa using haccepting)
    refine .inr ⟨by rw [hsame]; exact hs, fun what h => ⟨hsame, .inl ?_⟩⟩
    cases h
    rfl

/-- A session that is not there is opened, or is still not there. -/
theorem session_of_none (m : TimeStamp × SupercomponentMove)
    (hs : c.acceptor.sessions[i]? = none) :
    (c.after m).acceptor.sessions[i]? = none ∨
      (c.after m).acceptor.sessions[i]? = some .start := by
  rw [List.getElem?_eq_none_iff] at hs
  rcases c.after_cases m with ⟨hsame, -⟩ | step
  · exact .inl (by rw [hsame, List.getElem?_eq_none_iff]; exact hs)
  · generalize c.after m = c', c.reports m = es at step
    cases step with
    | accept =>
      rcases Nat.eq_or_lt_of_le hs with hi | hi
      · exact .inr (by simp [← hi])
      · exact .inl (List.getElem?_eq_none (by simpa using Nat.succ_le_of_lt hi))
    | session | abort => exact .inl (List.getElem?_eq_none (by simpa using hs))
    | schedule | requestStop | stopScheduler | stopAcceptor => exact .inl (List.getElem?_eq_none hs)

/-- What a session does that does not give itself up. -/
theorem Moves.step (h : c.Moves m i what s t) (hown : what ≠ .abort) :
    SessionStep c.registry s t (c.after m).registry :=
  .of_move hown h.result

theorem Moves.abort_eq (h : c.Moves m i .abort s t) :
    s.abort = some t ∧ (c.after m).registry = c.registry := by
  obtain ⟨u, hu, heq⟩ := Option.map_eq_some_iff.mp h.result
  obtain ⟨rfl, hregistry⟩ := Prod.mk.inj heq
  exact ⟨hu, hregistry.symm⟩

theorem Moves.isGone (h : c.Moves m i what s t) (hgone : s.stage.isGone = true) :
    t.stage.isGone = true := by
  by_cases hown : what = .abort
  · subst hown
    obtain ⟨link?, hstage⟩ := Session.exists_aborted h.abort_eq.1
    rw [hstage]
    rfl
  · exact (h.step hown).isGone hgone

/-- Whoever has gone does not come back. -/
theorem gone_after {stage : SessionStage} (m : TimeStamp × SupercomponentMove)
    (hstage : c.stage? i = some stage) (hgone : stage.isGone = true) :
    ∃ stage', (c.after m).stage? i = some stage' ∧ stage'.isGone = true := by
  obtain ⟨s, hs, rfl⟩ := Option.map_eq_some_iff.mp hstage
  rcases session_cases m hs with ⟨what, t, h⟩ | ⟨hsame, -⟩
  · exact ⟨t.stage, stage?_of_session h.after, h.isGone hgone⟩
  · exact ⟨s.stage, stage?_of_session hsame, hgone⟩

theorem gone_last {stage : SessionStage} (ms : List (TimeStamp × SupercomponentMove))
    (hstage : c.stage? i = some stage) (hgone : stage.isGone = true) :
    ∃ stage', (c.last ms).stage? i = some stage' ∧ stage'.isGone = true := by
  induction ms generalizing c stage with
  | nil => exact ⟨stage, hstage, hgone⟩
  | cons m ms ih =>
    obtain ⟨stage', hstage', hgone'⟩ := gone_after m hstage hgone
    exact ih hstage' hgone'

end Supercomponent

end Cadence
