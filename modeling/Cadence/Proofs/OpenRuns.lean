import Cadence.Proofs.SupercomponentRun

/-!
# A supercomponent whose registry is open

The registry of a supercomponent is open to others as well: everybody can be told to stop at any
time, modules can be taken out of it under their sessions, and links can break. Only sessions
register modules. An open run is any list of moves of the supercomponent and of such moves of
others, in any order.

## Main definitions

* `OpenMove`, `Supercomponent.opened`: the moves of a supercomponent and of others
* `Supercomponent.lastOpened`: the end of an open run

## Main results

* `Supercomponent.opened_outside`: what others do
* `Supercomponent.constants_last`: what stays as it is in every open run
-/

namespace Cadence

/-- A move of a supercomponent, or what others do to its registry. -/
inductive OpenMove where
  | own (m : TimeStamp × SupercomponentMove)
  | outside (o : OutsideMove)

namespace Supercomponent

/-- The supercomponent after a move. Only sessions register modules. -/
def opened (c : Supercomponent) : OpenMove → Supercomponent
  | .own m => c.after m
  | .outside (.join _) => c
  | .outside o => { c with exchange := { c.exchange with registry := c.registry.after o } }

/-- The end of a run. -/
def lastOpened (c : Supercomponent) (ms : List OpenMove) : Supercomponent := Run.last opened c ms

/-- What others do to the registry registers nobody and leaves the sessions alone. -/
theorem opened_outside (c : Supercomponent) (o : OutsideMove) :
    c.opened (.outside o) = c ∨
      (∀ d, o ≠ .join d) ∧ (c.opened (.outside o)).acceptor = c.acceptor ∧
        (c.opened (.outside o)).registry = c.registry.after o := by
  cases o with
  | join => exact .inl rfl
  | leave | acknowledge | stopAll | takeOut | hangUp | conference =>
    exact .inr ⟨by simp, rfl, rfl⟩

/-- The number of places and the settings stay what they were when the supercomponent came up. -/
theorem constants_opened (c : Supercomponent) (m : OpenMove) :
    (c.opened m).acceptor.maxModules = c.acceptor.maxModules ∧
      (c.opened m).acceptor.settings = c.acceptor.settings := by
  cases m with
  | own m =>
    rw [opened]
    rcases c.after_cases m with ⟨hsame, -⟩ | step
    · rw [hsame]
      exact ⟨rfl, rfl⟩
    · generalize c.after m = c', c.reports m = es at step
      cases step <;> exact ⟨rfl, rfl⟩
  | outside o =>
    rcases c.opened_outside o with hsame | ⟨-, hacceptor, -⟩
    · rw [hsame]
      exact ⟨rfl, rfl⟩
    · rw [hacceptor]
      exact ⟨rfl, rfl⟩

theorem constants_last (c : Supercomponent) (ms : List OpenMove) :
    (c.lastOpened ms).acceptor.maxModules = c.acceptor.maxModules ∧
      (c.lastOpened ms).acceptor.settings = c.acceptor.settings :=
  Run.last_induction
    (P := fun c' : Supercomponent => c'.acceptor.maxModules = c.acceptor.maxModules ∧
      c'.acceptor.settings = c.acceptor.settings)
    (fun c' m h => ⟨(constants_opened c' m).1.trans h.1, (constants_opened c' m).2.trans h.2⟩)
    ⟨rfl, rfl⟩ ms

end Supercomponent

end Cadence
