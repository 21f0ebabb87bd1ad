import Mathlib.Data.List.Basic

/-!
# Runs

A system is given by its states and a total step. A run is a list of moves, taken one after the
other; where a move cannot be made the step leaves the state as it is, so every list of moves is a
run. Interleavings need nothing more: whoever may move next contributes a move to the list.

What is seen of a run is collected move by move. Both the end of a run and what is seen of it
split wherever the list of moves does, and that is all that proofs by induction need.

## Main definitions

* `Run.last`: the state at the end of a run
* `Run.seen`: what is seen of each move, in order
* `Run.Happens`: at some point of the run a move is made that is of some kind
* `Run.Stays`: all states of the run are of some kind

## Main results

* `Run.last_append`, `Run.seen_append`, `Run.happens_append`, `Run.happens_cons`: runs split
* `Run.last_induction`: what every step keeps, a run keeps
* `Run.exists_leaving`: what is true at first and not at the end is lost by one of the moves
-/

namespace Cadence.Run

variable {σ μ α : Type}

/-- The state at the end of a run. -/
def last (step : σ → μ → σ) (s : σ) (ms : List μ) : σ := ms.foldl step s

/-- What is seen of the moves of a run, in order. -/
def seen (step : σ → μ → σ) (see : σ → μ → List α) : σ → List μ → List α
  | _, [] => []
  | s, m :: ms => see s m ++ seen step see (step s m) ms

/-- At some point of the run a move of this kind is made. -/
def Happens (step : σ → μ → σ) (kind : σ → μ → Prop) (s : σ) (ms : List μ) : Prop :=
  ∃ before m later, ms = before ++ m :: later ∧ kind (last step s before) m

/-- All states of a run, its first and its last included, are like this. -/
def Stays (step : σ → μ → σ) (P : σ → Prop) : σ → List μ → Prop
  | s, [] => P s
  | s, m :: ms => P s ∧ Stays step P (step s m) ms

variable {step : σ → μ → σ} {see : σ → μ → List α} {kind : σ → μ → Prop}

/-! ### The end of a run -/

@[simp] theorem last_nil (s : σ) : last step s [] = s := rfl

@[simp] theorem last_cons (s : σ) (m : μ) (ms : List μ) :
    last step s (m :: ms) = last step (step s m) ms := rfl

theorem last_append (s : σ) (ms ns : List μ) :
    last step s (ms ++ ns) = last step (last step s ms) ns :=
  List.foldl_append

/-- What every step keeps, a run keeps. -/
theorem last_induction {P : σ → Prop} (keep : ∀ s m, P s → P (step s m)) {s : σ} (h : P s)
    (ms : List μ) : P (last step s ms) := by
  induction ms generalizing s with
  | nil => exact h
  | cons m ms ih => exact ih (keep s m h)

/-! ### What is seen of a run -/

@[simp] theorem seen_nil (s : σ) : seen step see s [] = [] := rfl

@[simp] theorem seen_cons (s : σ) (m : μ) (ms : List μ) :
    seen step see s (m :: ms) = see s m ++ seen step see (step s m) ms := rfl

theorem seen_append (s : σ) (ms ns : List μ) :
    seen step see s (ms ++ ns) = seen step see s ms ++ seen step see (last step s ms) ns := by
  induction ms generalizing s with
  | nil => rfl
  | cons m ms ih => rw [List.cons_append, seen_cons, ih, seen_cons, last_cons, List.append_assoc]

/-- What is seen of a run and one more move. -/
theorem seen_append_singleton (s : σ) (ms : List μ) (m : μ) :
    seen step see s (ms ++ [m]) = seen step see s ms ++ see (last step s ms) m := by
  rw [seen_append, seen_cons, seen_nil, List.append_nil]

/-- What is seen of a run is seen of one of its moves. -/
theorem mem_seen_iff {s : σ} {ms : List μ} {a : α} :
    a ∈ seen step see s ms ↔ Happens step (fun s m => a ∈ see s m) s ms := by
  constructor
  · intro h
    induction ms generalizing s with
    | nil => simp at h
    | cons m ms ih =>
      rcases List.mem_append.mp h with h | h
      · exact ⟨[], m, ms, rfl, h⟩
      · obtain ⟨before, n, later, rfl, hn⟩ := ih h
        exact ⟨m :: before, n, later, rfl, hn⟩
  · rintro ⟨before, m, later, rfl, h⟩
    rw [seen_append, seen_cons]
    exact List.mem_append_right _ (List.mem_append_left _ h)

/-! ### What happens in a run -/

theorem happens_append {s : σ} {ms ns : List μ} :
    Happens step kind s (ms ++ ns) ↔
      Happens step kind s ms ∨ Happens step kind (last step s ms) ns := by
  constructor
  · rintro ⟨before, m, later, hsplit, hm⟩
    rcases List.append_eq_append_iff.mp hsplit with ⟨rest, rfl, rfl⟩ | ⟨rest, rfl, hrest⟩
    · exact .inr ⟨rest, m, later, rfl, by rwa [← last_append]⟩
    · cases rest with
      | nil => exact .inr ⟨[], m, later, hrest.symm, by simpa using hm⟩
      | cons n rest =>
        obtain ⟨rfl, rfl⟩ := List.cons_eq_cons.mp hrest
        exact .inl ⟨before, m, rest, rfl, hm⟩
  · rintro (⟨before, m, later, rfl, hm⟩ | ⟨before, m, later, rfl, hm⟩)
    · exact ⟨before, m, later ++ ns, by simp, hm⟩
    · exact ⟨ms ++ before, m, later, by simp, by rwa [last_append]⟩

theorem happens_cons {s : σ} {m : μ} {ms : List μ} :
    Happens step kind s (m :: ms) ↔ kind s m ∨ Happens step kind (step s m) ms := by
  constructor
  · rintro ⟨before, n, later, hsplit, hn⟩
    cases before with
    | nil =>
      obtain ⟨rfl, rfl⟩ := List.cons_eq_cons.mp hsplit
      exact .inl hn
    | cons first before =>
      obtain ⟨rfl, rfl⟩ := List.cons_eq_cons.mp hsplit
      exact .inr ⟨before, n, later, rfl, hn⟩
  · rintro (hm | ⟨before, n, later, rfl, hn⟩)
    · exact ⟨[], m, ms, rfl, hm⟩
    · exact ⟨m :: before, n, later, rfl, hn⟩

/-! ### What stays, and until when -/

theorem Stays.last {P : σ → Prop} {s : σ} {ms : List μ} (h : Stays step P s ms) :
    P (last step s ms) := by
  induction ms generalizing s with
  | nil => exact h
  | cons m ms ih => exact ih h.2

/-- What is true at first and not at the end is lost by one of the moves, and holds until then. -/
theorem exists_leaving {P : σ → Prop} {s : σ} {ms : List μ} (h : P s)
    (hend : ¬ P (last step s ms)) :
    ∃ before m later, ms = before ++ m :: later ∧ Stays step P s before ∧
      ¬ P (step (last step s before) m) := by
  induction ms generalizing s with
  | nil => exact absurd h hend
  | cons m ms ih =>
    by_cases hm : P (step s m)
    · obtain ⟨before, n, later, rfl, hstays, hn⟩ := ih hm hend
      exact ⟨m :: before, n, later, rfl, ⟨h, hstays⟩, hn⟩
    · exact ⟨[], m, ms, rfl, h, hm⟩

end Cadence.Run
