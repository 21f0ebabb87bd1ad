import Cadence.Proofs.DiscoveryExchange

/-!
# A search settles on the first answer

A module that looks for its supercomponent hears whatever arrives at its socket: bytes that say
nothing, requests of other modules, answers to other modules, and late answers to its own earlier
requests. Here it is proved that only answers to its own name count, and of these the first one, in
whichever attempt it arrives. Everything else may come or stay away without any consequence.

Nothing is assumed of who sends a datagram or of what is in it. It is assumed that the socket works:
every request is sent, and what arrives can be received.

## Main definitions

* `Discovery.Irrelevant`: the datagrams that do not count
* `Discovery.undisturbed`: attempts of a module whose socket works
* `Discovery.IsFirstAnswer`: the answer that arrives first
* `Discovery.SameButIrrelevant`: what arrives is the same, but for datagrams that do not count

## Main results

* `Discovery.acceptable?_eq_some_iff`, `Discovery.acceptable?_eq_none_iff`: what counts
* `Discovery.search_undisturbed_of_irrelevant`: no answer arrives
* `Discovery.search_congr`: what a search depends on
* `Discovery.settles_on_first_answer`: all of it together
-/

namespace Cadence.Discovery

variable {name : String} {d e : Datagram} {ds es : List Datagram} {found server : ServerInformation}
  {o : DiscoveryOptions} {windows : Nat → List Datagram} {k total : Nat}

/-! ### What counts -/

/-- A datagram does not count for the module of this name. -/
inductive Irrelevant (name : String) (d : Datagram) : Prop where
  | malformed {error : WireError} (reads : messageOf d.bytes = .error error)
  | request {asker : String} (reads : messageOf d.bytes = .ok (.discover asker))
  | forAnother {answered : String} {server : ServerInformation}
      (reads : messageOf d.bytes = .ok (.response answered server)) (ne : answered ≠ name)

/-- What an answer to the name tells, where the source stands for an address that was left out. -/
theorem acceptable?_eq_some_iff : acceptable? name d = some found ↔ ∃ server,
    messageOf d.bytes = .ok (.response name server) ∧ located d.source server = found := by
  rw [acceptable?]
  constructor
  · intro h
    split at h
    · next answered server reads =>
      split at h
      · next heq => exact ⟨server, heq ▸ reads, Option.some.inj h⟩
      · cases h
    · cases h
  · rintro ⟨server, reads, rfl⟩
    rw [reads]
    exact if_pos rfl

theorem acceptable?_eq_none_iff : acceptable? name d = none ↔ Irrelevant name d := by
  constructor
  · intro h
    cases reads : messageOf d.bytes with
    | error error => exact .malformed reads
    | ok m =>
      cases m with
      | discover asker => exact .request reads
      | response answered server =>
        refine .forAnother reads ?_
        rintro rfl
        cases h.symm.trans (acceptable?_eq_some_iff.mpr ⟨server, reads, rfl⟩)
  · intro h
    refine Option.eq_none_iff_forall_ne_some.mpr fun found hfound => ?_
    obtain ⟨server, reads, -⟩ := acceptable?_eq_some_iff.mp hfound
    cases h with
    | malformed reads' => cases reads'.symm.trans reads
    | request reads' => cases reads'.symm.trans reads
    | forAnother reads' ne =>
      cases reads'.symm.trans reads
      exact ne rfl

/-- What counts is an answer to the name. -/
theorem not_irrelevant_iff : ¬ Irrelevant name d ↔
    ∃ server, messageOf d.bytes = .ok (.response name server) := by
  rw [← acceptable?_eq_none_iff, ← ne_eq, Option.ne_none_iff_exists']
  simp only [acceptable?_eq_some_iff]
  constructor
  · rintro ⟨_, server, reads, -⟩
    exact ⟨server, reads⟩
  · rintro ⟨server, reads⟩
    exact ⟨_, server, reads, rfl⟩

theorem located_eq (source : IpAddress) (server : ServerInformation) : located source server =
    { server with address := if server.address = "" then source.text else server.address } := by
  rw [located]
  split <;> rfl

/-! ### A socket that works -/

/-- The attempts of a module whose socket works: each request is sent, and these datagrams arrive
while it waits. -/
def undisturbed (windows : Nat → List Datagram) (k : Nat) : Attempt :=
  ⟨.ok (), (windows k).map .ok⟩

theorem unheeded_map_ok (h : ∀ e ∈ ds, Irrelevant name e) : Unheeded name (ds.map .ok) := by
  intro a ha
  obtain ⟨e, he, rfl⟩ := List.mem_map.mp ha
  exact ⟨e, rfl, acceptable?_eq_none_iff.mpr (h e he)⟩

theorem vain_undisturbed (h : ∀ e ∈ windows k, Irrelevant name e) :
    (undisturbed windows k).Vain name :=
  ⟨rfl, unheeded_map_ok h⟩

/-- **If no answer arrives the search ends when its attempts are used up.** -/
theorem search_undisturbed_of_irrelevant
    (h : ∀ k < o.attempts.toNat, ∀ e ∈ windows k, Irrelevant name e) :
    search o name (undisturbed windows) =
      ⟨.gaveUp, o.attempts.toNat, .error (.timeout o.attempts)⟩ := by
  have hvain : ∀ k < o.attempts.toNat, (undisturbed windows (0 + k)).Vain name := fun k hk =>
    vain_undisturbed (by simpa using h k hk)
  have hall : searchFrom name o.attempts (undisturbed windows) 0 (0 + o.attempts.toNat) =
      searchFrom name o.attempts (undisturbed windows) (0 + o.attempts.toNat) 0 :=
    searchFrom_add o.attempts.toNat hvain
  rw [Nat.zero_add] at hall
  rw [search, hall]
  rfl

/-- The answer that arrives first: among the datagrams of an attempt, behind others that do not
count, when none of the earlier attempts has brought an answer. -/
structure IsFirstAnswer (name : String) (windows : Nat → List Datagram) (total k : Nat)
    (d : Datagram) (server : ServerInformation) : Prop where
  in_time : k < total
  answers : messageOf d.bytes = .ok (.response name server)
  first : ∃ before after, windows k = before ++ d :: after ∧ ∀ e ∈ before, Irrelevant name e
  earlier : ∀ j < k, ∀ e ∈ windows j, Irrelevant name e

theorem search_undisturbed_of_isFirstAnswer
    (h : IsFirstAnswer name windows o.attempts.toNat k d server) :
    search o name (undisturbed windows) = ⟨.discovered, k + 1, .ok (located d.source server)⟩ := by
  obtain ⟨before, after, hsplit, hbefore⟩ := h.first
  have harrivals : (undisturbed windows k).arrivals =
      before.map .ok ++ .ok d :: after.map .ok := by
    simp [undisturbed, hsplit]
  exact search_of_answer h.in_time (fun j hj => vain_undisturbed (h.earlier j hj)) rfl
    (unheeded_map_ok hbefore) harrivals (acceptable?_eq_some_iff.mpr ⟨server, h.answers, rfl⟩)

/-- Either an answer arrives first, or none arrives at all. -/
theorem exists_isFirstAnswer_or (name : String) (windows : Nat → List Datagram) (total : Nat) :
    (∃ k d server, IsFirstAnswer name windows total k d server) ∨
      ∀ k < total, ∀ e ∈ windows k, Irrelevant name e := by
  induction total with
  | zero => exact .inr fun k hk => absurd hk (Nat.not_lt_zero k)
  | succ total ih =>
    obtain ⟨k, d, server, h⟩ | hnone := ih
    · exact .inl ⟨k, d, server, Nat.lt_succ_of_lt h.in_time, h.answers, h.first, h.earlier⟩
    -- Nothing before the last attempt counts, so it is up to what arrives then.
    cases hfirst : (windows total).findSome? (acceptable? name) with
    | none =>
      refine .inr fun k hk e he => ?_
      rcases Nat.lt_succ_iff_lt_or_eq.mp hk with hk | rfl
      · exact hnone k hk e he
      · exact acceptable?_eq_none_iff.mp (List.findSome?_eq_none_iff.mp hfirst e he)
    | some found =>
      obtain ⟨before, d, after, hsplit, hd, hbefore⟩ := List.findSome?_eq_some_iff.mp hfirst
      obtain ⟨server, answers, -⟩ := acceptable?_eq_some_iff.mp hd
      exact .inl ⟨total, d, server, Nat.lt_succ_self total, answers,
        ⟨before, after, hsplit, fun e he => acceptable?_eq_none_iff.mp (hbefore e he)⟩, hnone⟩

/-! ### What does not matter -/

/-- The same datagrams arrive in the same order, but for some that do not count. -/
inductive SameButIrrelevant (name : String) : List Datagram → List Datagram → Prop where
  | nil : SameButIrrelevant name [] []
  | both (d : Datagram) {ds es : List Datagram} (rest : SameButIrrelevant name ds es) :
      SameButIrrelevant name (d :: ds) (d :: es)
  | left {d : Datagram} {ds es : List Datagram} (irrelevant : Irrelevant name d)
      (rest : SameButIrrelevant name ds es) : SameButIrrelevant name (d :: ds) es
  | right {d : Datagram} {ds es : List Datagram} (irrelevant : Irrelevant name d)
      (rest : SameButIrrelevant name ds es) : SameButIrrelevant name ds (d :: es)

theorem firstAnswer_cons_of_irrelevant {arrivals : List (Except IoFault Datagram)}
    (h : Irrelevant name d) : firstAnswer name (.ok d :: arrivals) = firstAnswer name arrivals := by
  rw [firstAnswer, acceptable?_eq_none_iff.mpr h]

theorem SameButIrrelevant.firstAnswer_eq (h : SameButIrrelevant name ds es) :
    firstAnswer name (ds.map .ok) = firstAnswer name (es.map .ok) := by
  induction h with
  | nil => rfl
  | both d _ ih =>
    rw [List.map_cons, List.map_cons, firstAnswer, firstAnswer, ih]
  | left irrelevant _ ih => rw [List.map_cons, firstAnswer_cons_of_irrelevant irrelevant, ih]
  | right irrelevant _ ih => rw [List.map_cons, firstAnswer_cons_of_irrelevant irrelevant, ih]

/-- A search depends on whether its requests are sent, and on the first answer of each attempt. -/
theorem searchFrom_congr {attempts attempts' : Nat → Attempt} {made left : Nat} (asked : UInt32)
    (h : ∀ k < left, (attempts (made + k)).sent = (attempts' (made + k)).sent ∧
      firstAnswer name (attempts (made + k)).arrivals =
        firstAnswer name (attempts' (made + k)).arrivals) :
    searchFrom name asked attempts made left = searchFrom name asked attempts' made left := by
  induction left generalizing made with
  | zero => rfl
  | succ left ih =>
    obtain ⟨hsent, hanswer⟩ := h 0 (Nat.succ_pos left)
    have hlater : searchFrom name asked attempts (made + 1) left =
        searchFrom name asked attempts' (made + 1) left := ih fun k hk => by
      rw [Nat.add_assoc, Nat.add_comm 1 k]
      exact h (k + 1) (Nat.succ_lt_succ hk)
    rw [Nat.add_zero] at hsent hanswer
    rw [searchFrom, searchFrom, hsent, hanswer, hlater]

/-- Datagrams that do not count may be added or left out. -/
theorem search_congr {windows' : Nat → List Datagram}
    (h : ∀ k < o.attempts.toNat, SameButIrrelevant name (windows k) (windows' k)) :
    search o name (undisturbed windows) = search o name (undisturbed windows') := by
  refine searchFrom_congr o.attempts fun k hk => ⟨rfl, ?_⟩
  rw [Nat.zero_add]
  exact (h k hk).firstAnswer_eq

/-! ### Any datagrams -/

/-- **A search settles on the first answer to its own name.** A datagram counts if and only if it is
an answer to this name. The answer that arrives first is taken, whose source stands for an address
that was left out; as many requests have been sent as there were attempts until then. If no answer
arrives the search gives up when all attempts are made. There is no third case. What does not count
may be added or left out, in any attempt and at any place. -/
theorem settles_on_first_answer (o : DiscoveryOptions) (name : String)
    (windows : Nat → List Datagram) :
    (∀ d, ¬ Irrelevant name d ↔ ∃ server, messageOf d.bytes = .ok (.response name server)) ∧
    (∀ k d server, IsFirstAnswer name windows o.attempts.toNat k d server →
      search o name (undisturbed windows) = ⟨.discovered, k + 1, .ok { server with
        address := if server.address = "" then d.source.text else server.address }⟩) ∧
    ((∀ k < o.attempts.toNat, ∀ d ∈ windows k, Irrelevant name d) →
      search o name (undisturbed windows) =
        ⟨.gaveUp, o.attempts.toNat, .error (.timeout o.attempts)⟩) ∧
    ((∃ k d server, IsFirstAnswer name windows o.attempts.toNat k d server) ∨
      ∀ k < o.attempts.toNat, ∀ d ∈ windows k, Irrelevant name d) ∧
    ∀ windows' : Nat → List Datagram,
      (∀ k < o.attempts.toNat, SameButIrrelevant name (windows k) (windows' k)) →
      search o name (undisturbed windows) = search o name (undisturbed windows') := by
  refine ⟨fun d => not_irrelevant_iff, fun k d server h => ?_, search_undisturbed_of_irrelevant,
    exists_isFirstAnswer_or name windows _, fun windows' => search_congr⟩
  rw [search_undisturbed_of_isFirstAnswer h, located_eq]

/-- The first attempt of a search brings a request and a byte that says nothing, the second one an
answer to another module and two to this one. The first of the two is taken, with the address that
it came from, and so it is when nothing else arrives. -/
theorem second_attempt_settles :
    let answer (name : String) (port : UInt16) : Datagram :=
      ⟨datagramOf .unset (.response name ⟨"", port, .pulse⟩), .loopback⟩
    let others : List Datagram := [⟨request .unset "cockpit", .loopback⟩, ⟨⟨#[7]⟩, .loopback⟩]
    let answers : List Datagram := [answer "cockpit" 2, answer "cockpit" 3]
    let windows (k : Nat) : List Datagram := if k = 0 then others else answer "mirror" 1 :: answers
    let fewer (k : Nat) : List Datagram := if k = 0 then [] else answers
    search {} "cockpit" (undisturbed windows) = ⟨.discovered, 2, .ok ⟨"127.0.0.1", 2, .pulse⟩⟩ ∧
      search {} "cockpit" (undisturbed windows) = search {} "cockpit" (undisturbed fewer) := by
  intro answer others answers windows fewer
  obtain ⟨-, hfound, -, -, hsame⟩ := settles_on_first_answer {} "cockpit" windows
  have hrequest : Irrelevant "cockpit" ⟨request .unset "cockpit", .loopback⟩ :=
    .request (messageOf_datagramOf (by decide +kernel))
  have hbyte : Irrelevant "cockpit" ⟨⟨#[7]⟩, .loopback⟩ := .malformed rfl
  have hmirror : Irrelevant "cockpit" (answer "mirror" 1) :=
    .forAnother (messageOf_datagramOf (by decide +kernel)) (by decide)
  have hfirst : IsFirstAnswer "cockpit" windows 5 1 (answer "cockpit" 2) ⟨"", 2, .pulse⟩ :=
    { in_time := by decide
      answers := messageOf_datagramOf (by decide +kernel)
      first := ⟨[answer "mirror" 1], [answer "cockpit" 3], rfl, by simp [hmirror]⟩
      earlier := fun j hj => by
        obtain rfl : j = 0 := by omega
        simp [windows, others, hrequest, hbyte] }
  refine ⟨hfound 1 _ _ hfirst, hsame fewer fun k _ => ?_⟩
  by_cases hk : k = 0
  · simp only [windows, fewer, hk, if_true]
    exact .left hrequest (.left hbyte .nil)
  · simp only [windows, fewer, hk, if_false]
    exact .left hmirror (.both _ (.both _ .nil))

end Cadence.Discovery
