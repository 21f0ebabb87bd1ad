import Cadence.Proofs.LineFormat
import Mathlib.Data.List.Sort

/-!
# What is found under a key

Settings are written and read back by their keys. Here is said what is found under a key after one
entry has been put and after many have, one over the other, and that nothing but this matters:
settings with the same value under every key are the same settings. So two ways of putting settings
together can be compared key by key.

Settings are put together from others by giving their entries other keys, or none. What is found
then is what was there under the key that the sought one comes from. This asks of the new keys no
more than that a new key comes from one old key at most.

## Main definitions

* `Settings.lastValue?`: the value that counts among entries with repeated keys
* `Settings.rekeyed`: the entries under other keys

## Main results

* `Settings.value?_put`, `Settings.value?_putAll`: what is found after entries have been put
* `Settings.mem_entries_iff`: an entry is what is found under its key
* `Settings.ext_value?`: settings are determined by what is found
* `Settings.lastValue?_rekeyed`: what is found under another key
-/

namespace Cadence.Settings

variable {key value k : String} {e : String × String} {entries es fs : List (String × String)}
  {s t : Settings}

/-! ### One entry -/

theorem find?_cons_key :
    (e :: entries).find? (·.1 == k) = if e.1 = k then some e else entries.find? (·.1 == k) := by
  rw [List.find?_cons]
  by_cases h : e.1 = k
  · rw [if_pos h, beq_iff_eq.mpr h]
  · rw [if_neg h, beq_false_of_ne h]

theorem find?_insertEntry :
    (insertEntry key value entries).find? (·.1 == k) =
      if key = k then some (key, value) else entries.find? (·.1 == k) := by
  induction entries with
  | nil => exact find?_cons_key
  | cons entry rest ih =>
    rw [insertEntry]
    split
    · exact find?_cons_key
    · split
      · next heq =>
        rw [find?_cons_key, find?_cons_key, ← heq]
        split <;> rfl
      · next hne =>
        rw [find?_cons_key, find?_cons_key, ih]
        -- What is found at the first entry is not under the key that is put.
        by_cases h : entry.1 = k
        · rw [if_pos h, if_pos h, if_neg (h ▸ hne)]
        · rw [if_neg h, if_neg h]

/-- What is put is found under its key, and under no other. -/
theorem value?_put : (s.put key value).value? k = if key = k then some value else s.value? k := by
  rw [value?, put, find?_insertEntry]
  by_cases h : key = k
  · rw [if_pos h, if_pos h, Option.map_some]
  · rw [if_neg h, if_neg h, value?]

/-! ### Many entries -/

/-- The last value under a key. -/
def lastValue? (entries : List (String × String)) (k : String) : Option String :=
  (entries.reverse.find? (·.1 == k)).map (·.2)

theorem lastValue?_append : lastValue? (es ++ fs) k = (lastValue? fs k).or (lastValue? es k) := by
  rw [lastValue?, List.reverse_append, List.find?_append, Option.map_or, lastValue?, lastValue?]

theorem lastValue?_singleton : lastValue? [e] k = if e.1 = k then some e.2 else none := by
  rw [lastValue?, List.reverse_singleton, find?_cons_key, List.find?_nil, apply_ite (Option.map _)]
  rfl

theorem lastValue?_cons :
    lastValue? (e :: es) k = (lastValue? es k).or (if e.1 = k then some e.2 else none) := by
  rw [← List.singleton_append, lastValue?_append, lastValue?_singleton]

theorem mem_of_lastValue? (h : lastValue? entries k = some value) : (k, value) ∈ entries := by
  obtain ⟨e, hfind, rfl⟩ := Option.map_eq_some_iff.mp h
  have hkey : e.1 = k := by simpa using List.find?_some hfind
  have hmem : e ∈ entries := List.mem_reverse.mp (List.mem_of_find?_eq_some hfind)
  rwa [← hkey]

/-- **Of what is put the last entry counts**, and what was there counts where nothing is put. -/
theorem value?_putAll : (s.putAll entries).value? k = (lastValue? entries k).or (s.value? k) := by
  induction entries generalizing s with
  | nil => rfl
  | cons e entries ih =>
    have hput : (s.put e.1 e.2).value? k =
        (if e.1 = k then some e.2 else none).or (s.value? k) := by
      rw [value?_put]
      split <;> rfl
    calc (s.putAll (e :: entries)).value? k
        = ((s.put e.1 e.2).putAll entries).value? k := rfl
      _ = (lastValue? (e :: entries) k).or (s.value? k) := by
        rw [ih, hput, lastValue?_cons, Option.or_assoc]

theorem value?_ofEntries : (ofEntries entries).value? k = lastValue? entries k := by
  rw [ofEntries, value?_putAll]
  exact Option.or_none

/-- In settings no key is repeated. -/
theorem lastValue?_entries (s : Settings) (k : String) : lastValue? s.entries k = s.value? k := by
  rw [← value?_ofEntries, ofEntries_entries]

/-! ### Settings and what is found in them -/

/-- Whether keys repeat or not, something is found where there is an entry. -/
theorem exists_lastValue?_of_mem (h : e ∈ entries) : ∃ last, lastValue? entries e.1 = some last := by
  have hsome : (entries.reverse.find? (·.1 == e.1)).isSome :=
    List.find?_isSome.mpr ⟨e, List.mem_reverse.mpr h, beq_self_eq_true e.1⟩
  obtain ⟨last, hlast⟩ := Option.isSome_iff_exists.mp hsome
  exact ⟨last.2, Option.map_eq_some_iff.mpr ⟨last, hlast, rfl⟩⟩

/-- **An entry is what is found under its key.** -/
theorem mem_entries_iff : (k, value) ∈ s.entries ↔ s.value? k = some value := by
  rw [← lastValue?_entries]
  refine ⟨fun h => ?_, mem_of_lastValue?⟩
  obtain ⟨last, hlast⟩ := exists_lastValue?_of_mem h
  have hnodup : (s.entries.map (·.1)).Nodup := s.ascending.imp fun hlt => String.ne_of_lt hlt
  have hsame : (k, last) = (k, value) :=
    List.inj_on_of_nodup_map hnodup (mem_of_lastValue? hlast) h rfl
  rwa [← (Prod.mk.inj hsame).2]

/-- **Settings are determined by what is found in them.** -/
theorem ext_value? (h : ∀ k, s.value? k = t.value? k) : s = t := by
  have : Std.Irrefl fun e f : String × String => e.1 < f.1 := ⟨fun _ => String.lt_irrefl _⟩
  have : Std.Antisymm fun e f : String × String => e.1 < f.1 :=
    ⟨fun _ _ hlt hgt => absurd hgt (String.lt_asymm hlt)⟩
  have hs : s.entries.Pairwise fun e f => e.1 < f.1 := List.pairwise_map.mp s.ascending
  have ht : t.entries.Pairwise fun e f => e.1 < f.1 := List.pairwise_map.mp t.ascending
  refine eq_of_entries (hs.eq_of_mem_iff ht fun e => ?_)
  rw [← Prod.mk.eta (p := e), mem_entries_iff, mem_entries_iff, h]

/-! ### Other keys -/

/-- The entries under other keys; entries without one are left out. -/
def rekeyed (f : String → Option String) (entries : List (String × String)) :
    List (String × String) :=
  entries.filterMap fun e => (f e.1).map (·, e.2)

/-- **Under another key is found what was there under the key that it comes from**, and nothing if
it comes from none. -/
theorem lastValue?_rekeyed {f : String → Option String} {old? : Option String}
    (h : ∀ key, f key = some k ↔ old? = some key) :
    lastValue? (rekeyed f entries) k = old?.bind (lastValue? entries) := by
  induction entries with
  | nil => cases old? <;> rfl
  | cons e entries ih =>
    have hcons : rekeyed f (e :: entries) =
        ((f e.1).map (·, e.2)).toList ++ rekeyed f entries := by
      rw [rekeyed, rekeyed, List.filterMap_cons]
      cases f e.1 <;> rfl
    have hfirst : lastValue? ((f e.1).map (·, e.2)).toList k =
        if old? = some e.1 then some e.2 else none := by
      simp only [← h]
      cases f e.1 with
      | none => rfl
      | some key => exact lastValue?_singleton.trans (by simp only [Option.some.injEq])
    rw [hcons, lastValue?_append, ih, hfirst]
    cases old? with
    | none => rfl
    | some key =>
      rw [Option.bind_some, Option.bind_some, lastValue?_cons]
      simp only [Option.some.injEq, eq_comm]

/-- Entries may be left out by their keys. -/
theorem lastValue?_filter {p : String → Bool} :
    lastValue? (entries.filter fun e => p e.1) k =
      if p k then lastValue? entries k else none := by
  have hfilter : entries.filter (fun e => p e.1) =
      rekeyed (fun key => if p key then some key else none) entries := by
    rw [rekeyed, ← List.filterMap_eq_filter]
    refine List.filterMap_congr fun e _ => ?_
    by_cases h : p e.1 = true <;> simp [Option.guard, h]
  have hold (key : String) : (if p key then some key else none) = some k ↔
      (if p k then some k else none) = some key := by
    simp only [Option.ite_none_right_eq_some, Option.some_inj]
    exact ⟨fun h => ⟨h.2 ▸ h.1, h.2.symm⟩, fun h => ⟨h.2 ▸ h.1, h.2.symm⟩⟩
  rw [hfilter, lastValue?_rekeyed hold]
  split <;> rfl

end Cadence.Settings
