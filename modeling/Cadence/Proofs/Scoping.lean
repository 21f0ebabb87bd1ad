import Cadence.Proofs.OpenRuns
import Cadence.Proofs.SettingsLookup
import Cadence.Proofs.WordEnds

/-!
# What concerns a module

There are two ways to what is set for a module. A supercomponent picks it out of its settings and
leaves the names of the sections on the keys; a module, or whoever holds all the settings, asks for
a section and is given it without its name. Both put the settings of an instance over those of its
section. They are written separately: one cuts the keys and joins them again, the other looks for
two sections, under names that are put in small letters one by one.

Here it is said what the first of them picks, entry by entry, and that the section of a module is the
same in what was picked as it is, with the instance, in the settings themselves. Nothing is supposed
of the names: they may have points and colons in them, and a module may be called as the global
section is. A name goes into small letters with the number of the instance behind it as it does
without, since there are no letters in the number.

## Main definitions

* `Settings.Overridden`: a key that is set for the instance
* `Settings.IsScope`: the settings that concern a module

## Main results

* `Settings.value?_subset`, `Settings.value?_scopedFor`: what is found in a section and what is
  found by a module
* `Settings.lower_instanceSection`: the name of the section of an instance in small letters
* `Settings.isScope_iff`: what concerns a module is what it gets to see
* `Settings.scopedFor_agrees_with_sections`: both ways lead to the same
-/

namespace Cadence.Settings

open Text

variable {name start key rest value : String} {number : UInt32}
  {instance? : Option UInt32} {s t : Settings} {d : Descriptor}

/-! ### Keys that start with the name of a section -/

theorem dropStart?_eq_some_iff : dropStart? start key = some rest ↔ key = start ++ rest := by
  constructor
  · intro h
    rw [← String.toList_inj, String.toList_append, toList_of_dropStart? h]
  · rintro rfl
    rw [dropStart?, String.toList_append, List.isPrefixOf?_eq_some_iff_append_eq.mpr rfl,
      Option.map_some, String.ofList_toList]

theorem isIn_iff : isIn name key = true ↔ ∃ rest, key = sectionStart name ++ rest := by
  rw [isIn, Option.isSome_iff_exists]
  exact exists_congr fun _ => dropStart?_eq_some_iff

theorem isVisible_iff : isVisible name key = true ↔
    ∃ rest, key = sectionStart globalSection ++ rest ∨ key = sectionStart name ++ rest := by
  rw [isVisible, Bool.or_eq_true, isIn_iff, isIn_iff, exists_or]

/-! ### A section -/

/-- **What is found in a section** is what stands under the whole key. -/
theorem value?_subset :
    (s.subset name).value? rest = s.value? (sectionStart (lower name) ++ rest) := by
  have hsubset : s.subset name =
      ofEntries (rekeyed (dropStart? (sectionStart (lower name))) s.entries) := rfl
  have hold (key : String) : dropStart? (sectionStart (lower name)) key = some rest ↔
      some (sectionStart (lower name) ++ rest) = some key := by
    rw [dropStart?_eq_some_iff, Option.some_inj, eq_comm]
  rw [hsubset, value?_ofEntries, lastValue?_rekeyed hold, Option.bind_some, lastValue?_entries]

/-- The name of the section of an instance goes into small letters with the number behind it. -/
theorem lower_instanceSection :
    lower (instanceSection name number) = instanceSection (lower name) number := by
  have hsection (name : String) :
      instanceSection name number = name ++ (":" ++ toString number.toNat) :=
    String.append_assoc ..
  have hmem (c : Char) (hc : c ∈ (":" ++ toString number.toNat).toList) :
      IsSmall c ∧ cased.has c = false := by
    rw [String.toList_append, List.mem_append] at hc
    rcases hc with hc | hc
    · rw [List.mem_singleton.mp hc]
      exact ⟨by rw [IsSmall]; decide +kernel, by decide +kernel⟩
    · rw [Nat.toString_eq_ofList_toDigits, String.toList_ofList] at hc
      exact small_and_uncased_of_isDigit
        (Nat.isDigit_of_mem_toDigits (Nat.succ_pos 9) (Nat.le_refl 10) hc)
  rw [hsection, hsection]
  exact lower_append_of_uncased (fun c hc => (hmem c hc).1) (fun c hc => (hmem c hc).2)

theorem value?_subsetForInstance :
    (s.subsetForInstance name instance?).value? rest =
      (instance?.bind fun number =>
        s.value? (sectionStart (instanceSection (lower name) number) ++ rest)).or
      (s.value? (sectionStart (lower name) ++ rest)) := by
  cases instance? with
  | none => exact value?_subset
  | some number =>
    rw [subsetForInstance, value?_putAll, lastValue?_entries, value?_subset, value?_subset,
      lower_instanceSection, Option.bind_some]

/-! ### What a module gets to see -/

/-- The key of the instance that stands over a key of its section. -/
def overriding? (name : String) (instance? : Option UInt32) (key : String) : Option String :=
  instance?.bind fun number => (dropStart? (sectionStart name) key).map
    (sectionStart (instanceSection name number) ++ ·)

theorem overriding?_eq_some_iff {k : String} : overriding? name instance? key = some k ↔
    ∃ number rest, instance? = some number ∧ key = sectionStart name ++ rest ∧
      k = sectionStart (instanceSection name number) ++ rest := by
  simp only [overriding?, Option.bind_eq_some_iff, Option.map_eq_some_iff, dropStart?_eq_some_iff]
  exact exists_congr fun number => by simp only [eq_comm, exists_and_left]

theorem lastValue?_rescoped :
    lastValue? (s.entries.filterMap fun (key, value) =>
        (dropStart? (sectionStart (instanceSection name number)) key).map
          (sectionStart name ++ ·, value)) key =
      (overriding? name (some number) key).bind s.value? := by
  have hrekeyed : (s.entries.filterMap fun (key, value) =>
      (dropStart? (sectionStart (instanceSection name number)) key).map
        (sectionStart name ++ ·, value)) =
      rekeyed (fun k => (dropStart? (sectionStart (instanceSection name number)) k).map
        (sectionStart name ++ ·)) s.entries :=
    List.filterMap_congr fun e _ => Eq.symm <| Option.map_map (·, e.2) (sectionStart name ++ ·)
      (dropStart? (sectionStart (instanceSection name number)) e.1)
  have hold (k : String) :
      (dropStart? (sectionStart (instanceSection name number)) k).map (sectionStart name ++ ·) =
          some key ↔
        overriding? name (some number) key = some k := by
    simp only [overriding?, Option.bind_some, Option.map_eq_some_iff, dropStart?_eq_some_iff]
    exact exists_congr fun rest => ⟨fun h => ⟨h.2.symm, h.1.symm⟩, fun h => ⟨h.2.symm, h.1.symm⟩⟩
  rw [hrekeyed, lastValue?_rekeyed hold]
  exact congrArg _ (funext (lastValue?_entries s))

/-- **What is found by a module** under a key: what is set for its instance, and otherwise what is
set for its section or for all. -/
theorem value?_scopedFor :
    (s.scopedFor d).value? key =
      ((overriding? (lower d.name) d.instance? key).bind s.value?).or
        (if isVisible (lower d.name) key then s.value? key else none) := by
  have hshared : (ofEntries (s.entries.filter fun entry =>
      isVisible (lower d.name) entry.1)).value? key =
        if isVisible (lower d.name) key then s.value? key else none := by
    rw [value?_ofEntries, lastValue?_filter, lastValue?_entries]
  unfold scopedFor
  cases d.instance? with
  | none => exact hshared
  | some number =>
    dsimp only
    rw [value?_putAll, lastValue?_rescoped, hshared]

/-! ### What concerns a module -/

/-- The key is set for the instance, in the section of the instance. -/
def Overridden (s : Settings) (name : String) (instance? : Option UInt32) (key : String) : Prop :=
  ∃ number rest value, instance? = some number ∧ key = sectionStart name ++ rest ∧
    (sectionStart (instanceSection name number) ++ rest, value) ∈ s.entries

/-- These are the settings that concern a module. -/
structure IsScope (s : Settings) (name : String) (instance? : Option UInt32) (t : Settings) :
    Prop where
  /-- What is set for the instance counts. -/
  override : ∀ number rest value, instance? = some number →
    (sectionStart (instanceSection name number) ++ rest, value) ∈ s.entries →
    (sectionStart name ++ rest, value) ∈ t.entries
  /-- Apart from that, the global section and the own one are as they are, and there is nothing
  else. -/
  others : ∀ key, ¬ s.Overridden name instance? key → ∀ value,
    (key, value) ∈ t.entries ↔ (key, value) ∈ s.entries ∧
      ∃ rest, key = sectionStart globalSection ++ rest ∨ key = sectionStart name ++ rest

/-- There is one way to pick the settings that concern a module. -/
theorem IsScope.eq {u : Settings} (ht : s.IsScope name instance? t)
    (hu : s.IsScope name instance? u) : t = u := by
  refine ext_value? fun key => ?_
  by_cases h : s.Overridden name instance? key
  · obtain ⟨number, rest, value, hinstance, rfl, hmem⟩ := h
    rw [mem_entries_iff.mp (ht.override number rest value hinstance hmem),
      mem_entries_iff.mp (hu.override number rest value hinstance hmem)]
  · refine Option.ext fun value => ?_
    rw [← mem_entries_iff, ← mem_entries_iff, ht.others key h, hu.others key h]

theorem isScope_scopedFor : s.IsScope (lower d.name) d.instance? (s.scopedFor d) where
  override number rest value hinstance hmem := by
    have hover : overriding? (lower d.name) d.instance? (sectionStart (lower d.name) ++ rest) =
        some (sectionStart (instanceSection (lower d.name) number) ++ rest) :=
      overriding?_eq_some_iff.mpr ⟨number, rest, hinstance, rfl, rfl⟩
    rw [mem_entries_iff, value?_scopedFor, hover, Option.bind_some, mem_entries_iff.mp hmem,
      Option.some_or]
  others key hnot value := by
    have hover : (overriding? (lower d.name) d.instance? key).bind s.value? = none := by
      rw [Option.bind_eq_none_iff]
      intro k hk
      obtain ⟨number, rest, hinstance, hkey, rfl⟩ := overriding?_eq_some_iff.mp hk
      refine Option.eq_none_iff_forall_ne_some.mpr fun value hvalue => ?_
      exact hnot ⟨number, rest, value, hinstance, hkey, mem_entries_iff.mpr hvalue⟩
    rw [mem_entries_iff, value?_scopedFor, hover, Option.none_or, mem_entries_iff, ← isVisible_iff,
      Option.ite_none_right_eq_some, and_comm]

/-- **What concerns a module is what it gets to see.** -/
theorem isScope_iff : s.IsScope (lower d.name) d.instance? t ↔ t = s.scopedFor d :=
  ⟨fun h => h.eq isScope_scopedFor, fun h => h ▸ isScope_scopedFor⟩

/-! ### Both ways -/

/-- The section of a module in what it gets to see, with its instance. -/
theorem subset_scopedFor (h : lower name = lower d.name) :
    (s.scopedFor d).subset name = s.subsetForInstance name d.instance? := by
  refine ext_value? fun rest => ?_
  have hvisible : isVisible (lower d.name) (sectionStart (lower d.name) ++ rest) = true :=
    isVisible_iff.mpr ⟨rest, .inr rfl⟩
  have hover : (overriding? (lower d.name) d.instance? (sectionStart (lower d.name) ++ rest)).bind
      s.value? = d.instance?.bind fun number =>
        s.value? (sectionStart (instanceSection (lower d.name) number) ++ rest) := by
    rw [overriding?, dropStart?_eq_some_iff.mpr rfl, Option.bind_assoc]
    rfl
  rw [value?_subset, value?_subsetForInstance, h, value?_scopedFor, hover, if_pos hvisible]

/-- **Both ways to what is set for a module agree.** A module gets to see what is set for its
instance under the keys of its section, and apart from these exactly the entries of the global
section and of its own. Asked for its section, in any spelling, this gives what the settings
themselves give for the section and the instance. And the settings of a supercomponent stay as they
are, however many modules they are picked for. -/
theorem scopedFor_agrees_with_sections (s : Settings) (d : Descriptor) :
    (∀ t, s.IsScope (lower d.name) d.instance? t ↔ t = s.scopedFor d) ∧
    (∀ name, lower name = lower d.name →
      (s.scopedFor d).subset name = s.subsetForInstance name d.instance?) ∧
    ∀ (c : Supercomponent) (ms : List OpenMove), c.acceptor.settings = s →
      (c.lastOpened ms).acceptor.settings = s :=
  ⟨fun _ => isScope_iff, fun _ => subset_scopedFor,
    fun c ms h => (c.constants_last ms).2.trans h⟩

/-- The global section may have instances, like any other. -/
example : ((parse "global.x = 1\nglobal:2.x = 3\nproxy.y = 4").scopedFor
    { name := "Global", instance? := some 2 }).entries = [("global.x", "3")] := by
  decide +kernel

end Cadence.Settings
