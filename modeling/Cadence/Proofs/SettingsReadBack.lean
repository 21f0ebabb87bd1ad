import Cadence.Proofs.Assignments
import Cadence.Proofs.WordEnds

/-!
# Reading back what has been set

A key is trimmed and put in small letters when a value is set under it, and it is put in small
letters only when it is looked up. Lower-casing does not take blanks away, so a text that is looked
up under a stored key has no blanks at its ends. A key with blanks there is therefore set under
another key than it is looked up under: what is set is found under the key without its blanks, and
under the key as it was given nothing changes.

With this one exception settings keep what is set. It is found under every spelling of its key, what
is found under other keys stays, and there is one entry more if there was none under the key.

## Main definitions

* `Settings.ReadsBack`: what is set under a key is read back, and nothing else changes

## Main results

* `Text.isBare_lowerChars_iff`: lower-casing leaves blanks where they are
* `Settings.lower_eq_storedKey_iff`: which texts are looked up under a stored key
* `Settings.find?_set`, `Settings.size_set`: what is found after a value has been set, and how many
  entries there are
* `Settings.reads_back_iff`: when a value is read back
* `Settings.blanks_not_read_back`: a key under which it is not
-/

namespace Cadence

variable {c : Char} {cs : List Char}

/-! ### Blanks in small letters -/

namespace Text

theorem isSmall_of_isBlank (h : isBlank c = true) : IsSmall c := by
  -- Unlike capital letters blanks are few, so they are checked one by one.
  have hblanks : ∀ i ∈ whiteSpace, ∀ n ∈ List.range' i.1 (i.2 + 1 - i.1),
      lowerChar (Char.ofNat n) = [Char.ofNat n] := by decide +kernel
  obtain ⟨i, hi, hfirst, hlast⟩ := CodePoints.has_iff.mp h
  have hmem : c.toNat ∈ List.range' i.1 (i.2 + 1 - i.1) :=
    List.mem_range'_1.mpr ⟨hfirst, by omega⟩
  have hc := hblanks i hi c.toNat hmem
  rwa [Char.ofNat_toNat] at hc

theorem mem_head?_lowerChars (h : c ∈ cs.head?) (hsmall : IsSmall c) :
    c ∈ (lowerChars cs).head? := by
  cases cs with
  | nil => cases h
  | cons d cs =>
    obtain rfl : d = c := Option.some.inj h
    rw [lowerChars, lowerAfter, lowerBetween_of_isSmall hsmall]
    rfl

theorem mem_getLast?_lowerChars (h : c ∈ cs.getLast?) (hsmall : IsSmall c) :
    c ∈ (lowerChars cs).getLast? := by
  obtain ⟨front, rfl⟩ := List.getLast?_eq_some_iff.mp h
  have hlast : lowerAfter (front.reverse ++ []) [c] = [c] :=
    lowerAfter_of_isSmall fun d hd => List.mem_singleton.mp hd ▸ hsmall
  rw [lowerChars, lowerAfter_append, hlast, List.getLast?_concat]
  rfl

/-- **Lower-casing leaves blanks at the ends where they are.** -/
theorem isBare_lowerChars_iff : IsBare (lowerChars cs) ↔ IsBare cs := by
  refine ⟨fun h => ⟨fun c hc => ?_, fun c hc => ?_⟩, IsBare.lowerChars⟩
  · cases hblank : isBlank c with
    | false => rfl
    | true => rw [← hblank, h.head c (mem_head?_lowerChars hc (isSmall_of_isBlank hblank))]
  · cases hblank : isBlank c with
    | false => rfl
    | true => rw [← hblank, h.last c (mem_getLast?_lowerChars hc (isSmall_of_isBlank hblank))]

theorem trim_trim (s : String) : trim (trim s) = trim s := by
  rw [trim_eq_self_iff, trim, String.toList_ofList]
  exact isBare_trimChars _

end Text

open Text

namespace Settings

variable {key k value : String} {s t : Settings}

/-! ### Stored keys -/

theorem storedKey_trim (key : String) : storedKey (trim key) = storedKey key := by
  rw [storedKey, trim_trim, storedKey]

/-- **A text is looked up under a stored key** if and only if it has no blanks at its ends and would
be stored under this key itself. -/
theorem lower_eq_storedKey_iff :
    lower k = storedKey key ↔ trim k = k ∧ storedKey k = storedKey key := by
  constructor
  · intro h
    have hbare : IsBare (lowerChars k.toList) := by
      have hchars := congrArg String.toList h
      rw [lower, storedKey, lower, trim, String.toList_ofList, String.toList_ofList,
        String.toList_ofList] at hchars
      rw [hchars]
      exact (isBare_trimChars _).lowerChars
    have htrim : trim k = k := trim_eq_self_iff.mpr (isBare_lowerChars_iff.mp hbare)
    exact ⟨htrim, by rw [storedKey, htrim, h]⟩
  · rintro ⟨htrim, h⟩
    rw [← h, storedKey, htrim]

/-! ### Looking up -/

theorem get_and_contains_of_find? (h : s.find? k = some value) :
    s.get k = .ok value ∧ s.contains k = true := by
  rw [get, contains, h]
  exact ⟨rfl, rfl⟩

theorem get_and_contains_congr (h : s.find? k = t.find? k) :
    s.get k = t.get k ∧ s.contains k = t.contains k := by
  rw [get, contains, h]
  exact ⟨rfl, rfl⟩

/-- What is found does not depend on the spelling of the key. -/
theorem find?_congr (h : lower k = lower key) : s.find? k = s.find? key := by
  rw [find?, find?, soughtKey, soughtKey, h]

/-- **What is set is found wherever its stored key is looked up**, and nowhere else does anything
change. -/
theorem find?_set : (s.set key value).find? k =
    if lower k = storedKey key then some value else s.find? k := by
  rw [find?, set, value?_put]
  exact if_congr eq_comm rfl rfl

/-- To set what is there already changes nothing. -/
theorem set_eq_self (h : s.get (trim key) = .ok value) : s.set key value = s := by
  refine ext_value? fun k => ?_
  rw [set, value?_put]
  split
  · next hk => rw [← hk, storedKey, get_eq_ok_iff.mp h]
  · rfl

/-! ### Counting -/

theorem nodup_keys (s : Settings) : (s.entries.map (·.1)).Nodup :=
  s.ascending.imp fun hlt => String.ne_of_lt hlt

/-- The keys after a value has been put. -/
theorem keys_put_perm :
    ((s.put key value).entries.map (·.1)).Perm ((s.entries.map (·.1)).insert key) :=
  (List.perm_ext_iff_of_nodup (nodup_keys _) (nodup_keys s).insert).mpr fun k => by
    rw [List.mem_insert_iff]
    exact mem_keys_insertEntry

theorem contains_iff : s.contains k = true ↔ lower k ∈ s.entries.map (·.1) := by
  rw [contains, find?, soughtKey, Option.isSome_iff_exists, List.mem_map]
  simp only [← mem_entries_iff, Prod.exists, exists_and_right, exists_eq_right]

/-- **There is one entry more if there was none under the stored key.** -/
theorem size_set :
    (s.set key value).size = s.size + if s.contains (trim key) then 0 else 1 := by
  have hlength : (s.set key value).size =
      ((s.entries.map (·.1)).insert (storedKey key)).length := by
    rw [← keys_put_perm.length_eq, List.length_map]
    rfl
  rw [hlength, List.length_insert, List.length_map]
  simp only [contains_iff]
  rfl

/-! ### Reading back -/

/-- What is set under a key is read back under every spelling of it. Under other keys nothing
changes, and there is one entry more if there was none under the key. -/
structure ReadsBack (s : Settings) (key value : String) : Prop where
  found : ∀ k, lower k = lower key →
    (s.set key value).get k = .ok value ∧ (s.set key value).contains k = true
  others : ∀ k, lower k ≠ lower key →
    (s.set key value).get k = s.get k ∧ (s.set key value).contains k = s.contains k
  size : (s.set key value).size = s.size + if s.contains key then 0 else 1

theorem set_trim : s.set (trim key) value = s.set key value := by
  rw [set, set, storedKey_trim]

theorem readsBack_trim : ReadsBack s (trim key) value where
  found k hk := get_and_contains_of_find? (by
    rw [find?_set, storedKey_trim]
    exact if_pos hk)
  others k hk := get_and_contains_congr (by
    rw [find?_set, storedKey_trim]
    exact if_neg hk)
  size := by rw [size_set, trim_trim]

/-- Nothing changes under a text with blanks at its ends, nor under one that is stored under another
key. -/
theorem unchanged_of_ne (h : trim k ≠ k ∨ storedKey k ≠ storedKey key) :
    (s.set key value).get k = s.get k ∧ (s.set key value).contains k = s.contains k := by
  have hne : lower k ≠ storedKey key := by
    rw [ne_eq, lower_eq_storedKey_iff]
    exact not_and_or.mpr h
  exact get_and_contains_congr (by rw [find?_set, if_neg hne])

/-- If the value is there already, under the key as it is given and under the stored one, nothing is
to be changed. -/
theorem readsBack_of_get (hkey : s.get key = .ok value) (hstored : s.get (trim key) = .ok value) :
    ReadsBack s key value := by
  have hset : s.set key value = s := set_eq_self hstored
  have hfind : s.find? key = some value := get_eq_ok_iff.mp hkey
  refine ⟨fun k hk => ?_, fun k _ => ?_, ?_⟩
  · rw [hset]
    exact get_and_contains_of_find? ((find?_congr hk).trans hfind)
  · rw [hset]
    exact ⟨rfl, rfl⟩
  · rw [hset, if_pos (get_and_contains_of_find? hfind).2, Nat.add_zero]

/-- **When a value is read back.** It is set under the key without the blanks at its ends, and under
this key it is read back. Under the key as it was given it is read back if and only if there are no
blanks at its ends, or nothing was to be changed. Nothing changes under any text with blanks at its
ends, the key itself included, nor under one that is stored under another key. -/
theorem reads_back_iff (s : Settings) (key value : String) :
    s.set (trim key) value = s.set key value ∧ ReadsBack s (trim key) value ∧
    (ReadsBack s key value ↔
      trim key = key ∨ s.get key = .ok value ∧ s.get (trim key) = .ok value) ∧
    ∀ k, trim k ≠ k ∨ storedKey k ≠ storedKey key →
      (s.set key value).get k = s.get k ∧ (s.set key value).contains k = s.contains k := by
  refine ⟨set_trim, readsBack_trim, ⟨fun h => ?_, ?_⟩, fun k hk => unchanged_of_ne hk⟩
  · by_cases htrim : trim key = key
    · exact .inl htrim
    · have hne : lower (trim key) ≠ lower key := fun heq =>
        htrim (lower_eq_storedKey_iff.mp heq.symm).1
      -- Under the key nothing changes, and under the stored one nothing is to change, so that both
      -- values have been there before.
      have hkey : (s.set key value).get key = .ok value := (h.found key rfl).1
      have hstored : (s.set key value).get (trim key) = .ok value := by
        rw [← set_trim]
        exact (readsBack_trim.found (trim key) rfl).1
      rw [(unchanged_of_ne (.inl htrim)).1] at hkey
      rw [(h.others (trim key) hne).1] at hstored
      exact .inr ⟨hkey, hstored⟩
  · rintro (htrim | ⟨hkey, hstored⟩)
    · exact htrim ▸ readsBack_trim
    · exact readsBack_of_get hkey hstored

/-- With blanks at its ends a key is not found again, whatever is set under it, and to set it once
more adds no entry. -/
theorem blanks_not_read_back :
    ¬ ReadsBack empty " car " "Ford" ∧
      let s := empty.set " car " "Ford"
      s.entries = [("car", "Ford")] ∧ s.get " car " = .error (.keyNotFound " car ") ∧
        s.contains " car " = false ∧ (s.set " car " "Fiat").size = s.size := by
  have hmissing : (empty.set " car " "Ford").contains " car " = false := by decide +kernel
  refine ⟨fun h => ?_, by decide +kernel⟩
  have hfound := (h.found " car " rfl).2
  rw [hmissing] at hfound
  cases hfound

end Settings

end Cadence
