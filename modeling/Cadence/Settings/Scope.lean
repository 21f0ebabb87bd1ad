import Cadence.Descriptor
import Cadence.Settings.Basic

/-!
# Sections of settings

A key `section.rest` belongs to a section, and a section `name:number` to one instance of the
modules called `name`. A module gets to see the global section and its own, where the settings of
its instance override those of its name.

## Main definitions

* `Settings.subset`: a section, without its name
* `Settings.subsetForInstance`: a section with the overrides of one instance
* `Settings.scopedFor`: what a module gets to see
-/

namespace Cadence.Settings

/-- The section that every module gets to see. -/
def globalSection : String := "global"

/-- What follows `start` in `s`, if `s` starts with it. -/
def dropStart? (start s : String) : Option String :=
  (start.toList.isPrefixOf? s.toList).map String.ofList

/-- How the keys of a section start. -/
def sectionStart (name : String) : String := name ++ "."

/-- The name of the section of one instance. -/
def instanceSection (name : String) (number : UInt32) : String := s!"{name}:{number.toNat}"

/-- The keys of a section, in any case, without its name. -/
def subset (s : Settings) (name : String) : Settings :=
  let start := sectionStart (Text.lower name)
  ofEntries (s.entries.filterMap fun (key, value) => (dropStart? start key).map (·, value))

/-- The keys of a section and of its instance, where the instance counts. -/
def subsetForInstance (s : Settings) (name : String) (instance? : Option UInt32) : Settings :=
  match instance? with
  | none => s.subset name
  | some number => (s.subset name).putAll (s.subset (instanceSection name number)).entries

/-- Does this key belong to the section? -/
def isIn (name key : String) : Bool := (dropStart? (sectionStart name) key).isSome

/-- Is this a key of the global section or of the named one? -/
def isVisible (name key : String) : Bool := isIn globalSection key || isIn name key

/-- What a module gets to see: the global section, its own, and under the name of its own section
whatever is set for its instance. -/
def scopedFor (s : Settings) (d : Descriptor) : Settings :=
  let name := Text.lower d.name
  let shared := ofEntries (s.entries.filter fun entry => isVisible name entry.1)
  match d.instance? with
  | none => shared
  | some number =>
    let start := sectionStart (instanceSection name number)
    shared.putAll (s.entries.filterMap fun (key, value) =>
      (dropStart? start key).map (sectionStart name ++ ·, value))

end Cadence.Settings
