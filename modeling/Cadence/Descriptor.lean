import Cadence.Envelope

/-!
# Descriptors of modules

A module introduces itself by its name and, if several modules share a name, by an instance number.
The version is information only: two descriptors with one name and one instance number are the
same module.

## Main definitions

* `Descriptor`: name, instance and version
* `Descriptor.identity`, `Descriptor.same`: what makes a module the same
* `Descriptor.display`: how a module is called
-/

namespace Cadence

open Wire

/-- The version of modules that do not state one. -/
def currentVersion : String := "0.1.0"

/-- How a module introduces itself. -/
structure Descriptor where
  name : String
  instance? : Option UInt32 := none
  version : String := currentVersion
  deriving DecidableEq, Repr

namespace Descriptor

/-- What identifies a module. -/
def identity (d : Descriptor) : String × Option UInt32 := (d.name, d.instance?)

/-- Do two descriptors name the same module? -/
def same (d e : Descriptor) : Bool := d.identity == e.identity

theorem same_iff {d e : Descriptor} : d.same e = true ↔ d.identity = e.identity := by
  simp [same]

/-- The number of different modules among the descriptors. -/
def countDistinct (ds : List Descriptor) : Nat := (ds.map identity).eraseDups.length

/-- The name, and the instance number behind a colon if there is one. -/
def display (d : Descriptor) : String :=
  match d.instance? with
  | some number => s!"{d.name}:{number.toNat}"
  | none => d.name

/-! ### On the wire -/

/-- The field of the name. -/
def nameField : FieldId := fieldId "name"

/-- The field of the instance number. -/
def instanceField : FieldId := fieldId "identifier"

/-- The field of the version. -/
def versionField : FieldId := fieldId "version"

instance : Payload Descriptor where
  dataType := 2
  fields d :=
    [.scalar nameField d.name] ++ (d.instance?.map (Field.scalar instanceField)).toList ++
      [.scalar versionField d.version]
  ofBlock b := do
    let name ← b.get nameField
    let number ← b.get? instanceField
    let version ← b.getD versionField ""
    return ⟨name, number, version⟩

end Descriptor

end Cadence
