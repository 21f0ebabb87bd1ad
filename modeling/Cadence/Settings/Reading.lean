import Cadence.Decimal.Reading
import Cadence.Error
import Cadence.ManagedLevel
import Cadence.Settings.Basic
import Cadence.Text.Quoted

/-!
# Reading settings

A setting is text until somebody asks for it as a value of some type. A missing key and a text that
spells no such value are different errors, and a default stands in for the first one only.

## Main definitions

* `Readable`: a type whose values are spelt as text
* `SettingsError`: why a setting cannot be had
* `Settings.get`, `Settings.getAs`, `Settings.getOr`: a setting as text or as a value
* `Settings.getList`: a setting as a list
* `Settings.load`: the settings of a file
-/

namespace Cadence

/-- A type whose values can be spelt as text. -/
class Readable (α : Type) where
  /-- The value that the text spells. -/
  ofText? : String → Option α

instance : Readable UInt8 := ⟨fun s => (Decimal.readNat? (UInt8.size - 1) s).map UInt8.ofNat⟩

instance : Readable UInt16 := ⟨fun s => (Decimal.readNat? (UInt16.size - 1) s).map UInt16.ofNat⟩

instance : Readable UInt32 := ⟨fun s => (Decimal.readNat? (UInt32.size - 1) s).map UInt32.ofNat⟩

instance : Readable UInt64 := ⟨fun s => (Decimal.readNat? (UInt64.size - 1) s).map UInt64.ofNat⟩

instance : Readable Int8 where
  ofText? s := (Decimal.readInt? Int8.minValue.toInt Int8.maxValue.toInt s).map Int8.ofInt

instance : Readable Int32 where
  ofText? s := (Decimal.readInt? Int32.minValue.toInt Int32.maxValue.toInt s).map Int32.ofInt

instance : Readable Int64 where
  ofText? s := (Decimal.readInt? Int64.minValue.toInt Int64.maxValue.toInt s).map Int64.ofInt

instance : Readable Float := ⟨Decimal.readFloat?⟩

/-- The two words, in small letters only. -/
instance : Readable Bool :=
  ⟨fun s => if s = "true" then some true else if s = "false" then some false else none⟩

instance : Readable String := ⟨some⟩

instance : Readable ManagedLevel := ⟨fun s => (ManagedLevel.ofText s).toOption⟩

/-- Every text spells settings: lines that make no sense are skipped. -/
instance : Readable Settings := ⟨fun s => some (Settings.parse s)⟩

/-- Why a setting cannot be had. -/
inductive SettingsError where
  | keyNotFound (key : String)
  | invalidValue (key value : String)
  | io (fault : IoFault)
  deriving DecidableEq, Repr

/-- The wording of a settings error. -/
def SettingsError.message : SettingsError → String
  | keyNotFound key => s!"key not found: {key}"
  | invalidValue key value => s!"invalid value for {key}: {Text.quoted value}"
  | io fault => fault.message

namespace Settings

/-- The value of a key in any case. -/
def get (s : Settings) (key : String) : Except SettingsError String :=
  match s.find? key with
  | some value => .ok value
  | none => .error (.keyNotFound (soughtKey key))

/-- The value of a key as an `α`. -/
def getAs (α : Type) [Readable α] (s : Settings) (key : String) : Except SettingsError α := do
  let text ← s.get key
  match Readable.ofText? text with
  | some value => return value
  | none => throw (.invalidValue (soughtKey key) text)

/-- The value of a key as an `α`, or `default` if there is no such key. -/
def getOr {α : Type} [Readable α] (s : Settings) (key : String) (default : α) :
    Except SettingsError α :=
  if s.contains key then s.getAs α key else .ok default

/-- The parts of a value between commas, trimmed, without the empty ones. A missing key has no
parts. -/
def getList (s : Settings) (key : String) : List String :=
  match s.find? key with
  | none => []
  | some value =>
    (((value.toList.splitOn ',').map Text.trimChars).filter (· ≠ [])).map String.ofList

/-- The settings of a file, given its content if it exists. -/
def load (content : Option ByteArray) : Except SettingsError Settings :=
  match content with
  | none => .error (.io .notFound)
  | some bytes =>
    match String.fromUTF8? bytes with
    | none => .error (.io .invalidData)
    | some text => .ok (parse text)

end Settings

end Cadence
