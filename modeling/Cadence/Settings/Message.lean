import Cadence.Envelope
import Cadence.Settings.Basic

/-!
# Settings in an envelope

A supercomponent sends a module its settings as text, in the line format.
-/

namespace Cadence.Settings

open Wire

/-- The field of the text. -/
def textField : FieldId := fieldId "configuration"

instance : Payload Settings where
  dataType := 3
  fields s := [.scalar textField s.text]
  ofBlock b := do
    let text ← b.getD textField ""
    return parse text

end Cadence.Settings
