import LuauLayout.Export
import LuauLayout.Layout.Reading

/-! The export of any value: it is read as a layout, and the layout is written as a script.  Both
fail for whole numbers of too many digits, and for nothing else. -/

namespace LuauLayout

/-- Why a value has no export: fields that cannot be read, or a number that cannot be written. -/
inductive Export.Fault where
  | invalid (faults : List FieldFault)
  | overlong (e : Number.Overlong)
  deriving DecidableEq

/-- The export of a layout, unless a number of its script has too many digits. -/
def Layout.toExport (layout : Layout) (options : ExportOptions) : Except Number.Overlong Export :=
  if ((layout.statements options).flatMap (·.numbers)).any (·.isOverlong) then .error .number
  else .ok (layout.toScript options)

def Export.ofValue (v : Value) (options : ExportOptions) : Except Export.Fault Export :=
  match Layout.ofValue v with
  | .error faults => .error (.invalid faults)
  | .ok layout => (layout.toExport options).mapError .overlong

end LuauLayout
