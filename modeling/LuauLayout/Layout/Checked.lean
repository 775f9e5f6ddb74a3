import LuauLayout.Number

/-! Readings that report every field that cannot be read.  Two readings in sequence are one that
holds both values, or the faults of both in order. -/

namespace LuauLayout

/-- One step on the way from a layout to a field. -/
inductive Step where
  | key (name : String)
  | index (i : Nat)
  deriving DecidableEq

/-- A field that holds a whole number of too many digits, in a numeral or by itself. -/
structure FieldFault where
  location : List Step
  cause : Number.Overlong
  deriving DecidableEq

def Step.text : Step → String
  | key name => name
  | index i => toString i

def FieldFault.message (f : FieldFault) : String :=
  ".".intercalate (f.location.map Step.text) ++ ": Value error, " ++ f.cause.message

def FieldFault.report (faults : List FieldFault) : String :=
  "; ".intercalate (faults.map message)

/-- A value together with the faults found on the way to it. -/
structure Checked (α : Type) where
  value : α
  faults : List FieldFault := []

namespace Checked

instance : Functor Checked where
  map f a := ⟨f a.value, a.faults⟩

instance : Applicative Checked where
  pure a := ⟨a, []⟩
  seq f a := let b := a (); ⟨f.value b.value, f.faults ++ b.faults⟩

/-- The reading with its faults located below `step`. -/
def under (step : Step) (a : Checked α) : Checked α :=
  { a with faults := a.faults.map fun f => { f with location := step :: f.location } }

/-- A reading that may fail at the key `key`, where `default` then stands for the value. -/
def ofExcept (key : String) (default : α) : Except Number.Overlong α → Checked α
  | .ok a => ⟨a, []⟩
  | .error e => ⟨default, [⟨[.key key], e⟩]⟩

def sequence : List (Checked α) → Checked (List α)
  | [] => pure []
  | a :: rest => (· :: ·) <$> a <*> sequence rest

/-- The value if there is no fault, and the faults otherwise. -/
def toExcept (a : Checked α) : Except (List FieldFault) α :=
  if a.faults.isEmpty then .ok a.value else .error a.faults

end Checked

end LuauLayout
