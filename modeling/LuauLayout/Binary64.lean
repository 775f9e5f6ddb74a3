/-! Double-precision numbers, held exactly.  The magnitude of a finite double is a whole number of
units of `2^-1074`, the least positive double; at most 53 of its bits are significant.  Rounding
takes a quotient to the nearest such magnitude, a tie to the one with an even last significant bit.
-/

namespace LuauLayout

namespace Binary64

def one : Nat := Nat.pow 2 1074

/-- The distance, as a power of two, between neighbours of a magnitude of `units` units. -/
def spacing (units : Nat) : Nat := units.log2 - 52

/-- The magnitudes of finite doubles: 53 significant bits, below `2^1024`. -/
def Representable (units : Nat) : Prop :=
  units % Nat.pow 2 (spacing units) = 0 ∧ units < Nat.pow 2 2098

instance (units : Nat) : Decidable (Representable units) := by
  unfold Representable; infer_instance

theorem representable_zero : Representable 0 := by decide +kernel

/-- The quotient rounded to the nearest whole number, a half to the even neighbour. -/
def roundDiv (num den : Nat) : Nat :=
  let q := num / den
  let r := num % den
  if 2 * r < den ∨ (2 * r = den ∧ q % 2 = 0) then q else q + 1

/-- The magnitude nearest to `num / den` units, without a bound above. -/
def roundUnits (num den : Nat) : Nat :=
  let grid := Nat.pow 2 (spacing (num / den))
  roundDiv num (den * grid) * grid

end Binary64

/-- A finite double.  Zero has two signs. -/
structure Binary64 where
  negative : Bool
  units : Nat
  representable : Binary64.Representable units
  deriving DecidableEq

namespace Binary64

theorem ext_iff {x y : Binary64} : x = y ↔ x.negative = y.negative ∧ x.units = y.units := by
  cases x; cases y; simp

def zero (negative : Bool) : Binary64 := ⟨negative, 0, representable_zero⟩

/-- The value in units, with its sign. -/
def toUnits (x : Binary64) : Int := if x.negative then -(x.units : Int) else x.units

def isZero (x : Binary64) : Bool := x.units == 0

def isIntegral (x : Binary64) : Bool := x.units % one == 0

def truncate (x : Binary64) : Int :=
  if x.negative then -((x.units / one : Nat) : Int) else (x.units / one : Nat)

/-- A double: a finite value, an infinity, or no number. -/
inductive Extended where
  | finite (x : Binary64)
  | infinity (negative : Bool)
  | nan
  deriving DecidableEq

namespace Extended

/-- The double of a sign and a rounded magnitude; one that is too large is infinite. -/
def ofUnits (negative : Bool) (units : Nat) : Extended :=
  if h : Representable units then finite ⟨negative, units, h⟩ else infinity negative

/-- The double nearest to `num / den`. -/
def ofRatio (negative : Bool) (num den : Nat) : Extended :=
  ofUnits negative (roundUnits (num * one) den)

end Extended

/-- One less the value, rounded. -/
def oneMinus (x : Binary64) : Extended :=
  let difference := (one : Int) - x.toUnits
  .ofUnits (difference < 0) (roundUnits difference.natAbs 1)

end Binary64

end LuauLayout
