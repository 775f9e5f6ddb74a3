import LuauLayout.Binary64

/-! Decimal numbers `coefficient * 10^exponent` and the doubles nearest to them.  `shortest` is the
way back: among the decimals that read as a given double, the fewest digits, and of those the
nearest. -/

namespace LuauLayout

structure Decimal where
  negative : Bool
  coefficient : Nat
  exponent : Int
  deriving DecidableEq

namespace Decimal

def length (n : Nat) : Nat := (Nat.toDigits 10 n).length

/-- The decimal as a quotient of whole numbers. -/
def ratio (d : Decimal) : Nat × Nat :=
  if d.exponent < 0 then (d.coefficient, Nat.pow 10 (-d.exponent).toNat)
  else (d.coefficient * Nat.pow 10 d.exponent.toNat, 1)

/-- The nearest double, a tie going to the even one; infinite beyond the largest double.  A decimal
of `10^310` or more lies there, and one below `10^-330` rounds to zero; the tests for the two keep
the powers of ten small. -/
def nearest (d : Decimal) : Binary64.Extended :=
  if d.coefficient = 0 then .finite (.zero d.negative)
  else if 310 < d.exponent + length d.coefficient then .infinity d.negative
  else if d.exponent + length d.coefficient < -330 then .finite (.zero d.negative)
  else .ofRatio d.negative d.ratio.1 d.ratio.2

/-- The decimal exponent of the first digit of the positive quotient `num / den`. -/
def leadingExponent (num den : Nat) : Int :=
  let shift : Int := (length num : Int) - length den
  let below := if shift < 0 then num * Nat.pow 10 (-shift).toNat < den
    else num < den * Nat.pow 10 shift.toNat
  if below then shift - 1 else shift

/-- The neighbours of `num / den` on the grid of the multiples of `10^exponent`, the nearer one
first and of two equally near the even one. -/
def neighbours (negative : Bool) (num den : Nat) (exponent : Int) : List Decimal :=
  let scaled := if exponent < 0 then (num * Nat.pow 10 (-exponent).toNat, den)
    else (num, den * Nat.pow 10 exponent.toNat)
  let low := scaled.1 / scaled.2
  let near := Binary64.roundDiv scaled.1 scaled.2
  let far := if near = low then low + 1 else low
  [⟨negative, near, exponent⟩, ⟨negative, far, exponent⟩]

/-- The decimal that equals the double. -/
def ofBinary64 (x : Binary64) : Decimal := ⟨x.negative, x.units * Nat.pow 5 1074, -1074⟩

/-- The decimal with the fewest digits that reads as the double, the nearest of several. -/
def shortest (x : Binary64) : Decimal :=
  if x.isZero then ⟨x.negative, 0, 0⟩
  else
    let lead := leadingExponent x.units Binary64.one
    let found := (List.range 17).findSome? fun (n : Nat) =>
      (neighbours x.negative x.units Binary64.one (lead - n)).find? fun d => d.nearest = .finite x
    found.getD (ofBinary64 x)

end Decimal

end LuauLayout
