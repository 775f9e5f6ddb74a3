import LuauLayout.Number.Decimal

/-! The written form of a decimal number.  Its first digit and its last one other than zero bound
the digits written; a point between them, or zeros up to it, give the positional form, and an
exponent the scientific one. -/

namespace LuauLayout

/-- Which numbers are written positionally, and how wide an exponent is at least. -/
structure DecimalFormat where
  /-- The least exponent of the first digit that is written positionally. -/
  leastPositional : Int
  /-- The least exponent of the first digit that is written scientifically. -/
  leastScientific : Int
  exponentWidth : Nat

namespace Decimal

/-- The digits of the coefficient without zeros at the end; zero keeps one digit. -/
def significantDigits (d : Decimal) : List Char :=
  if d.coefficient = 0 then ['0']
  else ((Nat.toDigits 10 d.coefficient).reverse.dropWhile (· = '0')).reverse

/-- The decimal exponent of the first digit. -/
def scientificExponent (d : Decimal) : Int :=
  if d.coefficient = 0 then 0 else d.exponent + length d.coefficient - 1

/-- The digits with a point after the first `whole` of them; a side without digits shows a zero. -/
def positional (digits : List Char) (whole : Int) : List Char :=
  if whole ≤ 0 then '0' :: '.' :: List.replicate (-whole).toNat '0' ++ digits
  else
    let left := digits.take whole.toNat
    let right := digits.drop whole.toNat
    left ++ List.replicate (whole.toNat - left.length) '0' ++ '.' ::
      (if right.isEmpty then ['0'] else right)

/-- A number with its sign, in at least `width` digits. -/
def exponentText (width : Nat) (e : Int) : List Char :=
  let digits := Nat.toDigits 10 e.natAbs
  (if e < 0 then '-' else '+') :: List.replicate (width - digits.length) '0' ++ digits

/-- One digit, the others after a point, and the exponent. -/
def scientific (width : Nat) (digits : List Char) (e : Int) : List Char :=
  let mantissa := match digits with
    | first :: second :: rest => first :: '.' :: second :: rest
    | short => short
  mantissa ++ 'e' :: exponentText width e

def render (format : DecimalFormat) (d : Decimal) : List Char :=
  let digits := d.significantDigits
  let e := d.scientificExponent
  let magnitude :=
    if format.leastPositional ≤ e ∧ e < format.leastScientific then positional digits (e + 1)
    else scientific format.exponentWidth digits e
  if d.negative then '-' :: magnitude else magnitude

end Decimal

end LuauLayout
