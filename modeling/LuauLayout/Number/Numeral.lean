import LuauLayout.Number.Decimal
import LuauLayout.Text.DecimalDigit

/-! Numerals: an optional sign and either digits alone, or digits with a point, an exponent or both.
The digits may be those of any script.  `Numeral.read?` accepts these texts and no other, neither
blanks, nor separators between digits, nor names of special values. -/

namespace LuauLayout

open Text

inductive Numeral where
  | integer (negative : Bool) (digits : List Nat)
  | decimal (negative : Bool) (whole fraction : List Nat) (exponent : Int)
  deriving DecidableEq

namespace Numeral

/-- The number that the digits denote in base ten. -/
def ofDigits (digits : List Nat) : Nat := digits.foldl (fun n d => 10 * n + d) 0

def readDigits (s : List Char) : List Nat × List Char :=
  ((s.takeWhile isDecimalDigit).filterMap digitValue?, s.dropWhile isDecimalDigit)

/-- An optional sign: whether it is a minus, and what follows it. -/
def readSign : List Char → Bool × List Char
  | '+' :: rest => (false, rest)
  | '-' :: rest => (true, rest)
  | s => (false, s)

/-- An optional exponent that ends the text. -/
def readExponent? : List Char → Option Int
  | [] => some 0
  | c :: rest =>
    if c = 'e' ∨ c = 'E' then
      let (negative, digits) := readSign rest
      match readDigits digits with
      | (d :: ds, []) =>
        some (if negative then -(ofDigits (d :: ds) : Int) else ofDigits (d :: ds))
      | _ => none
    else none

/-- Reads a numeral that takes up the whole text. -/
def read? (s : List Char) : Option Numeral :=
  let (negative, unsigned) := readSign s
  match readDigits unsigned with
  | ([], '.' :: rest) =>
    let (fraction, tail) := readDigits rest
    if fraction.isEmpty then none else (readExponent? tail).map (decimal negative [] fraction)
  | ([], _) => none
  | (whole, []) => some (integer negative whole)
  | (whole, '.' :: rest) =>
    let (fraction, tail) := readDigits rest
    (readExponent? tail).map (decimal negative whole fraction)
  | (whole, tail) => (readExponent? tail).map (decimal negative whole [])

def toDecimal : Numeral → Decimal
  | integer negative digits => ⟨negative, ofDigits digits, 0⟩
  | decimal negative whole fraction exponent =>
    ⟨negative, ofDigits (whole ++ fraction), exponent - fraction.length⟩

end Numeral

end LuauLayout
