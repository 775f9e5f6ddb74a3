import LuauLayout.Number.Notation
import LuauLayout.Number.Numeral
import LuauLayout.Text.Blank

/-! Numbers of a layout: whole numbers without bound, and finite doubles.  A whole number and a
double of the same value stay apart; only the literal of a script writes them alike. -/

namespace LuauLayout

open Text

inductive Number where
  | int (value : Int)
  | float (value : Binary64)
  deriving DecidableEq

namespace Number

instance : OfNat Number n := ⟨int n⟩

/-- A finite double as it is, and zero for anything else. -/
def ofExtended : Binary64.Extended → Number
  | .finite x => float x
  | _ => 0

/-- The value in units of `2^-1074`. -/
def toUnits : Number → Int
  | int n => n * Binary64.one
  | float x => x.toUnits

def isZero (n : Number) : Bool := n.toUnits == 0

/-- The number between zero and one; outside, and at the ends, it is the whole number there. -/
def clampToOne (n : Number) : Number :=
  if n.toUnits ≤ 0 then 0 else if n.toUnits < Binary64.one then n else 1

def oneMinus : Number → Number
  | int n => int (1 - n)
  | float x => ofExtended x.oneMinus

/-- A double is positional from `10^-4` up to below `10^16`; an exponent has two digits or more. -/
def doubleFormat : DecimalFormat := ⟨-4, 16, 2⟩

/-- The shortest text of a double that reads back, with a point or an exponent. -/
def doubleText (x : Binary64) : String :=
  String.ofList ((Decimal.shortest x).render doubleFormat)

def intText (n : Int) : String := n.repr

/-- The literal of a number in a script: a whole value below `10^16` has no point. -/
def literal : Number → String
  | int n => intText n
  | float x =>
    if x.isIntegral ∧ x.truncate.natAbs < Nat.pow 10 16 then intText x.truncate else doubleText x

/-- The text of a number that stands for a text: a whole value has no point, however large. -/
def text : Number → String
  | int n => intText n
  | float x => if x.isIntegral then intText x.truncate else doubleText x

/-- Why a numeral cannot be read, or a whole number not be written: too many digits, which are counted
in a numeral only. -/
inductive Overlong where
  | numeral (digits : Nat)
  | number
  deriving DecidableEq

def digitLimit : Nat := 4300

def Overlong.message (e : Overlong) : String :=
  let count := match e with
    | numeral digits => ": value has " ++ toString digits ++ " digits"
    | number => ""
  "Exceeds the limit (" ++ toString digitLimit ++ " digits) for integer string conversion" ++ count ++
    "; use sys.set_int_max_str_digits() to increase the limit"

/-- A whole number with more digits than the limit; a double never has as many before its point. -/
def isOverlong : Number → Bool
  | int n => Nat.pow 10 digitLimit ≤ n.natAbs
  | float _ => false

/-- The whole number of a sign and digits, unless there are too many of them. -/
def ofIntegerDigits (negative : Bool) (digits : List Nat) : Except Overlong Int :=
  if digitLimit < digits.length then .error (.numeral digits.length)
  else .ok (if negative then -(Numeral.ofDigits digits : Int) else Numeral.ofDigits digits)

/-- The number that a numeral denotes; a decimal beyond the largest double counts as zero. -/
def ofNumeral : Numeral → Except Overlong Number
  | .integer negative digits => int <$> ofIntegerDigits negative digits
  | numeral => .ok (ofExtended numeral.toDecimal.nearest)

/-- The number in a text: a numeral between blanks, and zero for any other text. -/
def ofText (s : String) : Except Overlong Number :=
  match Numeral.read? (strip s.toList) with
  | some numeral => ofNumeral numeral
  | none => .ok 0

end Number

/-- The text of a double, special values included. -/
def Binary64.Extended.text : Binary64.Extended → String
  | finite x => Number.doubleText x
  | infinity negative => if negative then "-inf" else "inf"
  | nan => "nan"

end LuauLayout
