import LuauLayout.Layout

/-! Values as an editor hands them over: the values of JSON, with whole numbers apart from doubles,
and parts of a layout that have been read already.  A mapping keeps its entries in order; of several
entries with one key the last counts. -/

namespace LuauLayout

inductive Value where
  | null
  | bool (b : Bool)
  | int (n : Int)
  | float (x : Binary64.Extended)
  | text (s : String)
  | list (values : List Value)
  | tuple (values : List Value)
  | mapping (entries : List (String × Value))
  | canvas (c : Canvas)
  | item (i : Item)
  | layout (l : Layout)

namespace Value

abbrev Entries := List (String × Value)

def lookup (key : String) : Entries → Option Value
  | [] => none
  | (k, v) :: rest => (lookup key rest).or (if k = key then some v else none)

/-- The first of the keys that is present, with its value. -/
def lookupFirst (entries : Entries) (keys : List String) : Option (String × Value) :=
  keys.findSome? fun key => (lookup key entries).map (key, ·)

/-- Values that stand for the absence of one: null, false, zero and whatever is empty. -/
def isBare : Value → Bool
  | null => true
  | bool b => !b
  | int n => n == 0
  | float (.finite x) => x.isZero
  | text s => s.isEmpty
  | list values => values.isEmpty
  | tuple values => values.isEmpty
  | mapping entries => entries.isEmpty
  | _ => false

/-- The literal false and nothing else. -/
def isFalse : Value → Bool
  | bool b => !b
  | _ => false

/-- The number of a value: numbers as they are, numerals by what they denote, and zero for all else,
infinities included. -/
def toNumber : Value → Except Number.Overlong Number
  | int n => .ok (.int n)
  | float x => .ok (.ofExtended x)
  | text s => Number.ofText s
  | _ => .ok 0

/-- The text of a value: a text that is not empty, or that of a number other than zero. -/
def toText? : Value → Option String
  | text s => if s.isEmpty then none else some s
  | int n => if n = 0 then none else some (Number.int n).text
  | float x =>
    let number := Number.ofExtended x
    if number.isZero then none else some number.text
  | _ => none

/-- A whole number of too many digits to be written. -/
def isOverlong : Value → Bool
  | int n => (Number.int n).isOverlong
  | _ => false

/-- The text of a value, which a number of too many digits does not have. -/
def toText (v : Value) : Except Number.Overlong (Option String) :=
  if v.isOverlong then .error .number else .ok v.toText?

/-- The literal of the number of a value, which a number of too many digits does not have. -/
def toLiteral (v : Value) : Except Number.Overlong String := do
  let n ← v.toNumber
  if n.isOverlong then .error .number else return n.literal

end Value

end LuauLayout
