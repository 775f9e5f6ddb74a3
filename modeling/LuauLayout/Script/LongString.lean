import LuauLayout.Search

/-! Long strings: a text between brackets of some level, `[[text]]`, `[=[text]=]` and so on.
Nothing in the text is escaped, so it must not hold the closing bracket of its level.  The safe form
takes the lowest level that the text cannot close, alone or together with the bracket after it, and
doubles a line break in front, since a reader drops the first one. -/

namespace LuauLayout.LongString

def opening (level : Nat) : List Char := '[' :: List.replicate level '=' ++ ['[']

def closing (level : Nat) : List Char := ']' :: List.replicate level '=' ++ [']']

def occurs (pattern : List Char) : List Char → Bool
  | [] => pattern.isEmpty
  | c :: rest => pattern.isPrefixOf (c :: rest) || occurs pattern rest

/-- The text, followed by the closing bracket of the level, is closed at that bracket and not
before. -/
def holds (level : Nat) (text : List Char) : Bool := !occurs (closing level) (text ++ [']'])

/-- The lowest level whose brackets hold the text; the length of the text is one that does. -/
def lowestLevel (text : List Char) : Nat := leastFrom (holds · text) text.length 0

def startsWithBreak : List Char → Bool
  | c :: _ => c == '\n' || c == '\r'
  | [] => false

def bracket (level : Nat) (text : List Char) : List Char := opening level ++ text ++ closing level

/-- The text between brackets that it cannot close. -/
def safe (text : List Char) : List Char :=
  bracket (lowestLevel text) (if startsWithBreak text then '\n' :: text else text)

/-- The long string of a text, in the safe form or at level zero. -/
def quote (isSafe : Bool) (text : String) : String :=
  String.ofList (if isSafe then safe text.toList else bracket 0 text.toList)

/-- The brackets of level zero are closed before the end of the text. -/
def closesEarly (text : String) : Bool := !holds 0 text.toList

end LuauLayout.LongString
