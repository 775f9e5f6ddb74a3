import LuauLayout.Number

/-! What may be wrong with a JSON text, and where: a line, a column and the number of characters
before the place. -/

namespace LuauLayout.Json

inductive Fault where
  | expectedValue
  | expectedPropertyName
  | expectedColon
  | expectedComma
  | extraData
  | unterminatedString
  | controlCharacter
  | invalidEscape
  | invalidCodeUnit
  | byteOrderMark
  deriving DecidableEq

def Fault.text : Fault → String
  | expectedValue => "Expecting value"
  | expectedPropertyName => "Expecting property name enclosed in double quotes"
  | expectedColon => "Expecting ':' delimiter"
  | expectedComma => "Expecting ',' delimiter"
  | extraData => "Extra data"
  | unterminatedString => "Unterminated string starting at"
  | controlCharacter => "Invalid control character at"
  | invalidEscape => "Invalid \\escape"
  | invalidCodeUnit => "Invalid \\uXXXX escape"
  | byteOrderMark => "Unexpected UTF-8 BOM (decode using utf-8-sig)"

/-- The values that hold other values. -/
inductive Container where
  | array
  | object
  deriving DecidableEq

def Container.text : Container → String
  | array => "array"
  | object => "object"

/-- Why reading stops: a fault with the number of characters from there to the end of the text, an
integer of too many digits, or a container that is nested too deeply. -/
inductive Halt where
  | fault (f : Fault) (remaining : Nat)
  | overlong (e : Number.Overlong)
  | tooDeep (c : Container)

/-- A place in a text. -/
structure Position where
  line : Nat
  column : Nat
  offset : Nat
  deriving DecidableEq

/-- The place after the characters `before`. -/
def Position.after (before : List Char) : Position :=
  { line := before.count '\n' + 1
    column := (before.reverse.takeWhile (· != '\n')).length + 1
    offset := before.length }

/-- Why a text is no JSON that can be read. -/
inductive Error where
  | malformed (f : Fault) (position : Position)
  | overlong (e : Number.Overlong)
  | tooDeep (c : Container)
  deriving DecidableEq

/-- Places a fault in its text. -/
def Halt.toError (text : List Char) : Halt → Error
  | fault f remaining => .malformed f (.after (text.take (text.length - remaining)))
  | overlong e => .overlong e
  | tooDeep c => .tooDeep c

/-- The message about a container that is nested too deeply. -/
def Container.tooDeepMessage (c : Container) : String :=
  "maximum recursion depth exceeded while decoding a JSON " ++ c.text ++ " from a unicode string"

def Error.message : Error → String
  | malformed f p =>
    f.text ++ ": line " ++ toString p.line ++ " column " ++ toString p.column ++
      " (char " ++ toString p.offset ++ ")"
  | overlong e => e.message
  | tooDeep c => c.tooDeepMessage

end LuauLayout.Json
