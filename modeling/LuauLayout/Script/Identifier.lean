/-! The identifiers and class names of a script.  A name becomes an identifier character by
character: ASCII letters, ASCII digits and underscores stay, and every other character turns into an
underscore. A digit in front and a keyword come through, so the result need not be an identifier of
Luau. -/

namespace LuauLayout

/-- A text that is present and not empty. -/
def given (s : Option String) : Option String := s.filter fun t => !t.isEmpty

namespace Identifier

def isWordChar (c : Char) : Bool := c.isAlphanum || c == '_'

/-- The name with an underscore for every character that is no word character. -/
def clean (name : String) : String :=
  String.ofList (name.toList.map fun c => if isWordChar c then c else '_')

/-- The identifier of an item without a letter or digit in its name. -/
def numbered (index : Int) : String := "Item_" ++ index.repr

/-- The name of an item that declares none: its type and position. -/
def derived (type : Option String) (index : Int) : String :=
  (given type).getD "Item" ++ "_" ++ index.repr

def ofItem (name type : Option String) (index : Int) : String :=
  let identifier := clean ((given name).getD (derived type index))
  if identifier.toList.all (· == '_') then numbered index else identifier

def suffixed (identifier : String) (n : Nat) : String := identifier ++ "_" ++ n.repr

def corner (identifier : String) : String := identifier ++ "_corner"

end Identifier

def rootName : String := "ScreenGui"

def defaultClass : String := "Frame"

def circleType : String := "Circle"

def lineType : String := "Line"

/-- The shapes of the editor that have no class of their own. -/
def shapeTypes : List String := [circleType, lineType]

def isClassName (s : String) : Bool :=
  match s.toList with
  | [] => false
  | c :: rest => (c.isAlpha || c == '_') && rest.all Identifier.isWordChar

def className (type : Option String) : String :=
  match type with
  | some t => if shapeTypes.contains t || !isClassName t then defaultClass else t
  | none => defaultClass

end LuauLayout
