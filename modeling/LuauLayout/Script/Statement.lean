import LuauLayout.Number
import LuauLayout.Script.Identifier
import LuauLayout.Script.LongString

/-! The statements of a script, one to a line unless a text holds line breaks: a declaration of a
local that holds a new instance, and an assignment to a property of one. -/

namespace LuauLayout

/-- The right side of an assignment. -/
inductive Expression where
  | number (n : Number)
  /-- A text in double quotes, without escapes. -/
  | plain (s : String)
  /-- A text as a long string, in the safe form or not. -/
  | long (isSafe : Bool) (s : String)
  | boolean (b : Bool)
  | offset (x y : Number)
  | color (hex : String)
  /-- The instance that a name holds. -/
  | name (s : String)
  /-- Half the shorter side of the instance that a name holds, in whole pixels. -/
  | radius (s : String)
  | playerGui

inductive Statement where
  /-- The empty line before a block. -/
  | blank
  | declare (name className : String)
  | assign (name property : String) (value : Expression)

namespace Expression

def render : Expression → String
  | number n => n.literal
  | plain s => "\"" ++ s ++ "\""
  | long isSafe s => LongString.quote isSafe s
  | boolean b => if b then "true" else "false"
  | offset x y => "UDim2.fromOffset(" ++ x.literal ++ ", " ++ y.literal ++ ")"
  | color hex => "Color3.fromHex(\"" ++ hex ++ "\")"
  | name s => s
  | radius s =>
    "UDim.new(0, math.floor(math.min(" ++ s ++ ".AbsoluteSize.X, " ++ s ++ ".AbsoluteSize.Y)/2))"
  | playerGui => "game.Players.LocalPlayer:WaitForChild(\"PlayerGui\")"

@[simp] theorem render_number (n : Number) : (number n).render = n.literal := rfl

@[simp] theorem render_plain (s : String) : (plain s).render = "\"" ++ s ++ "\"" := rfl

@[simp] theorem render_long (isSafe : Bool) (s : String) :
    (long isSafe s).render = LongString.quote isSafe s := rfl

@[simp] theorem render_boolean (b : Bool) :
    (boolean b).render = if b then "true" else "false" := rfl

@[simp] theorem render_offset (x y : Number) :
    (offset x y).render = "UDim2.fromOffset(" ++ x.literal ++ ", " ++ y.literal ++ ")" := rfl

@[simp] theorem render_color (hex : String) :
    (color hex).render = "Color3.fromHex(\"" ++ hex ++ "\")" := rfl

@[simp] theorem render_name (s : String) : (name s).render = s := rfl

@[simp] theorem render_radius (s : String) :
    (radius s).render = "UDim.new(0, math.floor(math.min(" ++ s ++ ".AbsoluteSize.X, " ++ s ++
      ".AbsoluteSize.Y)/2))" := rfl

@[simp] theorem render_playerGui :
    playerGui.render = "game.Players.LocalPlayer:WaitForChild(\"PlayerGui\")" := rfl

/-- The numbers that the expression writes out. -/
def numbers : Expression → List Number
  | number n => [n]
  | offset x y => [x, y]
  | _ => []

end Expression

namespace Statement

def render : Statement → String
  | blank => ""
  | declare name className => "local " ++ name ++ " = Instance.new(\"" ++ className ++ "\")"
  | assign name property value => name ++ "." ++ property ++ " = " ++ value.render

@[simp] theorem render_blank : blank.render = "" := rfl

@[simp] theorem render_declare (name className : String) :
    (declare name className).render =
      "local " ++ name ++ " = Instance.new(\"" ++ className ++ "\")" := rfl

@[simp] theorem render_assign (name property : String) (value : Expression) :
    (assign name property value).render = name ++ "." ++ property ++ " = " ++ value.render := rfl

def declares? : Statement → Option String
  | declare name _ => some name
  | _ => none

def numbers : Statement → List Number
  | assign _ _ value => value.numbers
  | _ => []

end Statement

def renderScript (statements : List Statement) : String :=
  "\n".intercalate (statements.map Statement.render)

end LuauLayout
