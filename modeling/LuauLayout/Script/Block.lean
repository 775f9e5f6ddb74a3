import LuauLayout.Layout
import LuauLayout.Script.Statement

/-! The statements that build the interface: a preamble that makes the root, and a block for each
item. A block declares the item, sets its position and size, then what else the item has, in a fixed
order, and puts it under the root; a circle gets a rounded corner of its own. -/

namespace LuauLayout

open Statement

def preamble : List Statement :=
  [declare rootName "ScreenGui",
    assign rootName "Name" (.plain "GeneratedUI"),
    assign rootName "ResetOnSpawn" (.boolean false),
    assign rootName "Parent" .playerGui]

namespace Item

def isCircle (item : Item) : Bool := item.type == some circleType

def isLine (item : Item) : Bool := item.type == some lineType

def helperTypes : List String := ["Group", "Spacer"]

def helperRole : String := "layout"

/-- A helper takes part in the arrangement and has no block. -/
def isHelper (item : Item) : Bool :=
  item.type.any helperTypes.contains || item.role == some helperRole

/-- The properties that an item may lack. -/
def optionalProperties (item : Item) (isSafe : Bool) : List (String × Expression) :=
  ((given item.fill).map fun s => ("BackgroundColor3", Expression.color s)).toList ++
  (item.opacity.map fun n => ("BackgroundTransparency", Expression.number n.oneMinus)).toList ++
  ((given item.text).map fun s => ("Text", Expression.long isSafe s)).toList ++
  ((given item.textColor).map fun s => ("TextColor3", Expression.color s)).toList ++
  (item.fontSize.map fun n => ("TextSize", Expression.number n)).toList ++
  ((given item.imageId).map fun s => ("Image", Expression.plain s)).toList

/-- The properties of an item in the order of its block. -/
def properties (item : Item) (isSafe : Bool) : List (String × Expression) :=
  [("Position", .offset item.x item.y), ("Size", .offset item.w item.h)] ++
    item.optionalProperties isSafe ++ [("Parent", .name rootName)]

/-- What a shape adds to its block. -/
def shapeStatements (item : Item) (identifier : String) : List Statement :=
  if item.isCircle then
    let corner := Identifier.corner identifier
    [declare corner "UICorner", assign corner "CornerRadius" (.radius identifier),
      assign corner "Parent" (.name identifier)]
  else if item.isLine then [assign identifier "BorderSizePixel" (.number 0)]
  else []

/-- The block of an item, from the empty line before it. -/
def block (item : Item) (identifier : String) (isSafe : Bool) : List Statement :=
  blank :: declare identifier (className item.type) ::
    (item.properties isSafe).map (fun p => assign identifier p.1 p.2) ++
    item.shapeStatements identifier

def locals (item : Item) (identifier : String) : List String :=
  if item.isCircle then [identifier, Identifier.corner identifier] else [identifier]

theorem self_mem_locals (item : Item) (identifier : String) : identifier ∈ item.locals identifier := by
  rw [locals]
  split <;> exact List.mem_cons_self

theorem filterMap_declares_assign (name : String) (ps : List (String × Expression)) :
    (ps.map fun p => assign name p.1 p.2).filterMap declares? = [] := by
  induction ps with
  | nil => rfl
  | cons p ps ih => rw [List.map_cons, List.filterMap_cons]; exact ih

/-- The locals of an item are those that its block declares, in order. -/
theorem filterMap_declares_block (item : Item) (identifier : String) (isSafe : Bool) :
    (item.block identifier isSafe).filterMap declares? = item.locals identifier := by
  have h : (item.block identifier isSafe).filterMap declares? =
      identifier :: (item.shapeStatements identifier).filterMap declares? := by
    rw [block, List.cons_append, List.cons_append, List.filterMap_cons_none rfl,
      List.filterMap_cons_some (show declares? (declare identifier _) = some identifier from rfl),
      List.filterMap_append, filterMap_declares_assign, List.nil_append]
  rw [h, shapeStatements, locals]
  by_cases hc : item.isCircle = true
  · rw [if_pos hc, if_pos hc]; rfl
  · rw [if_neg hc, if_neg hc]; split <;> rfl

end Item

end LuauLayout
