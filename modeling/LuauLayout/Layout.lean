import LuauLayout.Number

/-! A layout: a flat, ordered list of rectangular items drawn on a canvas. -/

namespace LuauLayout

/-- The size of the editing surface, which no script mentions. -/
structure Canvas where
  w : Number := 0
  h : Number := 0
  deriving DecidableEq

/-- One element of a user interface.  The text fields are absent or not empty. -/
structure Item where
  /-- The class of the element, or the kind of shape or helper it is. -/
  type : Option String := none
  name : Option String := none
  /-- The offset from the top left corner, in pixels. -/
  x : Number := 0
  y : Number := 0
  w : Number := 0
  h : Number := 0
  /-- The background colour in hexadecimal. -/
  fill : Option String := none
  /-- The opacity of the background, between zero and one. -/
  opacity : Option Number := none
  text : Option String := none
  textColor : Option String := none
  fontSize : Option Number := none
  imageId : Option String := none
  /-- A hidden item takes no part in a script. -/
  exported : Bool := true
  /-- The role `layout` marks the helpers of the editor. -/
  role : Option String := none
  deriving DecidableEq

structure Layout where
  canvas : Option Canvas := none
  items : List Item := []
  deriving DecidableEq

end LuauLayout
