import LuauLayout.Layout.Checked
import LuauLayout.Value

/-! How a layout is read from a value.  What is missing or of the wrong kind falls back to its
default.  The only fields that cannot be read are numeric ones that hold an integer numeral of too
many digits, and fields for texts that hold a whole number of too many digits.  A reading lists all
of them: the canvas first, then the items in order. -/

namespace LuauLayout

open Value (Entries lookup lookupFirst)

/-- The number under a key, zero when it is missing. -/
def readNumber (entries : Entries) (key : String) : Checked Number :=
  match lookup key entries with
  | some v => .ofExcept key 0 v.toNumber
  | none => pure 0

/-- The text under the first of the keys that is present. -/
def readText (entries : Entries) (keys : List String) : Checked (Option String) :=
  match lookupFirst entries keys with
  | some (key, v) => .ofExcept key none v.toText
  | none => pure none

/-- The opacity, absent only when its key is: any value there counts as the number between zero and
one that is nearest to it. -/
def readOpacity (entries : Entries) : Checked (Option Number) :=
  match lookup "opacity" entries with
  | some v => .ofExcept "opacity" none ((some ·.clampToOne) <$> v.toNumber)
  | none => pure none

/-- The size of the text, absent when its value is bare. -/
def readFontSize (entries : Entries) : Checked (Option Number) :=
  match lookupFirst entries ["fontSize", "font_size"] with
  | some (key, v) => if v.isBare then pure none else .ofExcept key none (some <$> v.toNumber)
  | none => pure none

namespace Canvas

/-- Reads the canvas that a mapping describes. -/
def read (entries : Entries) : Checked Canvas :=
  Canvas.mk <$> readNumber entries "w" <*> readNumber entries "h"

end Canvas

namespace Item

/-- Reads the item that a mapping describes; keys other than those of an item do not matter. -/
def read (entries : Entries) : Checked Item :=
  Item.mk <$> readText entries ["type"] <*> readText entries ["name"] <*>
    readNumber entries "x" <*> readNumber entries "y" <*> readNumber entries "w" <*>
    readNumber entries "h" <*> readText entries ["fill"] <*> readOpacity entries <*>
    readText entries ["text"] <*> readText entries ["textColor", "text_color"] <*>
    readFontSize entries <*> readText entries ["imageId", "image_id"] <*>
    pure (!(lookup "export" entries).any Value.isFalse) <*> readText entries ["role"]

/-- Reads one entry of the list of items; what is no mapping counts as an empty one. -/
def ofEntry : Value → Checked Item
  | .item i => pure i
  | .mapping entries => read entries
  | _ => pure {}

end Item

namespace Layout

/-- Reads the canvas, which is absent when it is no mapping. -/
def readCanvas (entries : Entries) : Checked (Option Canvas) :=
  match lookupFirst entries ["canvasSize", "canvas_size"] with
  | some (_, .canvas c) => pure (some c)
  | some (key, .mapping fields) => (some <$> Canvas.read fields).under (.key key)
  | _ => pure none

/-- The entries under `items`, none when there is no list of them. -/
def itemEntries (entries : Entries) : List Value :=
  match lookup "items" entries with
  | some (.list values) => values
  | some (.tuple values) => values
  | _ => []

def readItems (entries : Entries) : Checked (List Item) :=
  (Checked.sequence ((itemEntries entries).mapIdx fun i v =>
    (Item.ofEntry v).under (.index i))).under (.key "items")

def read (entries : Entries) : Checked Layout :=
  Layout.mk <$> readCanvas entries <*> readItems entries

/-- The layout of a value: one that has been read already, one that a mapping describes, and an
empty one for any other value. -/
def ofValue : Value → Except (List FieldFault) Layout
  | .layout l => .ok l
  | .mapping entries => (read entries).toExcept
  | _ => .ok {}

end Layout

end LuauLayout
