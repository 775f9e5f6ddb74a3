import LuauLayout.Script.Block

/-! The export of a layout.  The items that are not hidden are numbered in order; helpers take a
number and nothing else.  Every other item gets a block, under the identifier of its name or, when
names are made unique, under the first of `name`, `name_2`, `name_3` and so on whose locals are
still free.  The warnings tell where the script may not show the layout as it is meant. -/

namespace LuauLayout

/-- The switches of an export, both of which are off unless asked for. -/
structure ExportOptions where
  uniqueNames : Bool := false
  safeText : Bool := false
  deriving DecidableEq

namespace Warning

inductive Kind where
  | duplicateName
  | unterminatedText
  | skippedItem
  deriving DecidableEq

namespace Kind

def all : List Kind := [duplicateName, unterminatedText, skippedItem]

def text : Kind → String
  | duplicateName => "duplicate_name"
  | unterminatedText => "unterminated_text"
  | skippedItem => "skipped_item"

end Kind

inductive Cause where
  /-- The locals of the item were taken, and it was given another identifier. -/
  | renamed (natural : String)
  /-- A local of the item is declared several times. -/
  | repeated (name : String) (count : Nat)
  | unterminated
  | skipped
  deriving DecidableEq

def Cause.kind : Cause → Kind
  | renamed _ => .duplicateName
  | repeated _ _ => .duplicateName
  | unterminated => .unterminatedText
  | skipped => .skippedItem

end Warning

/-- Something in a layout that the script may not represent faithfully. -/
structure Warning where
  itemIndex : Nat
  /-- The identifier of the item in the script. -/
  identifier : String
  cause : Warning.Cause
  deriving DecidableEq

namespace Warning

def kind (w : Warning) : Kind := w.cause.kind

def message (w : Warning) : String :=
  match w.cause with
  | .renamed natural =>
    "Duplicate identifier '" ++ natural ++ "' renamed to '" ++ w.identifier ++ "'"
  | .repeated name count =>
    "Identifier '" ++ name ++ "' is declared " ++ toString count ++ " times"
  | .unterminated => "Text of '" ++ w.identifier ++ "' closes the long string early"
  | .skipped => "'" ++ w.identifier ++ "' is a layout helper and was not exported"

end Warning

/-- An item with its number among those that are not hidden and its identifiers. -/
structure Placed where
  index : Nat
  item : Item
  /-- The identifier that the name of the item gives. -/
  natural : String
  identifier : String

namespace Placed

def isWritten (p : Placed) : Bool := !p.item.isHelper

def locals (p : Placed) : List String := p.item.locals p.identifier

def block (p : Placed) (isSafe : Bool) : List Statement := p.item.block p.identifier isSafe

end Placed

/-- None of the locals that the item would declare is taken. -/
def isFree (taken : List String) (item : Item) (identifier : String) : Bool :=
  (item.locals identifier).all fun name => !taken.contains name

/-- The identifier with the least number from two on behind it that is free.  A taken name rules out
two numbers at most, one by itself and one as a corner, which bounds the search. -/
def freeIdentifier (taken : List String) (item : Item) (identifier : String) : String :=
  Identifier.suffixed identifier
    (leastFrom (fun n => isFree taken item (Identifier.suffixed identifier n)) (2 * taken.length) 2)

/-- Gives the items their identifiers in order; `taken` holds the locals declared before them. -/
def place (options : ExportOptions) (taken : List String) : List (Item × Nat) → List Placed
  | [] => []
  | (item, index) :: rest =>
    let natural := Identifier.ofItem item.name item.type index
    if item.isHelper then ⟨index, item, natural, natural⟩ :: place options taken rest
    else
      let identifier :=
        if options.uniqueNames && !isFree taken item natural then
          freeIdentifier taken item natural
        else natural
      ⟨index, item, natural, identifier⟩ ::
        place options (item.locals identifier ++ taken) rest

/-- The items that are not hidden, each with its number and its identifiers. -/
def Layout.placed (layout : Layout) (options : ExportOptions) : List Placed :=
  place options [rootName] (layout.items.filter (·.exported)).zipIdx

/-- The locals of a script: its root, and those of every block in order. -/
def scriptLocals (placed : List Placed) : List String :=
  rootName :: (placed.filter (·.isWritten)).flatMap (·.locals)

namespace Placed

/-- Why a local of the item is not the only one of its name, if so; `names` holds all locals. -/
def duplicate? (options : ExportOptions) (names : List String) (p : Placed) :
    Option Warning.Cause :=
  if options.uniqueNames then
    if p.identifier = p.natural then none else some (.renamed p.natural)
  else (p.locals.find? fun name => 1 < names.count name).map fun name =>
    .repeated name (names.count name)

/-- The text of the item does not end where it should. -/
def isUnterminated (options : ExportOptions) (p : Placed) : Bool :=
  !options.safeText && (given p.item.text).any LongString.closesEarly

def warnings (options : ExportOptions) (names : List String) (p : Placed) : List Warning :=
  let causes :=
    if p.isWritten then
      (p.duplicate? options names).toList ++
        (if p.isUnterminated options then [.unterminated] else [])
    else [.skipped]
  causes.map fun cause => ⟨p.index, p.identifier, cause⟩

end Placed

/-- A script with what there is to say about it. -/
structure Export where
  script : String
  warnings : List Warning := []
  itemCount : Nat := 0
  deriving DecidableEq

def Export.hasWarnings (e : Export) : Bool := !e.warnings.isEmpty

def Layout.statements (layout : Layout) (options : ExportOptions) : List Statement :=
  preamble ++
    ((layout.placed options).filter (·.isWritten)).flatMap (·.block options.safeText)

def Layout.toScript (layout : Layout) (options : ExportOptions) : Export :=
  let placed := layout.placed options
  { script := renderScript (layout.statements options)
    warnings := placed.flatMap (·.warnings options (scriptLocals placed))
    itemCount := placed.countP (·.isWritten) }

end LuauLayout
