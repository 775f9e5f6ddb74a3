/-! Paths: a root, absent for a relative path, and names.  Reading a path drops empty names and
single dots and keeps double dots; two slashes in front are a root of their own, three or more count
as one. The path without a root or a name is written as a dot. -/

namespace LuauLayout

structure FilePath where
  /-- The number of slashes in front, at most two. -/
  slashes : Nat := 0
  names : List String := []
  deriving DecidableEq

namespace FilePath

def splitSlash : List Char → List (List Char)
  | [] => [[]]
  | c :: rest =>
    if c = '/' then [] :: splitSlash rest
    else match splitSlash rest with
      | part :: parts => (c :: part) :: parts
      | [] => [[c]]

/-- The part of a path stands for a name. -/
def isName (part : List Char) : Bool := !part.isEmpty && part != ['.']

/-- The root that begins a text. -/
def rootSlashes (s : List Char) : Nat :=
  match (s.takeWhile (· == '/')).length with
  | 0 => 0
  | 2 => 2
  | _ => 1

def ofString (s : String) : FilePath :=
  { slashes := rootSlashes s.toList
    names := ((splitSlash s.toList).filter isName).map String.ofList }

def toString (p : FilePath) : String :=
  if p.slashes = 0 ∧ p.names = [] then "."
  else String.ofList (List.replicate p.slashes '/') ++ "/".intercalate p.names

def parent (p : FilePath) : FilePath := { p with names := p.names.dropLast }

def child (p : FilePath) (name : String) : FilePath := { p with names := p.names ++ [name] }

theorem parent_child (p : FilePath) (name : String) : (p.child name).parent = p := by
  simp [parent, child]

/-- A null character stands in the path, which no file system takes. -/
def hasNull (p : FilePath) : Bool := p.names.any fun name => name.toList.contains '\x00'

end FilePath

end LuauLayout
