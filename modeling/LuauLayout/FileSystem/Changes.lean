import LuauLayout.FileSystem

/-! What differs between two states of a file system, anywhere or below the working directory. -/

namespace LuauLayout.FileSystem

/-- All that the root holds, a directory before what it holds itself. -/
def listing (fs : FileSystem) : List (Location × Entry) := Node.childListing [] fs.top

def changes (before after : FileSystem) : List (Location × Entry) :=
  after.listing.filter fun e => before.find? e.1 != some e.2

/-- The names of a location from the working directory on, if it lies below it. -/
def relative? (fs : FileSystem) (l : Location) : Option Location :=
  if fs.workingDirectory.isPrefixOf l && l != fs.workingDirectory then
    some (l.drop fs.workingDirectory.length)
  else none

/-- The files below the working directory that are new or have another content. -/
def writtenFiles (before after : FileSystem) : List (Location × ByteArray) :=
  (changes before after).filterMap fun
    | (l, .file content) => (after.relative? l).map (·, content)
    | (_, .directory) => none

/-- The directories below the working directory that are new. -/
def newDirectories (before after : FileSystem) : List Location :=
  (changes before after).filterMap fun
    | (l, .directory) => after.relative? l
    | (_, .file _) => none

end LuauLayout.FileSystem
