import LuauLayout.FilePath
import LuauLayout.FileSystem.Node
import LuauLayout.Text.Codec

/-! A file system: a tree of directories and files, a working directory in it, where relative paths
begin, and what the machine refuses besides.  A path is followed name by name through directories that
exist; the last name may be that of a node yet to be made. -/

namespace LuauLayout

namespace FileSystem

/-- Why an operation is refused: the number of the error, and its text. -/
structure Reason where
  number : Nat
  text : String
  deriving DecidableEq

namespace Reason

def noEntry : Reason := ⟨2, "No such file or directory"⟩

def alreadyThere : Reason := ⟨17, "File exists"⟩

def notDirectory : Reason := ⟨20, "Not a directory"⟩

def isDirectory : Reason := ⟨21, "Is a directory"⟩

def nameTooLong : Reason := ⟨36, "File name too long"⟩

def message (r : Reason) : String := "[Errno " ++ toString r.number ++ "] " ++ r.text

def isMissing (r : Reason) : Bool := r.number == 2

/-- The errors of a path that leads nowhere: a missing entry, a bad descriptor, a file that has to be a
directory, too many links. -/
def leadsNowhere (r : Reason) : Bool := [2, 9, 20, 40].contains r.number

end Reason

/-- What the machine refuses at a location, be it for lack of a permission, of room or of a working
device.  The tree alone refuses nothing of it. -/
structure Guard where
  /-- Why a name cannot be looked up in a directory. -/
  search : Location → String → Option Reason := fun _ _ => none
  /-- Why a node cannot be opened for reading. -/
  openRead : Location → Option Reason := fun _ => none
  /-- Why an open file cannot be read. -/
  read : Location → Option Reason := fun _ => none
  /-- Why a file cannot be opened for writing, or cannot be made. -/
  openWrite : Location → Option Reason := fun _ => none
  /-- How many bytes of a content an open file takes, where it does not take all, and why. -/
  write : Location → ByteArray → Option (Nat × Reason) := fun _ _ => none
  /-- Why a directory cannot be made. -/
  make : Location → Option Reason := fun _ => none

end FileSystem

structure FileSystem where
  top : List (String × Node) := []
  workingDirectory : Location := []
  guard : FileSystem.Guard := {}

namespace FileSystem

/-- What goes wrong with a file, or with a stream. -/
inductive Fault where
  /-- The operation on the path is refused. -/
  | refused (reason : Reason) (path : FilePath)
  /-- Reading or writing stops. -/
  | stopped (reason : Reason)
  /-- The bytes that were read stand for no text. -/
  | undecodable (f : Text.DecodingFault)
  /-- The text that is to be written has no bytes. -/
  | unencodable (f : Text.EncodingFault)
  /-- The path holds a null character. -/
  | nullCharacter
  /-- Too many directories of a path are missing. -/
  | tooManyMissing
  deriving DecidableEq

namespace Fault

def message : Fault → String
  | refused reason path => reason.message ++ ": " ++ Text.quoted path.toString
  | stopped reason => reason.message
  | undecodable f => f.message
  | unencodable f => f.message
  | nullCharacter => "embedded null byte"
  | tooManyMissing => "maximum recursion depth exceeded while calling a Python object"

/-- Whether the machine refuses the operation, which is a matter for the log. -/
def isRefusal : Fault → Bool
  | refused _ _ => true
  | stopped _ => true
  | _ => false

/-- Whether something is missing on the way. -/
def isMissing : Fault → Bool
  | refused reason _ => reason.isMissing
  | _ => false

end Fault

/-- The root, which is a directory. -/
def root (fs : FileSystem) : Node := .directory fs.top

def find? (fs : FileSystem) (l : Location) : Option Entry := (fs.root.find? l).map Node.toEntry

/-- The file system with a node at a location below the root, and the directories on the way. -/
def insert (fs : FileSystem) (l : Location) (n : Node) : FileSystem :=
  { fs with top := (fs.root.insert l n).children }

def nameLimit : Nat := 255

def pathLimit : Nat := 4095

/-- A way from the root: the names on it, each with the node there if there is one, the last name
first. -/
abbrev Trail := List (String × Option Node)

namespace Trail

def location (t : Trail) : Location := (t.map (·.1)).reverse

def node? (fs : FileSystem) : Trail → Option Node
  | [] => some fs.root
  | (_, n) :: _ => n

def extend (fs : FileSystem) (t : Trail) (name : String) : Trail :=
  (name, (node? fs t).bind (·.child? name)) :: t

/-- Goes on by a name, which two dots make the way back; the root is its own parent. -/
def enter (fs : FileSystem) (t : Trail) (name : String) : Except Reason Trail :=
  match node? fs t with
  | none => .error .noEntry
  | some (.file _) => .error .notDirectory
  | some (.directory _) =>
    match fs.guard.search t.location name with
    | some reason => .error reason
    | none =>
      if name = ".." then .ok t.tail
      else if nameLimit < name.utf8ByteSize then .error .nameTooLong
      else .ok (extend fs t name)

end Trail

def start (fs : FileSystem) (path : FilePath) : Trail :=
  if path.slashes = 0 then fs.workingDirectory.foldl (Trail.extend fs) [] else []

/-- The trail of a path; the node at its end may be missing. -/
def locate (fs : FileSystem) (path : FilePath) : Except Reason Trail :=
  if pathLimit < path.toString.utf8ByteSize then .error .nameTooLong
  else path.names.foldlM (Trail.enter fs) (fs.start path)

def stat (fs : FileSystem) (path : FilePath) : Except Reason Node := do
  match Trail.node? fs (← fs.locate path) with
  | some n => return n
  | none => .error .noEntry

/-- Whether the path leads to a directory.  A path that leads nowhere does not, but one that cannot be
followed for another reason, such as a path that is too long, cannot be tested. -/
def isDirectory (fs : FileSystem) (path : FilePath) : Except Fault Bool :=
  if path.hasNull then .ok false
  else match fs.stat path with
    | .ok (.directory _) => .ok true
    | .ok (.file _) => .ok false
    | .error reason => if reason.leadsNowhere then .ok false else .error (.refused reason path)

/-- Follows a path for an operation on what it leads to. -/
def reach (fs : FileSystem) (path : FilePath) : Except Fault Trail :=
  if path.hasNull then .error .nullCharacter
  else (fs.locate path).mapError (.refused · path)

/-- The content of the file that a path leads to, whether or not it may be read. -/
def read (fs : FileSystem) (path : FilePath) : Except Fault ByteArray := do
  match Trail.node? fs (← fs.reach path) with
  | some (.file content) => return content
  | some (.directory _) => .error (.refused .isDirectory path)
  | none => .error (.refused .noEntry path)

/-- Finds the node that a path leads to, for reading it. -/
def openRead (fs : FileSystem) (path : FilePath) : Except Fault (Location × Node) := do
  let t ← fs.reach path
  match Trail.node? fs t, fs.guard.openRead t.location with
  | none, _ => .error (.refused .noEntry path)
  | some _, some reason => .error (.refused reason path)
  | some n, none => return (t.location, n)

/-- Reads a file, if the machine lets it be opened and read. -/
def fetch (fs : FileSystem) (path : FilePath) : Except Fault ByteArray := do
  match ← fs.openRead path with
  | (_, .directory _) => .error (.refused .isDirectory path)
  | (l, .file content) =>
    match fs.guard.read l with
    | some reason => .error (.stopped reason)
    | none => return content

/-- Finds the location that a path leads to, for writing a file there. -/
def openWrite (fs : FileSystem) (path : FilePath) : Except Fault Location := do
  let t ← fs.reach path
  match Trail.node? fs t, fs.guard.openWrite t.location with
  | some (.directory _), _ => .error (.refused .isDirectory path)
  | _, some reason => .error (.refused reason path)
  | _, none => return t.location

/-- Writes a text to a file, which is made or emptied before.  The file stays empty if the text has no
bytes, and holds a beginning of them if the machine does not take them all. -/
def save (fs : FileSystem) (path : FilePath) (text : Except Text.EncodingFault ByteArray) :
    FileSystem × Except Fault Unit :=
  match fs.openWrite path with
  | .error fault => (fs, .error fault)
  | .ok l =>
    match text with
    | .error f => (fs.insert l (.file .empty), .error (.unencodable f))
    | .ok content =>
      match fs.guard.write l content with
      | some (taken, reason) =>
        (fs.insert l (.file (content.extract 0 taken)), .error (.stopped reason))
      | none => (fs.insert l (.file content), .ok ())

/-- Makes one directory in a directory that exists. -/
def makeDirectory (fs : FileSystem) (path : FilePath) : Except Fault FileSystem := do
  let t ← fs.reach path
  match Trail.node? fs t, fs.guard.make t.location with
  | some _, _ => .error (.refused .alreadyThere path)
  | none, some reason => .error (.refused reason path)
  | none, none => return fs.insert t.location (.directory [])

/-- Takes a refusal to make a directory well if there is one. -/
def acceptExisting (fs : FileSystem) (path : FilePath) (fault : Fault) : Except Fault Unit :=
  if fault.isRefusal && !fault.isMissing then do
    if ← fs.isDirectory path then return else .error fault
  else .error fault

/-- Makes a directory where its parents exist, unless it is there. -/
def ensureLast (fs : FileSystem) (path : FilePath) : FileSystem × Except Fault Unit :=
  match fs.makeDirectory path with
  | .ok fs' => (fs', .ok ())
  | .error fault => (fs, fs.acceptExisting path fault)

/-- Makes a directory and the parents that are missing, unless they are there, where at most `limit`
paths are tried on the way up to one that can be made.  The directories made before a fault remain.
-/
def ensureDirectory (fs : FileSystem) (limit : Nat) (path : FilePath) :
    FileSystem × Except Fault Unit :=
  match limit with
  | 0 => (fs, .error .tooManyMissing)
  | limit + 1 =>
    match fs.makeDirectory path with
    | .ok fs' => (fs', .ok ())
    | .error fault =>
      if fault.isMissing then
        if path.names = [] then (fs, .error fault)
        else
          match fs.ensureDirectory limit path.parent with
          | (fs', .ok ()) => fs'.ensureLast path
          | failed => failed
      else (fs, fs.acceptExisting path fault)

end FileSystem

end LuauLayout
