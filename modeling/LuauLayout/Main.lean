import LuauLayout.Command.Program
import LuauLayout.FileSystem.Changes
import Std.Time

/-! The command line.  The parts of the machine that a run may consult are read beforehand, the run
itself is computed, and what it changed is carried out. -/

namespace LuauLayout

namespace Shell

def request? (words : List String) : Option Arguments.Request :=
  match words with
  | "export" :: rest => (Arguments.parse {} rest).toOption
  | _ => none

/-- The path that an export asks for. -/
def askedPath? (r : Arguments.Request) : Option FilePath :=
  match r.output with
  | some (.path s) => some (.ofString s)
  | _ => none

/-- The paths that an export looks at. -/
def paths (r : Arguments.Request) (env : Environment) : List FilePath :=
  let target := (askedPath? r).or (Setting.outputPath? env)
  .ofString r.layout :: target.toList.flatMap fun p => [p, p.child ExportCommand.defaultFileName]

/-- The path with its first names only, for every number of names. -/
def beginnings (p : FilePath) : List FilePath :=
  (List.range p.names.length).map fun i => { p with names := p.names.take (i + 1) }

/-- What the machine has where a path leads to; a directory without what it holds. -/
def probe (path : String) : IO (Option Node) := do
  if ← ((← IO.currentDir) / path).isDir then return some (.directory [])
  try return some (.file (← IO.FS.readBinFile path))
  catch _ => return none

/-- Adds what a path leads to, and what stands on the way to it. -/
def load (fs : FileSystem) (p : FilePath) : IO FileSystem :=
  (beginnings p).foldlM (fun fs q => do
    match fs.locate q with
    | .error _ => return fs
    | .ok t =>
      if (FileSystem.Trail.node? fs t).isSome then return fs
      match ← probe q.toString with
      | some n => return fs.insert t.location n
      | none => return fs) fs

/-- A file system with the working directory and nothing else. -/
def workingFiles : IO FileSystem := do
  let here := (FilePath.ofString (← IO.currentDir).toString).names
  return { workingDirectory := here : FileSystem }.insert here (.directory [])

/-- The variables that hold settings. -/
def environment : IO Environment :=
  Setting.all.filterMapM fun s => do return (← IO.getEnv s.name).map (s.name, ·)

partial def drain (stream : IO.FS.Stream) (bytes : ByteArray) : IO ByteArray := do
  let more ← stream.read 65536
  if more.isEmpty then return bytes else drain stream (bytes ++ more)

/-- Makes an entry on the machine. -/
def carryOut (l : Location) (e : Entry) : IO Unit :=
  let path := "/" ++ "/".intercalate l
  match e with
  | .directory => IO.FS.createDir path
  | .file content => IO.FS.writeBinFile path content

def now : IO String := do
  return (← Std.Time.PlainDateTime.now).format "uuuu-MM-dd HH:mm:ss,SSS"

end Shell

open Shell in
/-- Runs the program.  It reads no settings file, and it starts no process of its own, so that a command
that needs one ends with the status 126 of a command that cannot be run. -/
def run (words : List String) : IO UInt32 := do
  let env ← environment
  let mut files ← workingFiles
  let mut input := ByteArray.empty
  if let some r := request? words then
    for p in paths r env do
      files ← load files p
    if r.layout = "-" then
      input ← drain (← IO.getStdin) input
  let host : Host := { environment := env, input, files, child := .exited 126 }
  let outcome := Program.start (fun _ _ => []) host words
  for (l, e) in FileSystem.changes files outcome.files do
    carryOut l e
  (← IO.getStdout).putStr outcome.output
  (← IO.getStderr).putStr (outcome.errorOutput env (← now))
  match outcome.ending with
  | .status n => return UInt32.ofNat (n % 256).toNat
  | .escaped e =>
    (← IO.getStderr).putStrLn e.message
    return 1

end LuauLayout

def main (words : List String) : IO UInt32 := LuauLayout.run words
