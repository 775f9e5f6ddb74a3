import LuauLayout.Command.Arguments
import LuauLayout.Command.Help
import LuauLayout.Command.Outcome
import LuauLayout.Json

/-! The export command: a layout is read from a file or from the standard input, exported, and
written to the standard output or to a file, whose directory is made when it is missing.  A source
that cannot be read, a text that is no JSON and a destination that cannot be written are reported in
the log.  Other faults end the run without a status: a source that is no text, a layout that is nested
too deeply or holds an integer of too many digits, an output flag without a path, a destination that
cannot be tested for being a directory, and a script that has no bytes or that the standard output
does not take. -/

namespace LuauLayout.ExportCommand

open Log (Severity)

def defaultFileName : String := "Generated_UI.lua"

def log (severity : Severity) (message : String) : Notice :=
  .entry ⟨"export", severity, message⟩

/-- Why no value can be read from a source. -/
inductive SourceFault where
  | reported (message : String)
  | escaped (e : Escape)

/-- The text of the source: the standard input for a dash, or a file. -/
def sourceText (host : Host) (source : String) :
    Except FileSystem.Fault (List Text.CodePoint) :=
  if source = "-" then host.streams.read host.input
  else host.files.fetch (.ofString source) >>= readUtf8

/-- Reads a source, where each surrogate is shown as its stand-in. -/
def readSource (host : Host) (source : String) (σ : Text.StandIn := .replacement) :
    Except SourceFault Value :=
  match sourceText host source with
  | .error fault =>
    if fault.isRefusal then .error (.reported ("Cannot read layout: " ++ fault.message))
    else .error (.escaped (.file fault))
  | .ok text =>
    match Json.read σ (host.limits.nesting source) text with
    | .ok value => .ok value
    | .error (.overlong e) => .error (.escaped (.overlong e))
    | .error (.tooDeep c) => .error (.escaped (.tooDeep c))
    | .error fault => .error (.reported ("Invalid layout JSON: " ++ fault.message))

/-- The file that the script goes to, if it goes to one: a path that was asked for, unless it is a
directory, and else the default file of the directory. -/
def destination (host : Host) (output : Option Arguments.Target) :
    Except Escape (Option FilePath) :=
  match output, Setting.outputPath? host.environment with
  | some .nothing, _ => .error .noPath
  | some (.path s), _ => do
    let path := FilePath.ofString s
    let isThere ← (host.files.isDirectory path).mapError .file
    return some (if isThere then path.child defaultFileName else path)
  | none, some path => do
    let _ ← (host.files.isDirectory path).mapError .file
    return some (path.child defaultFileName)
  | none, none => .ok none

/-- Writes the script, with the directories that its file needs. -/
def deliver (limit : Nat) (fs : FileSystem) (path : FilePath)
    (script : Except Text.EncodingFault ByteArray) : FileSystem × Except FileSystem.Fault Unit :=
  match fs.ensureDirectory limit path.parent with
  | (fs', .ok ()) => fs'.save path script
  | failed => failed

def exportNotices (e : Export) : List Notice :=
  .entry ⟨"rbxlayout.exporter.lib", .debug,
    "Exported " ++ toString e.itemCount ++ " item(s) with " ++ toString e.warnings.length ++
      " warning(s)"⟩ ::
  e.warnings.map fun w =>
    log .warning ("[" ++ w.kind.text ++ "] item " ++ toString w.itemIndex ++ ": " ++ w.message)

/-- The end of a run that delivered its script: a strict one fails when there are warnings. -/
def conclude (strict : Bool) (e : Export) : List Notice × Ending :=
  if strict && e.hasWarnings then
    ([log .error (toString e.warnings.length ++ " warning(s) in strict mode")], .status 1)
  else ([], .status 0)

/-- The switches of a run: those asked for are on, and the environment tells the others. -/
def options (host : Host) (request : Arguments.Request) : ExportOptions :=
  let asked (b : Bool) : Option Bool := if b then some true else none
  ExportOptions.resolve (asked request.uniqueNames) (asked request.safeText) host.environment

/-- The code points of the script of an export.  The source is exported once more with numbers for its
surrogates, which tells those that are in the script. -/
def scriptText (host : Host) (request : Arguments.Request) (result : Export) :
    List Text.CodePoint :=
  let numbered := do
    let value ← (readSource host request.layout .numbered).toOption
    (Export.ofValue value (options host request)).toOption
  Text.codePoints result.script.toList ((numbered.map Export.script).getD result.script).toList

/-- The bytes of the script, if it has any. -/
def scriptBytes (host : Host) (request : Arguments.Request) (result : Export) :
    Except Text.EncodingFault ByteArray :=
  match Utf8.encodingFault? (scriptText host request result) with
  | some f => .error f
  | none => .ok result.script.toUTF8

/-- What comes of writing the script to a file. -/
def delivery (host : Host) (request : Arguments.Request) (result : Export) (path : FilePath) :
    FileSystem × Except FileSystem.Fault Unit :=
  deliver host.limits.missing host.files path (scriptBytes host request result)

/-- Brings the script to where it goes. -/
def publish (host : Host) (request : Arguments.Request) (result : Export) : Outcome :=
  let notices := exportNotices result
  let (verdict, ending) := conclude request.strict result
  match destination host request.output with
  | .error e => { notices, files := host.files, ending := .escaped e }
  | .ok none =>
    match host.streams.refuse? (scriptText host request result) with
    | none =>
      { output := result.script ++ "\n", notices := notices ++ verdict, files := host.files, ending }
    | some (taken, fault) =>
      { output := String.ofList (result.script.toList.take taken), notices, files := host.files,
        ending := .escaped (.file fault) }
  | .ok (some path) =>
    match delivery host request result path with
    | (files, .ok ()) =>
      let saved := "Script with " ++ toString result.itemCount ++ " item(s) saved to " ++
        path.toString
      { notices := notices ++ log .info saved :: verdict, files, ending }
    | (files, .error fault) =>
      if fault.isRefusal then
        { notices := notices ++ [log .error ("Cannot write script: " ++ fault.message)], files,
          ending := .status 1 }
      else { notices, files, ending := .escaped (.file fault) }

def run (host : Host) (request : Arguments.Request) : Outcome :=
  match readSource host request.layout with
  | .error (.reported message) =>
    { notices := [log .error message], files := host.files, ending := .status 1 }
  | .error (.escaped e) => { files := host.files, ending := .escaped e }
  | .ok value =>
    match Export.ofValue value (options host request) with
    | .error fault => { files := host.files, ending := .escaped (.ofExport fault) }
    | .ok result => publish host request result

def runWords (host : Host) (words : List String) : Outcome :=
  if words.isEmpty then { output := Help.exportHelp, files := host.files, ending := .status 1 }
  else
    match Arguments.parse host.rules words with
    | .ok request => run host request
    | .error .help => { output := Help.exportHelp, files := host.files, ending := .status 0 }
    | .error (.fault fault) =>
      let report := "python . export: error: " ++ fault.message ++ "\n"
      { notices := [.plain (Help.exportUsage ++ report)]
        files := host.files
        ending := .status 2 }

end LuauLayout.ExportCommand
