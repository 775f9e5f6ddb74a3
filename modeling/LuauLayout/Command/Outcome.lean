import LuauLayout.Command.Arguments
import LuauLayout.Export.OfValue
import LuauLayout.FileSystem
import LuauLayout.Json.Fault
import LuauLayout.Log
import LuauLayout.Settings
import LuauLayout.Text.Utf8

/-! What a run of the program starts from and what comes of it. -/

namespace LuauLayout

/-- How a process that the program starts will end. -/
inductive Child where
  | exited (status : Int)
  | interrupted

/-- The code points of bytes in UTF-8. -/
def readUtf8 (bytes : ByteArray) : Except FileSystem.Fault (List Text.CodePoint) :=
  (Utf8.readText bytes).mapError .undecodable

/-- Refuses all of a text that has no UTF-8. -/
def refuseUtf8? (text : List Text.CodePoint) : Option (Nat × FileSystem.Fault) :=
  (Utf8.encodingFault? text).map fun f => (0, .unencodable f)

/-- The standard streams, which are strict and in UTF-8 unless the machine has them otherwise. -/
structure Streams where
  /-- The code points of the bytes on the standard input. -/
  read : ByteArray → Except FileSystem.Fault (List Text.CodePoint) := readUtf8
  /-- How many characters of a text the standard output takes, where it does not take all, and why. -/
  refuse? : List Text.CodePoint → Option (Nat × FileSystem.Fault) := refuseUtf8?

/-- How deeply a run may recurse, which depends on how deep the program is already when it starts. -/
structure Limits where
  /-- The depth to which lists and mappings may be nested in a layout on the standard input. -/
  inputDepth : Nat := 985
  /-- The depth to which they may be nested in a file. -/
  fileDepth : Nat := 986
  /-- The most paths that are tried to find one whose directory can be made. -/
  missing : Nat := 986

/-- The depth to which a source may nest lists and mappings. -/
def Limits.nesting (limits : Limits) (source : String) : Nat :=
  if source = "-" then limits.inputDepth else limits.fileDepth

structure Host where
  environment : Environment := []
  input : ByteArray := .empty
  files : FileSystem := {}
  child : Child := .exited 0
  streams : Streams := {}
  limits : Limits := {}
  rules : Arguments.Rules := {}

/-- A fault that ends a run without a status. -/
inductive Escape where
  | overlong (e : Number.Overlong)
  /-- A layout is nested too deeply. -/
  | tooDeep (c : Json.Container)
  | invalidLayout (faults : List FieldFault)
  /-- The output flag is there and has no path. -/
  | noPath
  /-- A fault of a file or of a stream. -/
  | file (f : FileSystem.Fault)

def Escape.message : Escape → String
  | overlong e => e.message
  | tooDeep c => c.tooDeepMessage
  | invalidLayout faults => FieldFault.report faults
  | noPath => "'list' object has no attribute 'is_dir'"
  | file f => f.message

def Escape.ofExport : Export.Fault → Escape
  | .invalid faults => invalidLayout faults
  | .overlong e => overlong e

inductive Ending where
  | status (n : Int)
  | escaped (e : Escape)

/-- Something on the error output: an entry of the log, or text that is shown in any case. -/
inductive Notice where
  | entry (e : Log.Entry)
  | plain (s : String)

structure Outcome where
  output : String := ""
  notices : List Notice := []
  files : FileSystem
  ending : Ending
  /-- The command line of the process that was started. -/
  started : Option (List String) := none

/-- The level from which on entries of the log are shown. -/
def logThreshold (env : Environment) : Int :=
  Log.levelOf (Setting.logLevel.textValue env) Log.defaultLevel

def Notice.shown (threshold : Int) (time : String) : Notice → String
  | entry e => if e.isShown threshold then e.line time else ""
  | plain s => s

def Outcome.errorOutput (o : Outcome) (env : Environment) (time : String) : String :=
  String.join (o.notices.map (Notice.shown (logThreshold env) time))

end LuauLayout
