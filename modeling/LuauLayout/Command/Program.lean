import LuauLayout.Command.Export

/-! The program and its commands: export, the settings, and the tests of its own development. -/

namespace LuauLayout

open Log (Severity)

namespace SettingsCommand

def shown : Option Setting.Content → String
  | some (.text s) => Text.quoted s
  | some (.switch b) => if b then "True" else "False"
  | some (.path p) => "PosixPath(" ++ Text.quoted p.toString ++ ")"
  | none => "None"

def entry (env : Environment) (s : Setting) : List String :=
  ["  " ++ s.name ++ " = " ++ shown (s.value? env) ++ "  [" ++ s.category ++ "]",
    "      " ++ s.description]

/-- Lists the settings of a category, or all of them. -/
def runWords (host : Host) (words : List String) : Outcome :=
  match Setting.ofCategory words.head? with
  | [] =>
    { notices := [.entry ⟨"cli", .error, "Unknown category: " ++ words.head?.getD "None"⟩]
      files := host.files
      ending := .status 1 }
  | settings =>
    { output := Help.page ("rbxlayout configuration" :: String.ofList (List.replicate 40 '=') ::
        settings.flatMap (entry host.environment))
      files := host.files
      ending := .status 0 }

end SettingsCommand

namespace DevelopmentCommand

/-- The arguments that a tier of the tests stands for. -/
def tierArguments? : String → Option (List String)
  | "--unit" => some ["-m", "unit"]
  | "--integration" => some ["-m", "integration"]
  | "--all" => some []
  | _ => none

/-- The command line of the tests: the arguments of the tiers first, then all other words. -/
def testCommand (words : List String) : List String :=
  ["python3", "-m", "pytest"] ++ words.flatMap (fun w => (tierArguments? w).getD []) ++
    words.filter fun w => (tierArguments? w).isNone

/-- The status of a run from the end of the process that it started. -/
def childStatus : Child → Int
  | .exited status => status
  | .interrupted => 130

def runTests (host : Host) (words : List String) : Outcome :=
  let command := testCommand words
  { notices := [.entry ⟨"cli", .info, "Running: " ++ " ".intercalate command⟩]
    files := host.files
    ending := .status (childStatus host.child)
    started := some command }

def runWords (host : Host) (words : List String) : Outcome :=
  match words with
  | "test" :: rest => runTests host rest
  | [] => { output := Help.development, files := host.files, ending := .status 1 }
  | word :: _ =>
    { output := Help.development
      notices := [.entry ⟨"cli", .error, "Unknown dev command: " ++ word⟩]
      files := host.files
      ending := .status 1 }

end DevelopmentCommand

namespace Program

/-- Runs a command under the settings of an environment. -/
def run (host : Host) (words : List String) : Outcome :=
  match words with
  | [] => { output := Help.program, files := host.files, ending := .status 1 }
  | "-h" :: _ => { output := Help.program, files := host.files, ending := .status 0 }
  | "--help" :: _ => { output := Help.program, files := host.files, ending := .status 0 }
  | "export" :: rest => ExportCommand.runWords host rest
  | "env" :: rest => SettingsCommand.runWords host rest
  | "dev" :: rest => DevelopmentCommand.runWords host rest
  | word :: _ =>
    { output := Help.program
      notices := [.plain ("Unknown command: " ++ word ++ "\n")]
      files := host.files
      ending := .status 1 }

/-- The environment of a run: what is set already, and what the settings file adds to it.  `entries` is
what the reader of that file finds in the file system, where the environment may be quoted. -/
def environment (entries : FileSystem → Environment → Environment) (host : Host) : Environment :=
  host.environment ++ entries host.files host.environment

/-- Reads the settings file and runs a command. -/
def start (entries : FileSystem → Environment → Environment) (host : Host) (words : List String) :
    Outcome :=
  run { host with environment := environment entries host } words

end Program

end LuauLayout
