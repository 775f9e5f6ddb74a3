import LuauLayout.Export
import LuauLayout.FilePath
import LuauLayout.Text.Blank

/-! The settings that the environment may hold.  Each has a kind, which reads its text, and a
default, which stands where the variable is missing or its text means nothing. -/

namespace LuauLayout

/-- The variables of the environment; of several with one name the first counts. -/
abbrev Environment := List (String × String)

inductive Setting where
  | logLevel
  | uniqueNames
  | safeText
  | outputDirectory
  deriving DecidableEq

namespace Setting

inductive Kind where
  | text
  | switch
  | path
  deriving DecidableEq

inductive Content where
  | text (s : String)
  | switch (b : Bool)
  | path (p : FilePath)
  deriving DecidableEq

/-- The state that a word stands for, in any case and between blanks.  The words are made of ASCII
letters that no other character has as its small letter. -/
def switch? (s : String) : Option Bool :=
  let word := String.ofList (Text.strip (s.toList.map Char.toLower))
  if ["true", "1", "yes", "on"].contains word then some true
  else if ["false", "0", "no", "off"].contains word then some false
  else none

/-- The content of a text, if it means something. -/
def Kind.read? : Kind → String → Option Content
  | text, s => some (.text s)
  | switch, s => (switch? s).map .switch
  | path, s => if Text.isAllBlank s.toList then none else some (.path (.ofString s))

def all : List Setting := [logLevel, uniqueNames, safeText, outputDirectory]

def name : Setting → String
  | logLevel => "RBXLAYOUT_LOG_LEVEL"
  | uniqueNames => "RBXLAYOUT_UNIQUE_NAMES"
  | safeText => "RBXLAYOUT_SAFE_TEXT"
  | outputDirectory => "RBXLAYOUT_OUTPUT_DIR"

def kind : Setting → Kind
  | logLevel => .text
  | uniqueNames => .switch
  | safeText => .switch
  | outputDirectory => .path

def default? : Setting → Option Content
  | logLevel => some (.text "INFO")
  | uniqueNames => some (.switch false)
  | safeText => some (.switch false)
  | outputDirectory => none

def description : Setting → String
  | logLevel => "Log level for the CLI (DEBUG, INFO, WARNING, ERROR)"
  | uniqueNames => "Suffix colliding identifiers with _2, _3, ..."
  | safeText => "Pick a long-bracket level that cannot be closed by the text"
  | outputDirectory => "Directory for exported scripts when no -o is given"

def category : Setting → String
  | logLevel => "logging"
  | _ => "export"

def named? (name : String) : Option Setting := all.find? (·.name == name)

/-- The settings of a category, all of them without one. -/
def ofCategory (category : Option String) : List Setting :=
  match category with
  | some c => all.filter (·.category == c)
  | none => all

def rawText? (s : Setting) (env : Environment) : Option String := env.lookup s.name

/-- What the setting holds in an environment, if anything. -/
def value? (s : Setting) (env : Environment) : Option Content :=
  ((s.rawText? env).bind s.kind.read?).or s.default?

def textValue (s : Setting) (env : Environment) : Option String :=
  match s.value? env with
  | some (.text t) => some t
  | _ => none

/-- The state of a switch, off unless the environment says on. -/
def isOn (s : Setting) (env : Environment) : Bool := s.value? env == some (.switch true)

def outputPath? (env : Environment) : Option FilePath :=
  match outputDirectory.value? env with
  | some (.path p) => some p
  | _ => none

end Setting

/-- The switches of an export: what is asked for, or else what the environment says. -/
def ExportOptions.resolve (uniqueNames safeText : Option Bool) (env : Environment) :
    ExportOptions :=
  { uniqueNames := uniqueNames.getD (Setting.uniqueNames.isOn env)
    safeText := safeText.getD (Setting.safeText.isOn env) }

/-- The directory for scripts: the one asked for, or else the one of the environment. -/
def outputDirectory (asked : Option String) (env : Environment) : Option FilePath :=
  (asked.map FilePath.ofString).or (Setting.outputPath? env)

end LuauLayout
