import LuauLayout.Text.Blank

/-! The log: entries with a severity, of which those at or above a threshold are shown.  The
threshold is a number or the name of a level, in any case and between blanks. -/

namespace LuauLayout.Log

inductive Severity where
  | debug
  | info
  | warning
  | error
  deriving DecidableEq

def Severity.level : Severity → Int
  | debug => 10
  | info => 20
  | warning => 30
  | error => 40

def Severity.name : Severity → String
  | debug => "DEBUG"
  | info => "INFO"
  | warning => "WARNING"
  | error => "ERROR"

structure Entry where
  logger : String
  severity : Severity
  message : String
  deriving DecidableEq

/-- The line of an entry that was made at the given time. -/
def Entry.line (time : String) (e : Entry) : String :=
  time ++ " - " ++ e.logger ++ " - " ++ e.severity.name ++ " - " ++ e.message ++ "\n"

def Entry.isShown (threshold : Int) (e : Entry) : Bool := threshold ≤ e.severity.level

def levels : List (String × Int) :=
  [("CRITICAL", 50), ("FATAL", 50), ("ERROR", 40), ("WARN", 30), ("WARNING", 30), ("INFO", 20),
    ("DEBUG", 10), ("NOTSET", 0)]

def defaultLevel : Int := 20

/-- The capital of an ASCII letter; the dotless i and the long s have ASCII capitals as well, and no
other character has one that matters for a level. -/
def capital (c : Char) : Char :=
  if c = 'ı' then 'I' else if c = 'ſ' then 'S' else c.toUpper

def levelNamed? (name : String) : Option Int :=
  levels.lookup (String.ofList ((Text.strip name.toList).map capital))

/-- The level of a name, or the default when the name is missing or unknown. -/
def levelOf (name : Option String) (default : Int) : Int := (name.bind levelNamed?).getD default

/-- The name of a logger, that of the program when none is given. -/
def loggerName (name : Option String) : String :=
  (name.filter fun s => !s.isEmpty).getD "rbxlayout"

end LuauLayout.Log
