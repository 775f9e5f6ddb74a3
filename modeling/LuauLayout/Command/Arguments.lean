import LuauLayout.FilePath
import LuauLayout.Text.DecimalDigit
import LuauLayout.Text.Quoted

/-! The arguments of an export command: one layout and some flags, in any order.  A flag may be
shortened to a beginning that only it has; its value is the next word, or stands behind an equals
sign in the same word, or right behind the letter of a short spelling.  Letters behind a short flag
without a value are flags as well.  Two dashes end the flags.  A word with a dash in front is an
argument nevertheless when it is a dash alone, a negative number, or no flag and with a space in it.
Releases of the reader differ in a few words, for which there are `Rules`. -/

namespace LuauLayout.Arguments

/-- What releases of the reader differ in.  The rules are the older ones unless others are given; both
are the other way around in the releases 3.11.10 and 3.12.3. -/
structure Rules where
  /-- Two dashes in the word of a flag are no value of it. -/
  dropsDashes : Bool := true
  /-- Letters behind a flag without a value have to be flags, and an equals sign may precede them.
  Otherwise an equals sign has to precede a value, and a letter that is no flag leaves a word over. -/
  wantsFlags : Bool := true

inductive Flag where
  | help
  | output
  | uniqueNames
  | safeText
  | strict
  deriving DecidableEq

/-- The spellings of the flags, in the order in which they are listed. -/
def spellings : List (String × Flag) :=
  [("-h", .help), ("--help", .help), ("--output", .output), ("-o", .output),
    ("--unique-names", .uniqueNames), ("--safe-text", .safeText), ("--strict", .strict)]

namespace Flag

def label (f : Flag) : String := "/".intercalate ((spellings.filter (·.2 == f)).map (·.1))

def takesValue (f : Flag) : Bool := f == output

end Flag

/-- Why words are no export command. -/
inductive Fault where
  | ambiguous (word : String) (candidates : List String)
  | missingValue (f : Flag)
  | ignoredValue (f : Flag) (value : String)
  | missingLayout
  | unrecognized (words : List String)
  deriving DecidableEq

def Fault.message : Fault → String
  | ambiguous word candidates =>
    "ambiguous option: " ++ word ++ " could match " ++ ", ".intercalate candidates
  | missingValue f => "argument " ++ f.label ++ ": expected one argument"
  | ignoredValue f value =>
    "argument " ++ f.label ++ ": ignored explicit argument " ++ Text.quoted value
  | missingLayout => "the following arguments are required: layout"
  | unrecognized words => "unrecognized arguments: " ++ " ".intercalate words

/-- What stands behind a flag in its word. -/
structure Attached where
  isEqual : Bool
  /-- The text, less the equals sign in front of it if there is one. -/
  text : List Char
  deriving DecidableEq

/-- What a word is by itself. -/
inductive Word where
  | argument (s : String)
  /-- A flag in its short or long form, with what stands behind it in the word. -/
  | flag (f : Flag) (isShort : Bool) (attached : Option Attached)
  | unknown (s : String)
  deriving DecidableEq

/-- The part before the first equals sign, and the part behind it. -/
def splitEquals (s : List Char) : List Char × Option (List Char) :=
  match s.dropWhile (· != '=') with
  | [] => (s, none)
  | _ :: value => (s.takeWhile (· != '='), some value)

/-- Digits, perhaps before one line feed that ends the text. -/
def areDigits (s : List Char) : Bool :=
  let body := if s.getLast? = some '\n' then s.dropLast else s
  !body.isEmpty && body.all Text.isDecimalDigit

/-- A dash and digits, perhaps with a point among or before them. -/
def isNegativeNumber : List Char → Bool
  | '-' :: rest =>
    areDigits rest ||
      match rest.dropWhile Text.isDecimalDigit with
      | '.' :: fraction => areDigits fraction
      | _ => false
  | _ => false

/-- The flags that a word that begins with two dashes may be short for, with its value. -/
def longCandidates (word : List Char) : List (String × Word) :=
  let (beginning, value) := splitEquals word
  (spellings.filter fun s => beginning.isPrefixOf s.1.toList).map fun s =>
    (s.1, .flag s.2 false (value.map (⟨true, ·⟩)))

/-- The flags that a word of one dash may mean: a letter with the rest of the word as its value, or
a longer spelling that begins so. -/
def shortCandidates (word : List Char) : List (String × Word) :=
  spellings.filterMap fun s =>
    if s.1.toList = word.take 2 then some (s.1, .flag s.2 true (some ⟨false, word.drop 2⟩))
    else if word.isPrefixOf s.1.toList then some (s.1, .flag s.2 false none)
    else none

/-- Whether a spelling is a single letter behind a dash. -/
def isShortSpelling (s : String) : Bool := s.length == 2

def classify (s : String) : Except Fault Word :=
  let word := s.toList
  match word with
  | '-' :: second :: _ =>
    match spellings.lookup s with
    | some f => .ok (.flag f (isShortSpelling s) none)
    | none =>
      let (beginning, value) := splitEquals word
      match value, spellings.lookup (String.ofList beginning) with
      | some v, some f => .ok (.flag f (isShortSpelling (String.ofList beginning)) (some ⟨true, v⟩))
      | _, _ =>
        match if second = '-' then longCandidates word else shortCandidates word with
        | [(_, w)] => .ok w
        | [] =>
          if isNegativeNumber word || word.contains ' ' then .ok (.argument s)
          else .ok (.unknown s)
        | several => .error (.ambiguous s (several.map (·.1)))
  | _ => .ok (.argument s)

inductive Target where
  | path (s : String)
  /-- Two dashes in the word of the flag were dropped. -/
  | nothing
  deriving DecidableEq

def Target.ofString (rules : Rules) (s : String) : Target :=
  if rules.dropsDashes && s == "--" then nothing else path s

structure Request where
  layout : String
  output : Option Target := none
  uniqueNames : Bool := false
  safeText : Bool := false
  strict : Bool := false
  deriving DecidableEq

structure State where
  layout : Option String := none
  output : Option Target := none
  uniqueNames : Bool := false
  safeText : Bool := false
  strict : Bool := false
  /-- The words that have no use, in order. -/
  extra : List String := []

/-- Why the words after some point do not matter. -/
inductive Stop where
  | help
  | fault (f : Fault)
  deriving DecidableEq

namespace State

/-- Applies a flag without a value. -/
def set (st : State) : Flag → Except Stop State
  | .help => .error .help
  | .output => .ok st
  | .uniqueNames => .ok { st with uniqueNames := true }
  | .safeText => .ok { st with safeText := true }
  | .strict => .ok { st with strict := true }

/-- Takes the value of the one flag that has one; the last value counts. -/
def setOutput (rules : Rules) (st : State) (s : String) : State :=
  { st with output := some (.ofString rules s) }

def addExtra (st : State) (words : List String) : State := { st with extra := st.extra ++ words }

/-- Takes an argument as the layout, or as one too many. -/
def addArgument (st : State) (s : String) : State :=
  match st.layout with
  | none => { st with layout := some s }
  | some _ => st.addExtra [s]

end State

/-- How a word of one or more flags ends. -/
inductive Tail where
  | complete
  | value (s : List Char)
  /-- The value is the next word. -/
  | awaited (f : Flag)
  /-- A word of its own is left over. -/
  | extra (s : List Char)

def letterFlag? (c : Char) : Option Flag := spellings.lookup (String.ofList ['-', c])

/-- The flags without a value that a word holds from the short flag `f` on, and how the word ends.
The letters behind a flag without a value are flags as well, and those behind one with a value are
its value. -/
def cluster (rules : Rules) (f : Flag) : List Char → Except Fault (List Flag × Tail)
  | [] => .ok (if f.takesValue then ([], .awaited f) else ([f], .complete))
  | c :: rest =>
    let isEqual := !rules.wantsFlags && c == '='
    if f.takesValue then .ok ([], .value (if isEqual then rest else c :: rest))
    else if isEqual then .error (.ignoredValue f (String.ofList rest))
    else
      match letterFlag? c with
      | none =>
        if rules.wantsFlags || c == '-' then .error (.ignoredValue f (String.ofList (c :: rest)))
        else .ok ([f], .extra ('-' :: c :: rest))
      | some next => do
        let (flags, tail) ← cluster rules next rest
        return (f :: flags, tail)

/-- The flags of a word and how it ends.  Only a short flag without a value may be followed by
others. -/
def flagsOf (rules : Rules) (f : Flag) (isShort : Bool) :
    Option Attached → Except Fault (List Flag × Tail)
  | none => cluster rules f []
  | some ⟨isEqual, text⟩ =>
    if f.takesValue then .ok ([], .value text)
    else if isShort && !text.isEmpty && (rules.wantsFlags || !isEqual) then cluster rules f text
    else .error (.ignoredValue f (String.ofList text))

/-- Applies the words before two dashes.  The truth value tells whether the last word was taken as
the layout. -/
def walk (rules : Rules) (st : State) (isLast : Bool) : List Word → Except Stop (State × Bool)
  | [] => .ok (st, isLast)
  | .argument s :: rest => walk rules (st.addArgument s) st.layout.isNone rest
  | .unknown s :: rest => walk rules (st.addExtra [s]) false rest
  | .flag f isShort attached :: rest =>
    match flagsOf rules f isShort attached with
    | .error fault => .error (.fault fault)
    | .ok (flags, .complete) => do walk rules (← flags.foldlM State.set st) false rest
    | .ok (flags, .value s) => do
      walk rules ((← flags.foldlM State.set st).setOutput rules (String.ofList s)) false rest
    | .ok (flags, .extra s) => do
      walk rules ((← flags.foldlM State.set st).addExtra [String.ofList s]) false rest
    | .ok (flags, .awaited g) =>
      match rest with
      | .argument s :: rest' => do
        walk rules ((← flags.foldlM State.set st).setOutput rules s) false rest'
      | _ => .error (.fault (.missingValue g))

/-- Applies two dashes and the words behind them, which are arguments.  The dashes count as a word
too many unless the layout stands beside them. -/
def finish (st : State) (isLast : Bool) (behind : Option (List String)) : State :=
  match behind with
  | none => st
  | some words =>
    match st.layout, words with
    | none, s :: rest => { st with layout := some s }.addExtra rest
    | _, _ => st.addExtra (if isLast then words else "--" :: words)

/-- The request, if it has a layout and no word is left over. -/
def State.toRequest (st : State) : Except Stop Request :=
  match st.layout, st.extra with
  | none, _ => .error (.fault .missingLayout)
  | some layout, [] =>
    .ok { layout, output := st.output, uniqueNames := st.uniqueNames, safeText := st.safeText,
          strict := st.strict }
  | some _, words => .error (.fault (.unrecognized words))

/-- The words before the first two dashes, and those behind them if there are any. -/
def splitDashes (words : List String) : List String × Option (List String) :=
  match words.dropWhile (· != "--") with
  | [] => (words, none)
  | _ :: behind => (words.takeWhile (· != "--"), some behind)

def parse (rules : Rules) (words : List String) : Except Stop Request := do
  let (before, behind) := splitDashes words
  let classified ← (before.mapM classify).mapError .fault
  let (st, isLast) ← walk rules {} false classified
  (finish st isLast behind).toRequest

end LuauLayout.Arguments
