import LuauLayout.Json.Fault
import LuauLayout.Text.Codec
import LuauLayout.Value

/-! The leaves of a JSON text: blanks, names of values, numbers and strings.  Each scanner returns
what it read with the rest of the text, which is never longer than the text was. -/

namespace LuauLayout.Json

/-- What was read from the front of a text, and the rest of the text. -/
abbrev Step (α : Type) (text : List Char) := { p : α × List Char // p.2.length < text.length }

def isSpace (c : Char) : Bool := c == ' ' || c == '\t' || c == '\n' || c == '\r'

def skipSpace (s : List Char) : List Char := s.dropWhile isSpace

theorem length_dropWhile_le (p : α → Bool) (s : List α) : (s.dropWhile p).length ≤ s.length :=
  (List.dropWhile_sublist p).length_le

theorem length_skipSpace_le (s : List Char) : (skipSpace s).length ≤ s.length :=
  length_dropWhile_le _ _

def dropWord? : List Char → List Char → Option (List Char)
  | [], s => some s
  | w :: word, c :: s => if c = w then dropWord? word s else none
  | _ :: _, [] => none

theorem length_of_dropWord? {word s rest : List Char} (h : dropWord? word s = some rest) :
    rest.length + word.length = s.length := by
  induction word generalizing s with
  | nil => cases h; rfl
  | cons w word ih =>
    cases s with
    | nil => cases h
    | cons c s =>
      rw [dropWord?] at h
      split at h
      · have := ih h; simp only [List.length_cons]; omega
      · cases h

def words : List (List Char × Value) :=
  [("null".toList, .null), ("true".toList, .bool true), ("false".toList, .bool false),
    ("NaN".toList, .float .nan), ("Infinity".toList, .float (.infinity false)),
    ("-Infinity".toList, .float (.infinity true))]

def scanWord? (s : List Char) : Option (Value × List Char) :=
  words.findSome? fun w => (dropWord? w.1 s).map (w.2, ·)

def isDigit (c : Char) : Bool := '0' ≤ c && c ≤ '9'

def digit (c : Char) : Nat := c.toNat - '0'.toNat

def scanDigits (s : List Char) : List Nat × List Char :=
  ((s.takeWhile isDigit).map digit, s.dropWhile isDigit)

/-- A point with digits behind it; without them there is no fraction. -/
def scanFraction (s : List Char) : List Nat × List Char :=
  match s with
  | '.' :: rest => if (scanDigits rest).1.isEmpty then ([], s) else scanDigits rest
  | _ => ([], s)

/-- An exponent; without digits there is none. -/
def scanExponent (s : List Char) : Option Int × List Char :=
  match s with
  | c :: rest =>
    if c = 'e' ∨ c = 'E' then
      let (negative, unsigned) := Numeral.readSign rest
      let (digits, tail) := scanDigits unsigned
      if digits.isEmpty then (none, s)
      else
        let n : Int := Numeral.ofDigits digits
        (some (if negative then -n else n), tail)
    else (none, s)
  | [] => (none, s)

/-- The digits before the point: a single zero, or digits that do not start with one. -/
def scanWhole? (s : List Char) : Option (List Nat × List Char) :=
  match s with
  | '0' :: rest => some ([0], rest)
  | c :: _ => if isDigit c then some (scanDigits s) else none
  | [] => none

/-- A number with its sign: a whole one, or a double when it has a fraction or an exponent. -/
def scanNumber? (s : List Char) : Option (Except Number.Overlong Value × List Char) :=
  let (negative, unsigned) := match s with
    | '-' :: rest => (true, rest)
    | _ => (false, s)
  (scanWhole? unsigned).map fun (whole, tail) =>
    let (fraction, tail') := scanFraction tail
    let (exponent, tail'') := scanExponent tail'
    if fraction.isEmpty && exponent.isNone then
      (Value.int <$> Number.ofIntegerDigits negative whole, tail'')
    else
      (.ok (.float (Numeral.decimal negative whole fraction (exponent.getD 0)).toDecimal.nearest),
        tail'')

theorem length_of_scanWord? {s rest : List Char} {v : Value} (h : scanWord? s = some (v, rest)) :
    rest.length < s.length := by
  obtain ⟨w, hw, hm⟩ := List.exists_of_findSome?_eq_some h
  obtain ⟨r, hr, heq⟩ := Option.map_eq_some_iff.1 hm
  have hlen := length_of_dropWord? hr
  have hpos : ∀ w ∈ words, 0 < w.1.length := by decide
  have := hpos w hw
  simp only [Prod.mk.injEq] at heq
  obtain ⟨-, rfl⟩ := heq
  omega

theorem length_scanDigits_le (s : List Char) : (scanDigits s).2.length ≤ s.length :=
  length_dropWhile_le _ _

theorem length_scanFraction_le (s : List Char) : (scanFraction s).2.length ≤ s.length := by
  unfold scanFraction
  split
  · split
    · exact Nat.le_refl _
    · exact Nat.le_succ_of_le (length_scanDigits_le _)
  · exact Nat.le_refl _

theorem length_readSign_le (s : List Char) : (Numeral.readSign s).2.length ≤ s.length := by
  unfold Numeral.readSign
  split
  · exact Nat.le_succ _
  · exact Nat.le_succ _
  · exact Nat.le_refl _

theorem length_scanExponent_le (s : List Char) : (scanExponent s).2.length ≤ s.length := by
  unfold scanExponent
  split
  · split
    · simp only
      split
      · exact Nat.le_refl _
      · exact Nat.le_succ_of_le (Nat.le_trans (length_scanDigits_le _) (length_readSign_le _))
    · exact Nat.le_refl _
  · exact Nat.le_refl _

theorem length_of_scanWhole? {s rest : List Char} {digits : List Nat}
    (h : scanWhole? s = some (digits, rest)) : rest.length < s.length := by
  unfold scanWhole? at h
  split at h
  · cases h; exact Nat.lt_succ_self _
  · split at h
    · rename_i c tail _ hc
      cases h
      have : (c :: tail).dropWhile isDigit = tail.dropWhile isDigit := by
        rw [List.dropWhile_cons, if_pos hc]
      rw [this]
      exact Nat.lt_succ_of_le (length_dropWhile_le _ _)
    · cases h
  · cases h

theorem length_of_scanNumber? {s rest : List Char} {v : Except Number.Overlong Value}
    (h : scanNumber? s = some (v, rest)) : rest.length < s.length := by
  obtain ⟨⟨whole, tail⟩, hw, heq⟩ := Option.map_eq_some_iff.1 h
  have hlt : tail.length < s.length := by
    have := length_of_scanWhole? hw
    revert this
    split
    · simp only [List.length_cons]; omega
    · exact id
  have hrest : rest = (scanExponent (scanFraction tail).2).2 := by
    simp only at heq
    split at heq
    · exact (congrArg Prod.snd heq).symm
    · exact (congrArg Prod.snd heq).symm
  have h1 := length_scanExponent_le (scanFraction tail).2
  have h2 := length_scanFraction_le tail
  rw [hrest]
  omega

def hexValue? (c : Char) : Option Nat :=
  if isDigit c then some (digit c)
  else if 'a' ≤ c ∧ c ≤ 'f' then some (c.toNat - 'a'.toNat + 10)
  else if 'A' ≤ c ∧ c ≤ 'F' then some (c.toNat - 'A'.toNat + 10)
  else none

/-- A code unit: four hexadecimal digits that do not end the text. -/
def scanCodeUnit? : List Char → Option (Nat × List Char)
  | a :: b :: c :: d :: e :: rest => do
    let a ← hexValue? a
    let b ← hexValue? b
    let c ← hexValue? c
    let d ← hexValue? d
    return (((a * 16 + b) * 16 + c) * 16 + d, e :: rest)
  | _ => none

/-- The character of an escape of two characters. -/
def escaped? : Char → Option Char
  | '"' => some '"'
  | '\\' => some '\\'
  | '/' => some '/'
  | 'b' => some '\x08'
  | 'f' => some '\x0c'
  | 'n' => some '\n'
  | 'r' => some '\r'
  | 't' => some '\t'
  | _ => none

def isHighSurrogate (n : Nat) : Bool := 0xD800 ≤ n && n ≤ 0xDBFF

def isLowSurrogate (n : Nat) : Bool := 0xDC00 ≤ n && n ≤ 0xDFFF

def pairChar (high low : Nat) : Char :=
  Char.ofNat (0x10000 + (high - 0xD800) * 0x400 + (low - 0xDC00))

/-- The low half of a surrogate pair that `high` begins, written as an escape. -/
def scanLowHalf? (high : Nat) : List Char → Option (Nat × List Char)
  | '\\' :: 'u' :: digits =>
    if isHighSurrogate high then (scanCodeUnit? digits).filter fun p => isLowSurrogate p.1 else none
  | _ => none

/-- The character of an escape after its `\u`: one code unit, or two that make a surrogate pair.  A
surrogate by itself is shown as its stand-in. -/
def scanUnicode? (σ : Text.StandIn) (s : List Char) : Option (Char × List Char) :=
  match scanCodeUnit? s with
  | none => none
  | some (high, rest) =>
    match scanLowHalf? high rest with
    | some (low, rest') => some (pairChar high low, rest')
    | none => some (σ.char high, rest)

theorem length_of_scanCodeUnit? {s rest : List Char} {n : Nat}
    (h : scanCodeUnit? s = some (n, rest)) : rest.length < s.length := by
  unfold scanCodeUnit? at h
  split at h
  · simp only [Option.bind_eq_bind, Option.bind_eq_some_iff, Option.pure_def, Option.some.injEq,
      Prod.mk.injEq] at h
    obtain ⟨_, _, _, _, _, _, _, _, _, rfl⟩ := h
    simp only [List.length_cons]
    omega
  · cases h

theorem length_of_scanLowHalf? {s rest : List Char} {high low : Nat}
    (h : scanLowHalf? high s = some (low, rest)) : rest.length < s.length := by
  unfold scanLowHalf? at h
  split at h
  · split at h
    · have := length_of_scanCodeUnit? (Option.eq_some_of_filter_eq_some h)
      simp only [List.length_cons]
      omega
    · cases h
  · cases h

theorem length_of_scanUnicode? {σ : Text.StandIn} {s rest : List Char} {c : Char}
    (h : scanUnicode? σ s = some (c, rest)) : rest.length < s.length := by
  unfold scanUnicode? at h
  split at h
  · cases h
  · rename_i high r hr
    have hlt := length_of_scanCodeUnit? hr
    split at h
    · rename_i low r' hm
      have := length_of_scanLowHalf? hm
      simp only [Option.some.injEq, Prod.mk.injEq] at h
      obtain ⟨-, rfl⟩ := h
      omega
    · simp only [Option.some.injEq, Prod.mk.injEq] at h
      obtain ⟨-, rfl⟩ := h
      exact hlt

/-- The rest of a string after its opening quote; `start` is how much of the text remained there. -/
def scanString (σ : Text.StandIn) (start : Nat) (s : List Char) : Except Halt (Step (List Char) s) :=
  match s with
  | [] => .error (.fault .unterminatedString start)
  | '"' :: rest => .ok ⟨([], rest), Nat.lt_succ_self _⟩
  | '\\' :: 'u' :: digits =>
    match h : scanUnicode? σ digits with
    | none => .error (.fault .invalidCodeUnit (digits.length + 1))
    | some (c, rest) => do
      let ⟨(cs, tail), ht⟩ ← scanString σ start rest
      return ⟨(c :: cs, tail), by
        have := length_of_scanUnicode? h
        simp only [List.length_cons] at ht ⊢
        omega⟩
  | '\\' :: c :: rest =>
    match escaped? c with
    | none => .error (.fault .invalidEscape (rest.length + 2))
    | some c => do
      let ⟨(cs, tail), ht⟩ ← scanString σ start rest
      return ⟨(c :: cs, tail), by simp only [List.length_cons] at ht ⊢; omega⟩
  | ['\\'] => .error (.fault .unterminatedString start)
  | c :: rest =>
    if c.toNat < 0x20 then .error (.fault .controlCharacter (rest.length + 1))
    else do
      let ⟨(cs, tail), ht⟩ ← scanString σ start rest
      return ⟨(c :: cs, tail), by simp only [List.length_cons] at ht ⊢; omega⟩
termination_by s.length
decreasing_by
  · have := length_of_scanUnicode? h
    simp only [List.length_cons]
    omega
  · simp only [List.length_cons]; omega
  · simp only [List.length_cons]; omega

end LuauLayout.Json
