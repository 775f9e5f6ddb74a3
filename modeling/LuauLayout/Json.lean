import LuauLayout.Json.Scan
import LuauLayout.Text.LineBreak

/-! JSON, read into values.  Besides the values of the standard, the names NaN, Infinity and
-Infinity are numbers.  A mapping keeps its entries in order, repeated keys included.  Reading
follows the text from left to right and ends at the first fault, or where lists and mappings are
nested too deeply.  Surrogates are shown as their stand-ins. -/

namespace LuauLayout.Json

def scanLeaf (s : List Char) : Except Halt (Step Value s) :=
  match hw : scanWord? s with
  | some (v, tail) => .ok ⟨(v, tail), length_of_scanWord? hw⟩
  | none =>
    match hn : scanNumber? s with
    | some (.ok v, tail) => .ok ⟨(v, tail), length_of_scanNumber? hn⟩
    | some (.error e, _) => .error (.overlong e)
    | none => .error (.fault .expectedValue s.length)

section

variable (σ : Text.StandIn)

mutual

/-- A value at the front of the text, in which lists and mappings are nested to the depth `limit` at
most. -/
def scanValue (limit : Nat) (s : List Char) : Except Halt (Step Value s) :=
  match s with
  | '"' :: rest => do
    let ⟨(cs, tail), h⟩ ← scanString σ s.length rest
    return ⟨(.text (String.ofList cs), tail), Nat.lt_succ_of_lt h⟩
  | '\x7b' :: rest =>
    match limit with
    | 0 => .error (.tooDeep .object)
    | limit + 1 =>
      match hs : skipSpace rest with
      | '\x7d' :: tail => .ok ⟨(.mapping [], tail), by
          have := length_skipSpace_le rest
          simp only [hs, List.length_cons] at this ⊢
          omega⟩
      | _ => do
        have hle := length_skipSpace_le rest
        let ⟨(entries, tail), h⟩ ← scanMembers limit (skipSpace rest)
        return ⟨(.mapping entries, tail), Nat.lt_succ_of_lt (Nat.lt_of_lt_of_le h hle)⟩
  | '[' :: rest =>
    match limit with
    | 0 => .error (.tooDeep .array)
    | limit + 1 =>
      match hs : skipSpace rest with
      | ']' :: tail => .ok ⟨(.list [], tail), by
          have := length_skipSpace_le rest
          simp only [hs, List.length_cons] at this ⊢
          omega⟩
      | _ => do
        have hle := length_skipSpace_le rest
        let ⟨(values, tail), h⟩ ← scanElements limit (skipSpace rest)
        return ⟨(.list values, tail), Nat.lt_succ_of_lt (Nat.lt_of_lt_of_le h hle)⟩
  | other => scanLeaf other
termination_by 2 * s.length

/-- The elements of a list up to its closing bracket. -/
def scanElements (limit : Nat) (s : List Char) : Except Halt (Step (List Value) s) := do
  let ⟨(v, tail), h⟩ ← scanValue limit s
  match hs : skipSpace tail with
  | ']' :: rest =>
    return ⟨([v], rest), by
      have := length_skipSpace_le tail
      simp only [hs, List.length_cons] at this h ⊢
      omega⟩
  | ',' :: rest =>
    have hlt : (skipSpace rest).length < s.length := by
      have h1 := length_skipSpace_le tail
      have h2 := length_skipSpace_le rest
      simp only [hs, List.length_cons] at h1 h
      omega
    let ⟨(vs, rest'), h'⟩ ← scanElements limit (skipSpace rest)
    return ⟨(v :: vs, rest'), Nat.lt_trans h' hlt⟩
  | other => .error (.fault .expectedComma other.length)
termination_by 2 * s.length + 1

/-- The members of a mapping up to its closing brace. -/
def scanMembers (limit : Nat) (s : List Char) : Except Halt (Step Value.Entries s) :=
  match s with
  | '"' :: afterQuote => do
    let ⟨(cs, afterKey), hk⟩ ← scanString σ s.length afterQuote
    match hc : skipSpace afterKey with
    | ':' :: afterColon =>
      have hlt : (skipSpace afterColon).length < afterQuote.length := by
        have h1 := length_skipSpace_le afterKey
        have h2 := length_skipSpace_le afterColon
        simp only [hc, List.length_cons] at h1 hk
        omega
      let ⟨(v, tail), h⟩ ← scanValue limit (skipSpace afterColon)
      match hs : skipSpace tail with
      | '\x7d' :: rest =>
        return ⟨([(String.ofList cs, v)], rest), by
          have := length_skipSpace_le tail
          simp only [hs, List.length_cons] at this h ⊢
          omega⟩
      | ',' :: rest =>
        have hlt' : (skipSpace rest).length < afterQuote.length := by
          have h1 := length_skipSpace_le tail
          have h2 := length_skipSpace_le rest
          simp only [hs, List.length_cons] at h1 h
          omega
        let ⟨(entries, rest'), h'⟩ ← scanMembers limit (skipSpace rest)
        return ⟨((String.ofList cs, v) :: entries, rest'),
          Nat.lt_succ_of_lt (Nat.lt_trans h' hlt')⟩
      | other => .error (.fault .expectedComma other.length)
    | other => .error (.fault .expectedColon other.length)
  | other => .error (.fault .expectedPropertyName other.length)
termination_by 2 * s.length + 1
decreasing_by all_goals (simp only [List.length_cons]; omega)

end

/-- The value of a text that holds one value and blanks. -/
def scanText (limit : Nat) (s : List Char) : Except Halt Value := do
  match s with
  | '\uFEFF' :: _ => .error (.fault .byteOrderMark s.length)
  | _ =>
    let ⟨(v, tail), _⟩ ← scanValue σ limit (skipSpace s)
    match skipSpace tail with
    | [] => return v
    | other => .error (.fault .extraData other.length)

/-- Reads a text, in which every line break counts as one line feed and lists and mappings are
nested to the depth `limit` at most. -/
def read (limit : Nat) (text : List Text.CodePoint) : Except Error Value :=
  let s := Text.unifyLineBreaks (text.map fun p => σ.char p.val)
  (scanText σ limit s).mapError (Halt.toError s)

end

end LuauLayout.Json
