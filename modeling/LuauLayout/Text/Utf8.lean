import LuauLayout.Text.Codec

/-! UTF-8, read and written strictly.  A fault of bytes names the first sequence that is no character:
its position, the bytes that could still begin one, and what is wrong with the byte after them.  A
fault of a text names its first surrogates. -/

namespace LuauLayout.Utf8

inductive Cause where
  | invalidStart
  | invalidContinuation
  | unexpectedEnd
  deriving DecidableEq

def Cause.text : Cause → String
  | invalidStart => "invalid start byte"
  | invalidContinuation => "invalid continuation byte"
  | unexpectedEnd => "unexpected end of data"

/-- A fault of the bytes from `position` on, of which `first` is the first. -/
def fault (position length : Nat) (first : UInt8) (cause : Cause) : Text.DecodingFault :=
  { codec := "utf-8", position, length, first, cause := cause.text }

/-- The payload of the byte lies between the bounds, which are those of continuation bytes or
narrower ones. -/
def isWithin (low high : Nat) (b : UInt8) : Bool := low ≤ b.toNat && b.toNat ≤ high

/-- The number of bytes after a start byte, its payload, and the bounds of the next byte. -/
def start? (b : UInt8) : Option (Nat × Nat × Nat × Nat) :=
  let n := b.toNat
  if n < 0x80 then some (0, n, 0x80, 0xBF)
  else if n < 0xC2 then none
  else if n < 0xE0 then some (1, n - 0xC0, 0x80, 0xBF)
  else if n < 0xF0 then
    some (2, n - 0xE0, if n = 0xE0 then 0xA0 else 0x80, if n = 0xED then 0x9F else 0xBF)
  else if n < 0xF5 then
    some (3, n - 0xF0, if n = 0xF0 then 0x90 else 0x80, if n = 0xF4 then 0x8F else 0xBF)
  else none

/-- Takes `count` continuation bytes, the first of them within the bounds: the code point and what
follows, or the number of bytes taken and what is wrong. -/
def follow (count code low high : Nat) (bytes : List UInt8) :
    Except (Nat × Cause) (Nat × List UInt8) :=
  match count, bytes with
  | 0, _ => .ok (code, bytes)
  | _ + 1, [] => .error (0, .unexpectedEnd)
  | count + 1, b :: rest =>
    if isWithin low high b then
      (follow count (code * 64 + b.toNat % 64) 0x80 0xBF rest).mapError fun e => (e.1 + 1, e.2)
    else .error (0, .invalidContinuation)

theorem length_of_follow {count code low high : Nat} {bytes rest : List UInt8} {n : Nat}
    (h : follow count code low high bytes = .ok (n, rest)) : rest.length ≤ bytes.length := by
  induction count generalizing code low high bytes with
  | zero =>
    rw [follow] at h
    cases h
    exact Nat.le_refl _
  | succ count ih =>
    cases bytes with
    | nil => simp [follow] at h
    | cons b tail =>
      rw [follow] at h
      split at h
      · cases hc : follow count (code * 64 + b.toNat % 64) 0x80 0xBF tail with
        | ok p =>
          rw [hc] at h
          cases h
          exact Nat.le_succ_of_le (ih hc)
        | error e => rw [hc] at h; cases h
      · cases h

/-- The characters of the bytes from `position` on. -/
def decodeFrom (position : Nat) (bytes : List UInt8) : Except Text.DecodingFault (List Char) :=
  match bytes with
  | [] => .ok []
  | b :: rest =>
    match start? b with
    | none => .error (fault position 1 b .invalidStart)
    | some (count, code, low, high) =>
      match _h : follow count code low high rest with
      | .error (taken, cause) => .error (fault position (taken + 1) b cause)
      | .ok (n, tail) => (Char.ofNat n :: ·) <$> decodeFrom (position + 1 + count) tail
termination_by bytes.length
decreasing_by
  have := length_of_follow _h
  simp only [List.length_cons]
  omega

def decode (bytes : ByteArray) : Except Text.DecodingFault (List Char) := decodeFrom 0 bytes.toList

/-- The code points of bytes, which are those of characters. -/
def readText (bytes : ByteArray) : Except Text.DecodingFault (List Text.CodePoint) :=
  (decode bytes).map (·.map .ofChar)

/-- The first surrogates of a text, which has no bytes if there are any. -/
def encodingFault? (text : List Text.CodePoint) : Option Text.EncodingFault :=
  match text.dropWhile fun p => !p.isSurrogate with
  | [] => none
  | first :: rest =>
    some
      { codec := "utf-8"
        position := (text.takeWhile fun p => !p.isSurrogate).length
        length := (rest.takeWhile (·.isSurrogate)).length + 1
        first
        cause := "surrogates not allowed" }

end LuauLayout.Utf8
