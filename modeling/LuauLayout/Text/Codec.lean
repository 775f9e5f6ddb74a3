import LuauLayout.Text.Quoted

/-! Texts and the bytes that stand for them.  A text is made of code points.  Those between the
characters, the surrogates, come from bytes or escapes that mean no character, and have no bytes of
their own.  Where a text is held as characters, a stand-in takes the place of each surrogate; two
readings of a text with different stand-ins tell its code points. -/

namespace LuauLayout.Text

abbrev CodePoint := Fin 0x110000

theorem toNat_lt (c : Char) : c.toNat < 0x110000 := by
  rcases c.valid with h | ⟨-, h⟩
  · exact Nat.lt_trans h (by decide)
  · exact h

def CodePoint.ofChar (c : Char) : CodePoint := ⟨c.toNat, toNat_lt c⟩

def CodePoint.isSurrogate (p : CodePoint) : Bool := 0xD800 ≤ p.val && p.val ≤ 0xDFFF

/-- The characters that are shown for surrogates. -/
abbrev StandIn := Nat → Char

namespace StandIn

/-- One character for all of them. -/
def replacement : StandIn := fun _ => '\uFFFD'

/-- A character of its own for each, in the last plane. -/
def numbered : StandIn := fun n => Char.ofNat (0x100000 + n)

/-- The character of a code point. -/
def char (σ : StandIn) (n : Nat) : Char := if n.isValidChar then Char.ofNat n else σ n

end StandIn

/-- The code point that is shown as one character and as another; they differ for surrogates only. -/
def codePoint (shown numbered : Char) : CodePoint :=
  if shown = numbered then .ofChar shown
  else ⟨numbered.toNat - 0x100000, Nat.lt_of_le_of_lt (Nat.sub_le _ _) (toNat_lt numbered)⟩

/-- The code points of a text that was read with the replacement character and with numbered ones. -/
def codePoints (shown numbered : List Char) : List CodePoint :=
  List.zipWith codePoint shown numbered

/-- Bytes that stand for no text. -/
structure DecodingFault where
  codec : String
  position : Nat
  /-- The number of bytes at fault, at least one. -/
  length : Nat
  first : UInt8
  cause : String
  deriving DecidableEq

/-- Code points that no bytes stand for. -/
structure EncodingFault where
  codec : String
  position : Nat
  /-- The number of code points at fault, at least one. -/
  length : Nat
  first : CodePoint
  cause : String
  deriving DecidableEq

/-- Where several of a kind are at fault. -/
def span (kind : String) (position length : Nat) : String :=
  kind ++ " in position " ++ toString position ++ "-" ++ toString (position + length - 1)

def DecodingFault.message (f : DecodingFault) : String :=
  let place :=
    if f.length ≤ 1 then
      "byte 0x" ++ String.ofList (hexDigits 2 f.first.toNat) ++ " in position " ++
        toString f.position
    else span "bytes" f.position f.length
  "'" ++ f.codec ++ "' codec can't decode " ++ place ++ ": " ++ f.cause

def EncodingFault.message (f : EncodingFault) : String :=
  let place :=
    if f.length ≤ 1 then
      "character '" ++ String.ofList (codePointEscape f.first) ++ "' in position " ++
        toString f.position
    else span "characters" f.position f.length
  "'" ++ f.codec ++ "' codec can't encode " ++ place ++ ": " ++ f.cause

end LuauLayout.Text
