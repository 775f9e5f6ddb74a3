import LuauLayout.Proofs.ExportEnding
import Mathlib.Data.List.TakeWhile

/-! The code points of scripts.  A text that is read with the replacement character and with numbered
stand-ins is told by the two readings, and it has bytes exactly if it has no surrogate.  A layout that
both readings show alike has a script of characters only. -/

namespace LuauLayout

namespace Text

theorem toNat_ofNat {n : Nat} (h : n.isValidChar) : (Char.ofNat n).toNat = n := by
  rw [Char.ofNat, dif_pos h]
  rfl

theorem isValidChar_iff (p : CodePoint) : p.val.isValidChar ↔ p.isSurrogate = false := by
  have hlt := p.isLt
  simp only [Nat.isValidChar, CodePoint.isSurrogate, Bool.and_eq_false_iff, decide_eq_false_iff_not]
  omega

theorem isSurrogate_ofChar (c : Char) : (CodePoint.ofChar c).isSurrogate = false :=
  (isValidChar_iff _).1 c.valid

/-- The two readings of a code point tell it. -/
theorem codePoint_char (p : CodePoint) :
    codePoint (StandIn.replacement.char p.val) (StandIn.numbered.char p.val) = p := by
  by_cases h : p.val.isValidChar
  · rw [StandIn.char, StandIn.char, if_pos h, if_pos h, codePoint, if_pos rfl]
    exact Fin.ext (toNat_ofNat h)
  · have hlt : p.val < 0x10000 := by
      rw [Nat.isValidChar] at h
      omega
    have hvalid : (0x100000 + p.val).isValidChar := Or.inr ⟨by omega, by omega⟩
    have hnumber : (Char.ofNat (0x100000 + p.val)).toNat = 0x100000 + p.val := toNat_ofNat hvalid
    have hne : StandIn.replacement p.val ≠ StandIn.numbered p.val := by
      intro heq
      have hreplacement : (StandIn.replacement p.val).toNat = 0xFFFD := rfl
      rw [heq, StandIn.numbered, hnumber] at hreplacement
      omega
    rw [StandIn.char, StandIn.char, if_neg h, if_neg h, codePoint, if_neg hne]
    refine Fin.ext ?_
    show (Char.ofNat (0x100000 + p.val)).toNat - 0x100000 = p.val
    rw [hnumber]
    omega

/-- The two readings of a text tell its code points. -/
theorem codePoints_map_char (text : List CodePoint) :
    codePoints (text.map fun p => StandIn.replacement.char p.val)
      (text.map fun p => StandIn.numbered.char p.val) = text := by
  induction text with
  | nil => rfl
  | cons p rest ih =>
    rw [List.map_cons, List.map_cons, codePoints, List.zipWith_cons_cons, codePoint_char]
    exact congrArg (p :: ·) ih

/-- A text that both readings show alike is made of characters. -/
theorem codePoints_self (s : List Char) : codePoints s s = s.map .ofChar := by
  rw [codePoints, List.zipWith_self]
  exact List.map_congr_left fun c _ => if_pos rfl

end Text

namespace Utf8

/-- A text has bytes exactly if it has no surrogate. -/
theorem encodingFault?_eq_none_iff {text : List Text.CodePoint} :
    encodingFault? text = none ↔ ∀ p ∈ text, p.isSurrogate = false := by
  rw [encodingFault?]
  constructor
  · intro h p hp
    split at h
    · rename_i hnone
      simpa using List.dropWhile_eq_nil_iff.1 hnone p hp
    · cases h
  · intro h
    have hnone : (text.dropWhile fun p => !p.isSurrogate) = [] :=
      List.dropWhile_eq_nil_iff.2 fun p hp => by rw [h p hp]; rfl
    rw [hnone]

end Utf8

namespace ExportCommand

variable {host : Host} {request : Arguments.Request} {result : Export}

/-- The script has bytes exactly if none of its code points is a surrogate. -/
theorem scriptBytes_eq_ok_iff {content : ByteArray} :
    scriptBytes host request result = .ok content ↔
      (∀ p ∈ scriptText host request result, p.isSurrogate = false) ∧
        content = result.script.toUTF8 := by
  rw [← Utf8.encodingFault?_eq_none_iff, scriptBytes]
  split
  · simp_all
  · simp_all [eq_comm]

/-- The code points of a script are told by the two exports of its source. -/
theorem scriptText_of_numbered {value : Value} {numbered : Export}
    (hvalue : readSource host request.layout .numbered = .ok value)
    (hexport : Export.ofValue value (options host request) = .ok numbered) (result : Export) :
    scriptText host request result =
      Text.codePoints result.script.toList numbered.script.toList := by
  simp only [scriptText, hvalue, hexport, Except.toOption, Option.bind_eq_bind, Option.bind_some,
    Option.map_some, Option.getD_some]

/-- A script is made of characters if its layout shows no surrogate. -/
theorem scriptText_of_readLayout? {layout : Layout} (hresult : Exports host request result)
    (h : readLayout? host request.layout = some layout)
    (hnumbered : readLayout? host request.layout .numbered = some layout) :
    scriptText host request result = result.script.toList.map .ofChar := by
  obtain ⟨value, hvalue, hexport⟩ := hresult
  obtain ⟨value', hvalue', hlayout⟩ := exists_of_readLayout? h
  obtain ⟨numbered, hnumbered, hlayout'⟩ := exists_of_readLayout? hnumbered
  obtain rfl := Except.ok.inj (hvalue'.symm.trans hvalue)
  have hexport' : Export.ofValue numbered (options host request) = .ok result := by
    rw [← hexport, Export.ofValue, Export.ofValue, hlayout, hlayout']
  rw [scriptText_of_numbered hnumbered hexport', Text.codePoints_self]

theorem scriptBytes_of_readLayout? {layout : Layout} (hresult : Exports host request result)
    (h : readLayout? host request.layout = some layout)
    (hnumbered : readLayout? host request.layout .numbered = some layout) :
    scriptBytes host request result = .ok result.script.toUTF8 := by
  refine scriptBytes_eq_ok_iff.2 ⟨fun p hp => ?_, rfl⟩
  rw [scriptText_of_readLayout? hresult h hnumbered] at hp
  obtain ⟨c, -, rfl⟩ := List.mem_map.1 hp
  exact Text.isSurrogate_ofChar c

theorem delivery_of_readLayout? {layout : Layout} (hresult : Exports host request result)
    (h : readLayout? host request.layout = some layout)
    (hnumbered : readLayout? host request.layout .numbered = some layout) (path : FilePath) :
    delivery host request result path =
      deliver host.limits.missing host.files path (.ok result.script.toUTF8) := by
  rw [delivery, scriptBytes_of_readLayout? hresult h hnumbered]

end ExportCommand

end LuauLayout
