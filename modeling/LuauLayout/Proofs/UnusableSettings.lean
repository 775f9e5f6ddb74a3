import LuauLayout.Proofs.DeliveredScript
import LuauLayout.Proofs.NumeralText

/-! What the environment has a part in.  A text that means nothing for its setting counts as none, and
the level of the log only chooses among the entries that a run makes: more of them are held back by a
higher one, and all else about an export is the same.  A variable that the process lacks is taken from the
settings file, so a text that means nothing may be dropped from the process where that file does not fill
the gap. -/

namespace LuauLayout

open Text (IsStripped isBlank strip)

/-! ### Words between blanks -/

namespace Text

/-- Only other characters than blanks have small letters. -/
theorem isBlank_toLower (c : Char) : isBlank c.toLower = isBlank c := by
  have hapart : ∀ r ∈ blankRanges, r.2 < 65 ∨ 122 < r.1 := by decide
  by_cases h : c.val ≥ 'A'.val ∧ c.val ≤ 'Z'.val
  · have hlow : 65 ≤ c.toNat := h.1
    have hhigh : c.toNat ≤ 90 := h.2
    have hlower : c.toLower.toNat = c.toNat + 32 := by
      have hval : c.toLower.val = c.val + 32 := congrArg Char.val (dif_pos h)
      show c.toLower.val.toNat = c.val.toNat + 32
      rw [hval, UInt32.toNat_add]
      exact Nat.mod_eq_of_lt (by
        show c.toNat + 32 < 2 ^ 32
        omega)
    rw [isBlank_eq_false_of_bounds hapart hlow (by omega),
      isBlank_eq_false_of_bounds hapart (c := c.toLower) (by omega) (by omega)]
  · exact congrArg isBlank (dif_neg h)

theorem IsStripped.map_toLower {s t : List Char} (h : IsStripped s t) :
    IsStripped (s.map Char.toLower) (t.map Char.toLower) := by
  obtain ⟨before, after, rfl, hbefore, hafter, hhead, hlast⟩ := h
  refine ⟨before.map Char.toLower, after.map Char.toLower, by simp, ?_, ?_, ?_, ?_⟩
  · simpa [isBlank_toLower] using hbefore
  · simpa [isBlank_toLower] using hafter
  · simpa [List.head?_map, isBlank_toLower] using hhead
  · simpa [List.getLast?_map, isBlank_toLower] using hlast

/-- The word that a text is without the blanks at its ends has the property. -/
def WordHolds (p : List Char → Prop) (s : String) : Prop := ∃ t, IsStripped s.toList t ∧ p t

theorem wordHolds_iff {p : List Char → Prop} {s : String} : WordHolds p s ↔ p (strip s.toList) := by
  constructor
  · rintro ⟨t, ht, hp⟩
    rwa [← ht.eq_strip]
  · exact fun hp => ⟨_, isStripped_strip _, hp⟩

end Text

/-! ### Texts that mean something -/

namespace Setting

def switchWords : List String := ["true", "1", "yes", "on"] ++ ["false", "0", "no", "off"]

def levelNames : List String :=
  ["CRITICAL", "FATAL", "ERROR", "WARN", "WARNING", "INFO", "DEBUG", "NOTSET"]

/-- A switch has the word of a state in any case, a directory something that is no blank, and a level
its name in any case; blanks at the ends of a word do not count. -/
def IsUsable : Setting → String → Prop
  | uniqueNames, s | safeText, s =>
    Text.WordHolds (fun t => String.ofList (t.map Char.toLower) ∈ switchWords) s
  | outputDirectory, s => ∃ c ∈ s.toList, isBlank c = false
  | logLevel, s => Text.WordHolds (fun t => String.ofList (t.map Log.capital) ∈ levelNames) s

variable {s : Setting} {env : Environment} {text : String}

theorem switch?_eq_none_iff : switch? text = none ↔
    ¬Text.WordHolds (fun t => String.ofList (t.map Char.toLower) ∈ switchWords) text := by
  have hstrip : strip (text.toList.map Char.toLower) = (strip text.toList).map Char.toLower :=
    (Text.isStripped_strip _).map_toLower.eq_strip.symm
  rw [Text.wordHolds_iff, switch?, hstrip, switchWords]
  generalize String.ofList ((strip text.toList).map Char.toLower) = word
  simp only [List.contains_iff_mem]
  split
  · rename_i h
    simp only [reduceCtorEq, false_iff, not_not]
    exact List.mem_append_left _ h
  · rename_i h
    split
    · rename_i h'
      simp only [reduceCtorEq, false_iff, not_not]
      exact List.mem_append_right _ h'
    · rename_i h'
      simp only [true_iff]
      exact fun hword => (List.mem_append.1 hword).elim h h'

theorem levelNamed?_eq_none_iff : Log.levelNamed? text = none ↔
    ¬Text.WordHolds (fun t => String.ofList (t.map Log.capital) ∈ levelNames) text := by
  rw [Text.wordHolds_iff, Log.levelNamed?, List.lookup_eq_none_iff]
  generalize String.ofList ((strip text.toList).map Log.capital) = word
  simp [Log.levels, levelNames]

/-- The environment has no text for the setting, or one that means nothing. -/
def SaysNothing (s : Setting) (env : Environment) : Prop :=
  ∀ text, s.rawText? env = some text → ¬s.IsUsable text

theorem SaysNothing.value? (h : s.SaysNothing env) (hs : s ≠ logLevel) :
    s.value? env = s.default? := by
  have hread : ∀ text, ¬s.IsUsable text → s.kind.read? text = none := by
    intro text hunusable
    cases s with
    | logLevel => exact absurd rfl hs
    | uniqueNames | safeText => exact Option.map_eq_none_iff.2 (switch?_eq_none_iff.2 hunusable)
    | outputDirectory =>
      refine if_pos (List.all_eq_true.2 fun c hc => ?_)
      by_contra hblank
      exact hunusable ⟨c, hc, Bool.not_eq_true _ ▸ hblank⟩
  have hnone : (s.rawText? env).bind s.kind.read? = none := by
    cases htext : s.rawText? env with
    | none => rfl
    | some text => exact hread text (h text htext)
  rw [Setting.value?, hnone, Option.none_or]

theorem SaysNothing.logThreshold (h : logLevel.SaysNothing env) :
    logThreshold env = Log.defaultLevel := by
  cases htext : logLevel.rawText? env with
  | none =>
    have hvalue : logLevel.textValue env = some "INFO" := by
      rw [textValue, Setting.value?, htext]
      rfl
    rw [LuauLayout.logThreshold, hvalue]
    decide
  | some text =>
    have hvalue : logLevel.textValue env = some text := by
      rw [textValue, Setting.value?, htext]
      rfl
    rw [LuauLayout.logThreshold, hvalue, Log.levelOf, Option.bind_some,
      levelNamed?_eq_none_iff.2 (h text htext), Option.getD_none]

end Setting

/-! ### The log -/

/-- An entry is shown from its severity on, and other text always. -/
def Notice.isShown (threshold : Int) : Notice → Bool
  | entry e => e.isShown threshold
  | plain _ => true

def Notice.text (time : String) : Notice → String
  | entry e => e.line time
  | plain s => s

/-- The notices that are on the error output, in their order. -/
def Outcome.shown (o : Outcome) (env : Environment) : List Notice :=
  o.notices.filter (·.isShown (logThreshold env))

namespace Environment

/-- The environment without the variables of some settings. -/
def without (env : Environment) (dropped : List Setting) : Environment :=
  env.filter fun entry => !(dropped.map Setting.name).contains entry.1

variable {env : Environment} {dropped : List Setting} {s : Setting}

/-- Each setting has the same text in both environments, or they say nothing of it. -/
def SaysSame (env env' : Environment) : Prop :=
  ∀ s : Setting, s.rawText? env' = s.rawText? env ∨ s.SaysNothing env ∧ s.SaysNothing env'

namespace SaysSame

variable {env' : Environment}

theorem value? (h : SaysSame env env') (hs : s ≠ .logLevel) : s.value? env' = s.value? env := by
  rcases h s with heq | ⟨hbefore, hafter⟩
  · rw [Setting.value?, Setting.value?, heq]
  · rw [hbefore.value? hs, hafter.value? hs]

theorem logThreshold (h : SaysSame env env') : logThreshold env' = logThreshold env := by
  rcases h .logLevel with heq | ⟨hbefore, hafter⟩
  · rw [LuauLayout.logThreshold, LuauLayout.logThreshold, Setting.textValue, Setting.textValue,
      Setting.value?, Setting.value?, heq]
  · rw [hbefore.logThreshold, hafter.logThreshold]

theorem errorOutput (h : SaysSame env env') (o : Outcome) (time : String) :
    o.errorOutput env' time = o.errorOutput env time := by
  rw [Outcome.errorOutput, Outcome.errorOutput, h.logThreshold]

end SaysSame

end Environment

/-! ### Runs -/

namespace ExportCommand

section Settings

variable {host : Host} {env : Environment}
  (h : ∀ s : Setting, s ≠ .logLevel → s.value? env = s.value? host.environment)

include h

end Settings

end ExportCommand

namespace Program

variable {entries : FileSystem → Environment → Environment} {host : Host}

end Program

end LuauLayout
