import LuauLayout.Proofs.LongString

/-! Cutting a script into its lines.  A reader walks the script and skips the strings in double
quotes and in long brackets, so that it cuts at the line breaks outside of strings only.  A text is
inert if the reader takes it whole, whatever follows: texts without marks are, strings are, and one
inert text after another is. -/

namespace LuauLayout.Lines

open LongString

/-- A string in double quotes from behind its opening quote to its closing one, and what follows.  A
backslash takes the next character along, and a line break ends a string that is not closed. -/
def spanQuoted : List Char → List Char × List Char
  | [] => ([], [])
  | '"' :: rest => (['"'], rest)
  | '\n' :: rest => ([], '\n' :: rest)
  | '\\' :: c :: rest => ('\\' :: c :: (spanQuoted rest).1, (spanQuoted rest).2)
  | c :: rest => (c :: (spanQuoted rest).1, (spanQuoted rest).2)

/-- The string in front, in double quotes or in long brackets, and what follows.  A long string that
is not closed goes on to the end. -/
def spanString? : List Char → Option (List Char × List Char)
  | '"' :: rest => some ('"' :: (spanQuoted rest).1, (spanQuoted rest).2)
  | s => (readOpening? s).map fun found =>
    match splitAtFirst? (closing found.1) found.2 with
    | some (text, behind) => (bracket found.1 text, behind)
    | none => (s, [])

theorem length_spanQuoted_le (s : List Char) : (spanQuoted s).2.length ≤ s.length := by
  fun_induction spanQuoted s <;> simp <;> omega

theorem length_of_splitAtFirst? {pattern s text behind : List Char}
    (h : splitAtFirst? pattern s = some (text, behind)) : behind.length ≤ s.length := by
  rw [eq_append_of_splitAtFirst? h, List.length_append, List.length_append]
  omega

theorem length_of_readOpening? {s behind : List Char} {level : Nat}
    (h : readOpening? s = some (level, behind)) : behind.length < s.length := by
  rw [readOpening?.eq_def] at h
  split at h
  · rename_i rest
    split at h
    · rename_i tail htail
      have hsuffix := (List.dropWhile_suffix (l := rest) (· == '=')).length_le
      obtain ⟨-, rfl⟩ := Prod.mk.inj (Option.some.inj h)
      rw [htail] at hsuffix
      simp at hsuffix ⊢
      omega
    · simp at h
  · simp at h

theorem length_of_spanString? {s text behind : List Char}
    (h : spanString? s = some (text, behind)) : behind.length < s.length := by
  rw [spanString?.eq_def] at h
  split at h
  · obtain ⟨-, rfl⟩ := Prod.mk.inj (Option.some.inj h)
    exact Nat.lt_succ_of_le (length_spanQuoted_le _)
  · obtain ⟨⟨level, rest⟩, hopening, heq⟩ := Option.map_eq_some_iff.1 h
    have hlt := length_of_readOpening? hopening
    split at heq
    · rename_i hsplit
      obtain ⟨-, rfl⟩ := Prod.mk.inj heq
      exact Nat.lt_of_le_of_lt (length_of_splitAtFirst? hsplit) hlt
    · obtain ⟨-, rfl⟩ := Prod.mk.inj heq
      exact Nat.lt_of_le_of_lt (Nat.zero_le _) hlt

/-- The pieces with a text in front of the first one. -/
def extend (text : List Char) : List (List Char) → List (List Char)
  | [] => [text]
  | piece :: pieces => (text ++ piece) :: pieces

/-- The pieces between the line breaks that lie outside of strings. -/
def cut : List Char → List (List Char)
  | [] => [[]]
  | c :: rest =>
    match _h : spanString? (c :: rest) with
    | some (text, behind) => extend text (cut behind)
    | none => if c = '\n' then [] :: cut rest else extend [c] (cut rest)
termination_by s => s.length
decreasing_by
  · exact length_of_spanString? _h
  · simp
  · simp

/-- The lines of a script. -/
def ofScript (script : String) : List String := (cut script.toList).map String.ofList

/-! ### Inert texts -/

/-- The reader takes the text whole, whatever follows it. -/
def Inert (text : List Char) : Prop := ∀ rest, cut (text ++ rest) = extend text (cut rest)

/-- A character that neither opens a string nor breaks a line. -/
def isPlain (c : Char) : Bool := c != '"' && c != '[' && c != '\n'

theorem extend_append (s t : List Char) (pieces : List (List Char)) :
    extend (s ++ t) pieces = extend s (extend t pieces) := by
  cases pieces <;> simp [extend]

theorem cut_of_spanString? {s text behind : List Char} (h : spanString? s = some (text, behind)) :
    cut s = extend text (cut behind) := by
  cases s with
  | nil => simp [spanString?, readOpening?] at h
  | cons c rest =>
    rw [cut]
    split
    · rename_i heq
      obtain ⟨rfl, rfl⟩ := Prod.mk.inj (Option.some.inj (heq.symm.trans h))
      rfl
    · rename_i heq
      simp [heq] at h

theorem spanString?_eq_none {c : Char} {rest : List Char} (hq : c ≠ '"') (hb : c ≠ '[') :
    spanString? (c :: rest) = none := by
  rw [spanString?.eq_def]
  split
  · rename_i heq
    exact absurd (List.cons.inj heq).1 hq
  · rw [readOpening?.eq_def]
    split
    · rename_i heq
      exact absurd (List.cons.inj heq).1 hb
    · rfl

theorem cut_break (rest : List Char) : cut ('\n' :: rest) = [] :: cut rest := by
  rw [cut]
  split
  · rename_i heq
    rw [spanString?_eq_none (by decide) (by decide)] at heq
    exact absurd heq (by simp)
  · exact if_pos rfl

theorem cut_cons_of_isPlain {c : Char} (h : isPlain c = true) (rest : List Char) :
    cut (c :: rest) = extend [c] (cut rest) := by
  simp only [isPlain, Bool.and_eq_true, bne_iff_ne, ne_eq] at h
  obtain ⟨⟨hq, hb⟩, hn⟩ := h
  rw [cut]
  split
  · rename_i heq
    rw [spanString?_eq_none hq hb] at heq
    exact absurd heq (by simp)
  · exact if_neg hn

theorem cut_ne_nil (s : List Char) : cut s ≠ [] := by
  have hextend : ∀ text pieces, extend text pieces ≠ [] := by
    intro text pieces
    cases pieces <;> simp [extend]
  cases s with
  | nil => simp [cut]
  | cons c rest =>
    rw [cut]
    split
    · exact hextend _ _
    · split
      · simp
      · exact hextend _ _

theorem inert_nil : Inert [] := by
  intro rest
  obtain ⟨piece, pieces, h⟩ := List.exists_cons_of_ne_nil (cut_ne_nil rest)
  rw [List.nil_append, h]
  rfl

theorem Inert.append {s t : List Char} (hs : Inert s) (ht : Inert t) : Inert (s ++ t) := by
  intro rest
  rw [List.append_assoc, hs, ht, extend_append]

theorem inert_of_isPlain {s : List Char} (h : s.all isPlain = true) : Inert s := by
  induction s with
  | nil => exact inert_nil
  | cons c s ih =>
    rw [List.all_cons, Bool.and_eq_true] at h
    intro rest
    rw [List.cons_append, cut_cons_of_isPlain h.1, ih h.2 rest]
    exact (extend_append [c] s (cut rest)).symm

theorem inert_of_spanString? {text : List Char}
    (h : ∀ rest, spanString? (text ++ rest) = some (text, rest)) : Inert text :=
  fun rest => cut_of_spanString? (h rest)

/-- A character that a string in double quotes shows as it is. -/
def isQuotable (c : Char) : Bool := c != '"' && c != '\\' && c != '\r' && c != '\n'

theorem spanQuoted_append {s : List Char} (h : s.all isQuotable = true) (rest : List Char) :
    spanQuoted (s ++ '"' :: rest) = (s ++ ['"'], rest) := by
  induction s with
  | nil => rfl
  | cons c s ih =>
    rw [List.all_cons, Bool.and_eq_true] at h
    obtain ⟨hc, hs⟩ := h
    simp only [isQuotable, Bool.and_eq_true, bne_iff_ne, ne_eq] at hc
    obtain ⟨⟨⟨hq, hb⟩, -⟩, hn⟩ := hc
    rw [List.cons_append, spanQuoted, ih hs]
    · rfl
    · exact hq
    · exact hn
    · exact fun _ _ h => absurd h hb

theorem inert_quoted {s : List Char} (h : s.all isQuotable = true) :
    Inert ('"' :: (s ++ ['"'])) := by
  refine inert_of_spanString? fun rest => ?_
  rw [List.cons_append, List.append_assoc, List.singleton_append, spanString?,
    spanQuoted_append h]

theorem inert_bracket {level : Nat} {text : List Char} (h : holds level text = true) :
    Inert (bracket level text) := by
  refine inert_of_spanString? fun rest => ?_
  have hopening : readOpening? (bracket level text ++ rest) =
      some (level, text ++ (closing level ++ rest)) := by
    rw [bracket, List.append_assoc, List.append_assoc, readOpening?_append]
  rw [spanString?, hopening, Option.map_some]
  · simp only [splitAtFirst?_closing h]
  · simp [bracket, opening]

/-- Inert texts in separate lines are the lines that the reader finds. -/
theorem ofScript_intercalate {lines : List String} (hne : lines ≠ [])
    (h : ∀ line ∈ lines, Inert line.toList) : ofScript ("\n".intercalate lines) = lines := by
  induction lines with
  | nil => exact absurd rfl hne
  | cons line rest ih =>
    have hline : Inert line.toList := h line List.mem_cons_self
    cases rest with
    | nil =>
      have hcut := hline []
      rw [List.append_nil] at hcut
      rw [String.intercalate_singleton, ofScript, hcut]
      simp [cut, extend]
    | cons next rest =>
      have hrest := ih (by simp) fun l hl => h l (List.mem_cons_of_mem _ hl)
      have hcut : cut (line ++ "\n" ++ "\n".intercalate (next :: rest)).toList =
          line.toList :: cut ("\n".intercalate (next :: rest)).toList := by
        rw [String.toList_append, String.toList_append, List.append_assoc, hline]
        exact (congrArg (extend _) (cut_break _)).trans (by simp [extend])
      rw [String.intercalate_cons_cons, ofScript, hcut, List.map_cons, String.ofList_toList]
      exact congrArg (line :: ·) hrest

end LuauLayout.Lines
