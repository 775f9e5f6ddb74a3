import LuauLayout.Script.LongString

/-! Reading long strings.  An opening bracket of some level drops one line break right behind it, and
the text then runs up to the first closing bracket of that level.  The safe form of a text reads back
as the text, whatever follows it: the level is chosen so that no closing bracket stands in the text or
straddles its end, and the break added in front of a break is the one that is dropped. -/

namespace LuauLayout.LongString

/-- The text before the first occurrence of the pattern, and the text behind that occurrence. -/
def splitAtFirst? (pattern : List Char) : List Char → Option (List Char × List Char)
  | [] => if pattern.isEmpty then some ([], []) else none
  | c :: rest =>
    if pattern.isPrefixOf (c :: rest) then some ([], (c :: rest).drop pattern.length)
    else (splitAtFirst? pattern rest).map fun found => (c :: found.1, found.2)

/-- The level of the opening bracket in front, and the text behind the bracket. -/
def readOpening? : List Char → Option (Nat × List Char)
  | '[' :: rest =>
    match rest.dropWhile (· == '=') with
    | '[' :: behind => some ((rest.takeWhile (· == '=')).length, behind)
    | _ => none
  | _ => none

/-- The text without the line break in front, if one is there. -/
def dropBreak : List Char → List Char
  | '\n' :: rest => rest
  | '\r' :: '\n' :: rest => rest
  | text => text

/-- The text of the long string in front, and what follows the long string. -/
def read? (s : List Char) : Option (List Char × List Char) :=
  (readOpening? s).bind fun found => splitAtFirst? (closing found.1) (dropBreak found.2)

/-! ### Occurrences -/

theorem occurs_iff_infix {pattern text : List Char} :
    occurs pattern text = true ↔ pattern <:+: text := by
  induction text with
  | nil => simp [occurs]
  | cons c rest ih => simp [occurs, ih, List.infix_cons_iff]

theorem occurs_eq_false_iff {pattern text : List Char} :
    occurs pattern text = false ↔ ¬pattern <:+: text := by
  rw [← occurs_iff_infix, Bool.not_eq_true]

/-- A pattern that does not end in `c` occurs in `text ++ [c]` only within `text`. -/
theorem infix_of_infix_concat {pattern text : List Char} {last c : Char} (hc : last ≠ c)
    (h : pattern ++ [last] <:+: text ++ [c]) : pattern ++ [last] <:+: text := by
  rcases List.infix_concat_iff.1 h with hs | hi
  · rcases List.suffix_concat_iff.1 hs with hnil | ⟨t, ht, -⟩
    · simp at hnil
    · exact absurd (List.append_inj_right' ht rfl) (by simpa using hc)
  · exact hi

theorem infix_of_infix_append_replicate {pattern text : List Char} {last c : Char} (hc : last ≠ c)
    (n : Nat) (h : pattern ++ [last] <:+: text ++ List.replicate n c) :
    pattern ++ [last] <:+: text := by
  induction n with
  | zero => simpa using h
  | succ n ih =>
    rw [List.replicate_succ', ← List.append_assoc] at h
    exact ih (infix_of_infix_concat hc h)

/-- The first occurrence of the pattern is the one that follows the text, if the pattern does not
begin in the text: then it lies within the text and all of the pattern but its last character. -/
theorem splitAtFirst?_append {pattern text : List Char} (rest : List Char)
    (h : ¬pattern <:+: text ++ pattern.dropLast) (hne : pattern ≠ []) :
    splitAtFirst? pattern (text ++ (pattern ++ rest)) = some (text, rest) := by
  induction text with
  | nil =>
    obtain ⟨c, tail, rfl⟩ := List.exists_cons_of_ne_nil hne
    have hp : (c :: tail).isPrefixOf (c :: (tail ++ rest)) = true :=
      List.isPrefixOf_iff_prefix.2 (List.prefix_append (c :: tail) rest)
    rw [List.nil_append, List.cons_append, splitAtFirst?, if_pos hp]
    simp
  | cons c text ih =>
    have hp : ¬pattern.isPrefixOf (c :: (text ++ (pattern ++ rest))) = true := by
      intro hp
      have hlong : pattern.length ≤ (c :: text ++ pattern.dropLast).length := by
        simp; omega
      have hwhole : c :: text ++ pattern.dropLast <+: c :: (text ++ (pattern ++ rest)) := by
        rw [← List.cons_append, ← List.append_assoc]
        exact List.IsPrefix.trans
          ((List.prefix_append_right_inj _).2 (List.dropLast_prefix pattern))
          (List.prefix_append _ rest)
      exact h (List.prefix_of_prefix_length_le (List.isPrefixOf_iff_prefix.1 hp) hwhole
        hlong).isInfix
    have hrest : ¬pattern <:+: text ++ pattern.dropLast :=
      fun hi => h (hi.trans (List.suffix_cons c _).isInfix)
    rw [List.cons_append, splitAtFirst?, if_neg hp, ih hrest]
    rfl

theorem eq_append_of_splitAtFirst? {pattern s text behind : List Char}
    (h : splitAtFirst? pattern s = some (text, behind)) : s = text ++ (pattern ++ behind) := by
  induction s generalizing text behind with
  | nil =>
    rw [splitAtFirst?] at h
    split at h
    · obtain ⟨rfl, rfl⟩ := Prod.mk.inj (Option.some.inj h)
      simp_all
    · cases h
  | cons c rest ih =>
    rw [splitAtFirst?] at h
    split at h
    · rename_i hp
      obtain ⟨rfl, rfl⟩ := Prod.mk.inj (Option.some.inj h)
      exact (List.prefix_iff_eq_append.1 (List.isPrefixOf_iff_prefix.1 hp)).symm
    · obtain ⟨⟨t, b⟩, hfound, heq⟩ := Option.map_eq_some_iff.1 h
      obtain ⟨rfl, rfl⟩ := Prod.mk.inj heq
      rw [List.cons_append, ← ih hfound]

/-- What is found is the first occurrence: no other one begins in the text before it. -/
theorem not_infix_of_splitAtFirst? {pattern s text behind : List Char} (hne : pattern ≠ [])
    (h : splitAtFirst? pattern s = some (text, behind)) :
    ¬pattern <:+: text ++ pattern.dropLast := by
  have hshort : ¬pattern <:+: pattern.dropLast := by
    intro hi
    have hlength := hi.length_le
    have := List.length_pos_iff.2 hne
    rw [List.length_dropLast] at hlength
    omega
  induction s generalizing text behind with
  | nil =>
    rw [splitAtFirst?, if_neg (by simpa using hne)] at h
    cases h
  | cons c rest ih =>
    rw [splitAtFirst?] at h
    split at h
    · obtain ⟨rfl, -⟩ := Prod.mk.inj (Option.some.inj h)
      exact hshort
    · rename_i hp
      obtain ⟨⟨t, b⟩, hfound, heq⟩ := Option.map_eq_some_iff.1 h
      obtain ⟨rfl, rfl⟩ := Prod.mk.inj heq
      rw [List.cons_append, List.infix_cons_iff, not_or]
      refine ⟨fun hprefix => hp (List.isPrefixOf_iff_prefix.2 ?_), ih hfound⟩
      rw [eq_append_of_splitAtFirst? hfound]
      refine hprefix.trans ((List.prefix_cons_inj c).2 ((List.prefix_append_right_inj t).2 ?_))
      exact (List.dropLast_prefix pattern).trans (List.prefix_append pattern b)

theorem splitAtFirst?_eq_some_iff {pattern s text behind : List Char} (hne : pattern ≠ []) :
    splitAtFirst? pattern s = some (text, behind) ↔
      s = text ++ (pattern ++ behind) ∧ ¬pattern <:+: text ++ pattern.dropLast := by
  constructor
  · exact fun h => ⟨eq_append_of_splitAtFirst? h, not_infix_of_splitAtFirst? hne h⟩
  · rintro ⟨rfl, h⟩
    exact splitAtFirst?_append behind h hne

/-! ### Levels -/

theorem length_closing (level : Nat) : (closing level).length = level + 2 := by simp [closing]

theorem closing_ne_nil (level : Nat) : closing level ≠ [] := by simp [closing]

theorem dropLast_closing (level : Nat) :
    (closing level).dropLast = ']' :: List.replicate level '=' :=
  List.dropLast_concat

/-- A text that holds its level has no closing bracket that begins in it. -/
theorem not_infix_of_holds {level : Nat} {text : List Char} (h : holds level text = true) :
    ¬closing level <:+: text ++ (closing level).dropLast := by
  intro hi
  rw [holds, Bool.not_eq_true', occurs_eq_false_iff] at h
  apply h
  rw [dropLast_closing, ← List.singleton_append, ← List.append_assoc] at hi
  exact infix_of_infix_append_replicate (by decide) level hi

/-- Some character in front that is not a bracket does not close anything. -/
theorem holds_cons_iff {level : Nat} {text : List Char} {c : Char} (hc : c ≠ ']') :
    holds level (c :: text) = true ↔ holds level text = true := by
  simp only [holds, Bool.not_eq_true', occurs_eq_false_iff, List.cons_append]
  refine not_congr ⟨fun hi => ?_, fun hi => hi.trans (List.suffix_cons c _).isInfix⟩
  rcases List.infix_cons_iff.1 hi with hp | hi
  · rw [closing, List.cons_append, List.cons_prefix_cons] at hp
    exact absurd hp.1.symm hc
  · exact hi

theorem holds_length (text : List Char) : holds text.length text = true := by
  rw [holds, Bool.not_eq_true', occurs_eq_false_iff]
  intro hi
  have := hi.length_le
  rw [length_closing, List.length_append, List.length_singleton] at this
  omega

theorem holds_lowestLevel (text : List Char) : holds (lowestLevel text) text = true :=
  apply_leastFrom_eq_true (p := (holds · text)) (Nat.zero_le _)
    (Nat.le_of_eq (Nat.zero_add _).symm) (holds_length text)

/-! ### Reading back -/

theorem readOpening?_append (level : Nat) (rest : List Char) :
    readOpening? (opening level ++ rest) = some (level, rest) := by
  have hall : ∀ c ∈ List.replicate level '=', (c == '=') = true := by
    intro c hc
    simp [List.eq_of_mem_replicate hc]
  have hsplit : opening level ++ rest = '[' :: (List.replicate level '=' ++ '[' :: rest) := by
    simp [opening]
  rw [hsplit, readOpening?, List.dropWhile_append_of_pos hall, List.takeWhile_append_of_pos hall]
  simp

theorem splitAtFirst?_closing {level : Nat} {text : List Char} (h : holds level text = true)
    (rest : List Char) :
    splitAtFirst? (closing level) (text ++ (closing level ++ rest)) = some (text, rest) :=
  splitAtFirst?_append rest (not_infix_of_holds h) (closing_ne_nil level)

/-- What a reader drops in front of a safe text is the break that was added, and nothing if none
was. -/
theorem dropBreak_guarded (text rest : List Char) (level : Nat) :
    dropBreak ((if startsWithBreak text then '\n' :: text else text) ++ (closing level ++ rest)) =
      text ++ (closing level ++ rest) := by
  cases text with
  | nil => rfl
  | cons c text =>
    by_cases hc : startsWithBreak (c :: text) = true
    · rw [if_pos hc]
      rfl
    · rw [if_neg hc]
      simp only [startsWithBreak, Bool.or_eq_true, beq_iff_eq, not_or] at hc
      rw [List.cons_append, dropBreak]
      · intro rest h
        exact hc.1 (List.cons.inj h).1
      · intro rest h
        exact hc.2 (List.cons.inj h).1

/-- The safe form of a text reads back as the text and leaves what follows it. -/
theorem read?_quote_safe (text rest : String) :
    read? (quote true text ++ rest).toList = some (text.toList, rest.toList) := by
  have hsplit : (quote true text ++ rest).toList = opening (lowestLevel text.toList) ++
      ((if startsWithBreak text.toList then '\n' :: text.toList else text.toList) ++
        (closing (lowestLevel text.toList) ++ rest.toList)) := by
    simp [quote, safe, bracket]
  rw [hsplit, read?, readOpening?_append, Option.bind_some, dropBreak_guarded]
  exact splitAtFirst?_closing (holds_lowestLevel text.toList) rest.toList

end LuauLayout.LongString
