import LuauLayout.Proofs.LongString
import Mathlib.Algebra.BigOperators.Intervals
import Mathlib.Algebra.Order.BigOperators.Group.Finset
import Mathlib.Order.Interval.Finset.Nat

/-! How high the level of a safe long string is.  A level is passed over only if its closing bracket
occurs in the text with one bracket behind it.  Occurrences of different levels share no character but
the bracket that ends the one and begins the other, so that the text is at least as long as all levels
that are passed over together. -/

namespace LuauLayout.LongString

/-! ### Occurrences of closing brackets -/

/-- The closing bracket of a level stands at a place of the text. -/
def StandsAt (level place : Nat) (s : List Char) : Prop := closing level <+: s.drop place

theorem exists_standsAt {level : Nat} {s : List Char} (h : closing level <:+: s) :
    ∃ place, StandsAt level place s := by
  obtain ⟨t, hprefix, hsuffix⟩ := List.infix_iff_prefix_suffix.1 h
  refine ⟨s.length - t.length, ?_⟩
  rwa [StandsAt, ← List.suffix_iff_eq_drop.1 hsuffix]

section StandsAt

variable {level level' place place' : Nat} {s : List Char}

theorem StandsAt.getElem? (h : StandsAt level place s) {i : Nat} (hi : i < level + 2) :
    s[place + i]? = (closing level)[i]? := by
  rw [← List.getElem?_drop]
  exact (List.prefix_iff_getElem?.1 h i (by rwa [length_closing])).trans
    (List.getElem?_eq_getElem (by rwa [length_closing])).symm

theorem StandsAt.first (h : StandsAt level place s) : s[place]? = some ']' :=
  h.getElem? (i := 0) (by omega)

theorem StandsAt.between (h : StandsAt level place s) {i : Nat} (hi : i < level) :
    s[place + (i + 1)]? = some '=' := by
  rw [h.getElem? (by omega), closing, List.cons_append, List.getElem?_cons_succ,
    List.getElem?_append_left (by rwa [List.length_replicate]), List.getElem?_replicate, if_pos hi]

theorem StandsAt.last (h : StandsAt level place s) : s[place + (level + 1)]? = some ']' := by
  rw [h.getElem? (by omega), closing, List.cons_append, List.getElem?_cons_succ,
    List.getElem?_append_right (by rw [List.length_replicate]), List.length_replicate,
    Nat.sub_self, List.getElem?_cons_zero]

/-- What begins within an occurrence, but not at its last bracket, begins with it. -/
theorem StandsAt.place_eq (h : StandsAt level place s) (h' : StandsAt level' place' s)
    (hle : place ≤ place') (hlt : place' < place + (level + 1)) : place' = place := by
  by_contra hne
  obtain ⟨i, rfl⟩ : ∃ i, place' = place + (i + 1) := ⟨place' - place - 1, by omega⟩
  have hequals := h.between (i := i) (by omega)
  rw [h'.first] at hequals
  exact absurd (Option.some.inj hequals) (by decide)

theorem StandsAt.not_lt (h : StandsAt level place s) (h' : StandsAt level' place s) :
    ¬level < level' := by
  intro hlt
  have hequals := h'.between hlt
  rw [h.last] at hequals
  exact absurd (Option.some.inj hequals) (by decide)

/-- The places of an occurrence without its last bracket. -/
def stretch (level place : Nat) : Finset Nat := Finset.Ico place (place + (level + 1))

theorem card_stretch (level place : Nat) : (stretch level place).card = level + 1 := by
  rw [stretch, Nat.card_Ico, Nat.add_sub_cancel_left]

theorem disjoint_stretch (h : StandsAt level place s) (h' : StandsAt level' place' s)
    (hne : level ≠ level') : Disjoint (stretch level place) (stretch level' place') := by
  rw [Finset.disjoint_left]
  intro i hi hi'
  rw [stretch, Finset.mem_Ico] at hi hi'
  have hplace : place' = place := by
    rcases Nat.le_total place place' with hle | hle
    · exact h.place_eq h' hle (by omega)
    · exact (h'.place_eq h hle (by omega)).symm
  subst hplace
  exact hne (Nat.le_antisymm (Nat.le_of_not_lt (h'.not_lt h)) (Nat.le_of_not_lt (h.not_lt h')))

/-- An occurrence that reaches into the one bracket behind a text stands in the text but for its last
bracket. -/
theorem stretch_subset {text : List Char} (h : StandsAt level place (text ++ [']'])) :
    stretch level place ⊆ Finset.range text.length := by
  obtain ⟨hend, -⟩ := List.getElem?_eq_some_iff.1 h.last
  rw [List.length_append, List.length_singleton] at hend
  intro i hi
  rw [stretch, Finset.mem_Ico] at hi
  exact Finset.mem_range.2 (by omega)

end StandsAt

/-- A text that closes the first `n` levels is as long as these are together. -/
theorem mul_succ_le_of_closings {text : List Char} {n : Nat}
    (h : ∀ level < n, closing level <:+: text ++ [']']) : n * (n + 1) / 2 ≤ text.length := by
  choose! place hplace using fun level hlevel => exists_standsAt (h level hlevel)
  have hdisjoint : ((Finset.range n : Finset Nat) : Set Nat).PairwiseDisjoint
      fun level => stretch level (place level) := by
    intro level hlevel level' hlevel' hne
    rw [Finset.mem_coe, Finset.mem_range] at hlevel hlevel'
    exact disjoint_stretch (hplace level hlevel) (hplace level' hlevel') hne
  have hsubset : (Finset.range n).biUnion (fun level => stretch level (place level)) ⊆
      Finset.range text.length :=
    Finset.biUnion_subset.2 fun level hlevel =>
      stretch_subset (hplace level (Finset.mem_range.1 hlevel))
  calc n * (n + 1) / 2
      = ∑ level ∈ Finset.range (n + 1), level := by rw [Finset.sum_range_id, Nat.mul_comm]; rfl
    _ = ∑ level ∈ Finset.range n, (level + 1) := by rw [Finset.sum_range_succ', Nat.add_zero]
    _ = ∑ level ∈ Finset.range n, (stretch level (place level)).card := by
        simp only [card_stretch]
    _ = ((Finset.range n).biUnion fun level => stretch level (place level)).card :=
        (Finset.card_biUnion hdisjoint).symm
    _ ≤ (Finset.range text.length).card := Finset.card_le_card hsubset
    _ = text.length := Finset.card_range _

/-! ### Levels that are closed early -/

theorem exists_splitAtFirst? {pattern s : List Char} (h : pattern <:+: s) :
    ∃ text behind, splitAtFirst? pattern s = some (text, behind) := by
  induction s with
  | nil =>
    obtain rfl := List.infix_nil.1 h
    exact ⟨[], [], rfl⟩
  | cons c rest ih =>
    by_cases hp : pattern.isPrefixOf (c :: rest) = true
    · exact ⟨[], _, by rw [splitAtFirst?, if_pos hp]⟩
    · have hrest : pattern <:+: rest := (List.infix_cons_iff.1 h).resolve_left
        fun hprefix => hp (List.isPrefixOf_iff_prefix.2 hprefix)
      obtain ⟨text, behind, hfound⟩ := ih hrest
      exact ⟨c :: text, behind, by rw [splitAtFirst?, if_neg hp, hfound]; rfl⟩

/-- A level does not hold a text exactly if the text in its brackets is closed before it ends. -/
theorem holds_eq_false_iff {level : Nat} {text : List Char} :
    holds level text = false ↔ ∃ front behind,
      splitAtFirst? (closing level) (text ++ closing level) = some (front, behind) ∧
        front.length < text.length := by
  constructor
  · intro h
    rw [holds, Bool.not_eq_false', occurs_iff_infix] at h
    obtain ⟨front, behind, hfound⟩ :=
      exists_splitAtFirst? (List.suffix_append text (closing level)).isInfix
    obtain ⟨hsplit, hfirst⟩ := (splitAtFirst?_eq_some_iff (closing_ne_nil level)).1 hfound
    refine ⟨front, behind, hfound, Nat.lt_of_not_le fun hle => hfirst ?_⟩
    have hprefix : text ++ [']'] <+: front ++ (closing level).dropLast := by
      have hfront : front <+: text ++ closing level := by
        rw [hsplit]
        exact List.prefix_append front _
      have htext : text <+: front :=
        List.prefix_of_prefix_length_le (List.prefix_append text _) hfront hle
      have hlength := congrArg List.length hsplit
      simp only [List.length_append] at hlength
      obtain rfl := htext.eq_of_length (by omega)
      rw [dropLast_closing, List.prefix_append_right_inj]
      exact List.prefix_append [']'] _
    exact h.trans hprefix.isInfix
  · rintro ⟨front, behind, hfound, hlt⟩
    rw [← Bool.not_eq_true]
    intro hholds
    have hwhole := splitAtFirst?_closing hholds []
    rw [List.append_nil, hfound] at hwhole
    obtain ⟨rfl, -⟩ := Prod.mk.inj (Option.some.inj hwhole)
    exact Nat.lt_irrefl _ hlt

theorem drop_bracket (level : Nat) (text : List Char) :
    (bracket level text).drop (opening level).length = text ++ closing level := by
  rw [bracket, List.append_assoc, List.drop_left]

/-- The level of a safe long string is the one at which a search from zero on ends, however long it
would take.  The text is at least as long as the levels below are together, each of which would be
closed before the end of the text, and its own level is closed at the end. -/
theorem level_quote_safe (text : String) :
    ∃ n, (readOpening? (quote true text).toList).map (·.1) = some n ∧
      EndsAt (fun level => !occurs (closing level) (text.toList ++ [']'])) 0 n ∧
      n * (n + 1) / 2 ≤ text.length ∧
      splitAtFirst? (closing n) ((bracket n text.toList).drop (opening n).length) =
        some (text.toList, []) ∧
      ∀ level < n, ∃ front behind,
        splitAtFirst? (closing level) ((bracket level text.toList).drop (opening level).length) =
          some (front, behind) ∧ front.length < text.length := by
  have hholds := holds_lowestLevel text.toList
  have hbelow : ∀ level < lowestLevel text.toList, holds level text.toList = false :=
    fun level hlevel => not_of_lt_leastFrom (Nat.zero_le _) hlevel
  refine ⟨lowestLevel text.toList, ?_, endsAt_leastFrom hholds, ?_, ?_, fun level hlevel => ?_⟩
  · rw [quote, String.toList_ofList, if_pos rfl, safe, bracket, List.append_assoc,
      readOpening?_append]
    rfl
  · refine mul_succ_le_of_closings fun level hlevel => ?_
    have hclosed := hbelow level hlevel
    rwa [holds, Bool.not_eq_false', occurs_iff_infix] at hclosed
  · rw [drop_bracket]
    simpa using splitAtFirst?_closing hholds []
  · rw [drop_bracket]
    exact holds_eq_false_iff.1 (hbelow level hlevel)

end LuauLayout.LongString
