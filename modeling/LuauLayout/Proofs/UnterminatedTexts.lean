import LuauLayout.Proofs.BracketLevel
import LuauLayout.Proofs.Renaming

/-! Texts as long strings of level zero.  Such a long string reads as its text up to the end, but for a
line break in front, exactly if no closing bracket stands in the text or straddles its end.  This is
what the warning of an unterminated text tells: that the first closing bracket begins before the end of
the text, and something of the long string is left unread.  It does not tell of the line break that is
lost. -/

namespace LuauLayout

namespace LongString

/-- The break that is dropped lies in the text. -/
theorem dropBreak_append (text rest : List Char) :
    dropBreak (text ++ ']' :: rest) = dropBreak text ++ ']' :: rest := by
  fun_cases dropBreak text with
  | case1 text => rfl
  | case2 text => rfl
  | case3 text hline hreturn =>
    cases text with
    | nil => rfl
    | cons c text =>
      rw [List.cons_append, dropBreak]
      · intro behind heq
        exact hline text (by rw [(List.cons.inj heq).1])
      · intro behind heq
        obtain ⟨rfl, htail⟩ := List.cons.inj heq
        cases text with
        | nil => exact absurd (List.cons.inj htail).1 (by decide)
        | cons d text =>
          obtain ⟨rfl, -⟩ := List.cons.inj htail
          exact hreturn text rfl

/-- A line break in front closes nothing. -/
theorem holds_dropBreak (level : Nat) (text : List Char) :
    holds level (dropBreak text) = true ↔ holds level text = true := by
  fun_cases dropBreak text with
  | case1 text => exact (holds_cons_iff (by decide)).symm
  | case2 text => rw [holds_cons_iff (by decide), holds_cons_iff (by decide)]
  | case3 text => rfl

theorem read?_bracket (level : Nat) (text : List Char) :
    read? (bracket level text) =
      splitAtFirst? (closing level) (dropBreak text ++ closing level) := by
  rw [read?, bracket, List.append_assoc, readOpening?_append, Option.bind_some]
  exact congrArg _ (dropBreak_append text _)

theorem toList_quote_plain (text : String) : (quote false text).toList = bracket 0 text.toList :=
  String.toList_ofList

/-- The long string of level zero reads up to its end, as the text less a line break in front, exactly if
the text does not close it. -/
theorem read?_quote_plain_iff {text : String} :
    read? (quote false text).toList = some (dropBreak text.toList, []) ↔
      closesEarly text = false := by
  rw [toList_quote_plain, read?_bracket, splitAtFirst?_eq_some_iff (closing_ne_nil 0), dropLast_closing,
    closesEarly, Bool.not_eq_false', ← holds_dropBreak, holds, Bool.not_eq_true',
    occurs_eq_false_iff]
  simp

/-- It reads as the text itself exactly if moreover no line break is in front. -/
theorem read?_quote_plain_eq_self_iff {text : String} :
    read? (quote false text).toList = some (text.toList, []) ↔
      closesEarly text = false ∧ dropBreak text.toList = text.toList := by
  constructor
  · intro h
    have hbreak : dropBreak text.toList = text.toList := by
      rw [toList_quote_plain, read?_bracket] at h
      have hsplit := eq_append_of_splitAtFirst? h
      rw [List.append_nil] at hsplit
      exact List.append_cancel_right hsplit
    refine ⟨?_, hbreak⟩
    rw [← read?_quote_plain_iff, hbreak]
    exact h
  · rintro ⟨hclosed, hbreak⟩
    rw [← read?_quote_plain_iff, hbreak] at hclosed
    exact hclosed

/-- The first closing bracket begins before the end of the text exactly if something follows it. -/
theorem length_lt_iff_of_splitAtFirst? {level : Nat} {text front behind : List Char}
    (h : splitAtFirst? (closing level) (text ++ closing level) = some (front, behind)) :
    front.length < text.length ↔ behind ≠ [] := by
  have hlength := congrArg List.length (eq_append_of_splitAtFirst? h)
  simp only [List.length_append] at hlength
  rw [← List.length_pos_iff]
  omega

/-- A text closes its long string early exactly if the first closing bracket in the text and the one
behind it begins before the end of the text. -/
theorem closesEarly_iff_split {text : String} :
    closesEarly text = true ↔ ∃ front behind,
      splitAtFirst? (closing 0) (text.toList ++ closing 0) = some (front, behind) ∧
        front.length < text.length := by
  rw [closesEarly, Bool.not_eq_true', holds_eq_false_iff]
  rfl

/-- It does so exactly if a reader leaves some of the long string unread. -/
theorem closesEarly_iff_unread {text : String} :
    closesEarly text = true ↔ ∃ body behind,
      read? (quote false text).toList = some (body, behind) ∧ behind ≠ [] := by
  have hbreak : holds 0 text.toList = false ↔ holds 0 (dropBreak text.toList) = false := by
    rw [← Bool.not_eq_true, ← Bool.not_eq_true, holds_dropBreak]
  rw [closesEarly, Bool.not_eq_true', hbreak, holds_eq_false_iff, toList_quote_plain,
    read?_bracket]
  refine exists_congr fun body => exists_congr fun behind => ?_
  exact and_congr_right length_lt_iff_of_splitAtFirst?

/-- What is dropped is a line break in front, if there is one. -/
theorem dropBreak_eq_self_iff {text : List Char} :
    dropBreak text = text ↔ ¬(['\n'] <+: text ∨ ['\r', '\n'] <+: text) := by
  fun_cases dropBreak text with
  | case1 text => simp
  | case2 text =>
    refine iff_of_false (fun heq => ?_) (not_not_intro (Or.inr ⟨text, rfl⟩))
    have hlength := congrArg List.length heq
    simp only [List.length_cons] at hlength
    omega
  | case3 text hline hreturn =>
    simp only [true_iff, not_or]
    constructor
    · rintro ⟨rest, rfl⟩
      exact hline rest rfl
    · rintro ⟨rest, rfl⟩
      exact hreturn rest rfl

end LongString

theorem Statement.render_text (identifier text : String) (isSafe : Bool) :
    (assign identifier "Text" (.long isSafe text)).render =
      identifier ++ ".Text = " ++ LongString.quote isSafe text := by
  have hproperty : ".Text = " = "." ++ "Text" ++ " = " := by decide
  rw [hproperty, render_assign, Expression.render_long]
  simp only [String.append_assoc]

theorem Item.text_mem_block {item : Item} {text : String} (h : given item.text = some text)
    (identifier : String) (isSafe : Bool) :
    .assign identifier "Text" (.long isSafe text) ∈ item.block identifier isSafe := by
  have hproperty : ("Text", Expression.long isSafe text) ∈ item.properties isSafe := by
    simp [properties, optionalProperties, h]
  rw [block]
  refine List.mem_append_left _ (List.mem_cons_of_mem _ (List.mem_cons_of_mem _ ?_))
  exact List.mem_map_of_mem hproperty

namespace Layout

theorem text_mem_statements {options : ExportOptions} {layout : Layout} {p : Placed}
    (hp : p ∈ layout.placed options) (hwritten : p.isWritten = true) {text : String}
    (htext : given p.item.text = some text) :
    .assign p.identifier "Text" (.long options.safeText text) ∈ layout.statements options :=
  List.mem_append_right _ (List.mem_flatMap.2 ⟨p, List.mem_filter.2 ⟨hp, hwritten⟩,
    Item.text_mem_block htext p.identifier options.safeText⟩)

/-- A written item has a warning of an unterminated text exactly if its text does not end where it
should. -/
theorem unterminatedText_warningsOf_iff {options : ExportOptions} {layout : Layout} {p : Placed}
    (hp : p ∈ layout.placed options) (hwritten : p.isWritten = true) :
    (layout.toScript options).warningsOf .unterminatedText p.index ≠ [] ↔
      p.isUnterminated options = true := by
  rw [warningsOf_placed hp, Placed.filter_kind_unterminated hwritten, Placed.textWarnings]
  simp

/-- Without safe texts, a written item with a text gets a warning of an unterminated text exactly if its
long string does not read up to its end as the text less a line break in front.  So the long string
misreads the text exactly if there is such a warning or the text begins with a line break. -/
theorem unterminatedText_warnings_of_plain (layout : Layout) (isUnique : Bool) {i : Nat} {item : Item}
    {text : String} (hitem : layout.counted[i]? = some item) (hwritten : item.isHelper = false)
    (htext : given item.text = some text) :
    let options : ExportOptions := ⟨isUnique, false⟩
    let literal := LongString.quote false text
    let reported := (layout.toScript options).warningsOf .unterminatedText i
    (∃ identifier, .assign identifier "Text" (.long false text) ∈ layout.statements options ∧
      (Statement.assign identifier "Text" (.long false text)).render =
        identifier ++ ".Text = " ++ literal) ∧
      (reported ≠ [] ↔
        LongString.read? literal.toList ≠ some (LongString.dropBreak text.toList, [])) ∧
      (LongString.read? literal.toList ≠ some (text.toList, []) ↔
        reported ≠ [] ∨ ['\n'] <+: text.toList ∨ ['\r', '\n'] <+: text.toList) := by
  intro options literal reported
  obtain ⟨p, hp, rfl, rfl⟩ := exists_placed hitem options
  have hp_written : p.isWritten = true := by simp [Placed.isWritten, hwritten]
  have hreported : reported ≠ [] ↔ LongString.closesEarly text = true := by
    refine (unterminatedText_warningsOf_iff hp hp_written).trans ?_
    simp [Placed.isUnterminated, htext, options]
  have hmem := text_mem_statements hp hp_written htext
  refine ⟨⟨p.identifier, hmem, Statement.render_text _ _ _⟩, ?_, ?_⟩
  · rw [hreported, Ne, LongString.read?_quote_plain_iff, Bool.not_eq_false]
  · rw [hreported, Ne, LongString.read?_quote_plain_eq_self_iff, LongString.dropBreak_eq_self_iff,
      not_and_or, Bool.not_eq_false, not_not]

/-- A bracket at the end of a text closes its long string early, whatever else the reader drops. -/
theorem unterminatedText_warnings_of_brackets :
    let layout : Layout := ⟨none, [{ text := some "a", exported := false },
      { text := some "\na]", type := some "TextLabel" }]⟩
    let item : Item := { text := some "\na]", type := some "TextLabel" }
    layout.counted[0]? = some item ∧ item.isHelper = false ∧ given item.text = some "\na]" ∧
      (layout.toScript ⟨true, false⟩).warningsOf .unterminatedText 0 ≠ [] ∧
      LongString.read? (LongString.quote false "\na]").toList ≠ some ("\na]".toList, []) := by
  intro layout item
  have hitem : layout.counted[0]? = some item := rfl
  have htext : given item.text = some "\na]" := by decide
  obtain ⟨-, hreported, hmisread⟩ := unterminatedText_warnings_of_plain layout true hitem rfl htext
  have hread : LongString.read? (LongString.quote false "\na]").toList ≠
      some (LongString.dropBreak "\na]".toList, []) := by decide +kernel
  exact ⟨hitem, rfl, htext, hreported.2 hread, hmisread.2 (Or.inl (hreported.2 hread))⟩

/-- Without safe texts, a written item gets a warning of an unterminated text exactly if it has a text
and the first closing bracket in the text and the one behind it begins before the end of the text; that
is, exactly if its long string in the script is closed with some of it left unread.  With safe texts
there is no such warning. -/
theorem unterminatedText_warnings_iff_closed (layout : Layout) (isUnique : Bool) {i : Nat}
    {item : Item} (hitem : layout.counted[i]? = some item) (hwritten : item.isHelper = false) :
    let options : ExportOptions := ⟨isUnique, false⟩
    let reported := (layout.toScript options).warningsOf .unterminatedText i
    (reported ≠ [] ↔ ∃ text, given item.text = some text ∧ ∃ front behind,
      LongString.splitAtFirst? (LongString.closing 0) (text.toList ++ LongString.closing 0) =
        some (front, behind) ∧ front.length < text.length) ∧
      (reported ≠ [] ↔ ∃ text, given item.text = some text ∧ ∃ body behind,
        LongString.read? (LongString.quote false text).toList = some (body, behind) ∧
          behind ≠ []) ∧
      (∀ text, given item.text = some text → ∃ identifier,
        .assign identifier "Text" (.long false text) ∈ layout.statements options ∧
          (Statement.assign identifier "Text" (.long false text)).render =
            identifier ++ ".Text = " ++ LongString.quote false text) ∧
      ∀ w ∈ (layout.toScript ⟨isUnique, true⟩).warnings, w.kind ≠ .unterminatedText := by
  intro options reported
  obtain ⟨p, hp, rfl, rfl⟩ := exists_placed hitem options
  have hp_written : p.isWritten = true := by simp [Placed.isWritten, hwritten]
  have hreported : reported ≠ [] ↔
      ∃ text, given p.item.text = some text ∧ LongString.closesEarly text = true := by
    refine (unterminatedText_warningsOf_iff hp hp_written).trans ?_
    rw [Placed.isUnterminated, ← Option.any_eq_true]
    simp [options]
  refine ⟨?_, ?_, fun text htext => ?_, fun w hw hkind => ?_⟩
  · simp only [hreported, LongString.closesEarly_iff_split]
  · simp only [hreported, LongString.closesEarly_iff_unread]
  · exact ⟨p.identifier, text_mem_statements hp hp_written htext, Statement.render_text _ _ _⟩
  · obtain ⟨q, -, -, hq⟩ := exists_unterminated_iff.1 ⟨w, hw, hkind⟩
    simp [Placed.isUnterminated] at hq

/-- The bracket at the end of a text and the first one behind the text close the long string. -/
theorem unterminatedText_warnings_iff_closed_trailing :
    let layout : Layout := ⟨none, [{ text := some "]]", type := some "Spacer" },
      { text := some "a]", type := some "TextLabel" }]⟩
    let item : Item := { text := some "a]", type := some "TextLabel" }
    layout.counted[1]? = some item ∧ item.isHelper = false ∧
      (layout.toScript ⟨false, false⟩).warningsOf .unterminatedText 1 ≠ [] ∧
      (∃ body behind, LongString.read? (LongString.quote false "a]").toList = some (body, behind) ∧
        behind ≠ []) ∧
      ∀ w ∈ (layout.toScript ⟨false, true⟩).warnings, w.kind ≠ .unterminatedText := by
  intro layout item
  have hitem : layout.counted[1]? = some item := rfl
  have htext : given item.text = some "a]" := by decide
  obtain ⟨hsplit, hunread, -, hsafe⟩ := unterminatedText_warnings_iff_closed layout false hitem rfl
  have hreported := hsplit.2 ⟨"a]", htext, ['a'], [']'], by decide +kernel, by decide⟩
  obtain ⟨text, hsame, hbehind⟩ := hunread.1 hreported
  obtain rfl : text = "a]" := Option.some.inj (hsame.symm.trans htext)
  exact ⟨hitem, rfl, hreported, hbehind, hsafe⟩

/-- The line break in front of a text is lost without a warning. -/
theorem not_reported_leading_break :
    let layout : Layout := ⟨none, [{ text := some "\nhi" }]⟩
    (∃ item, layout.counted[0]? = some item ∧ item.isHelper = false ∧
      given item.text = some "\nhi") ∧
      LongString.read? (LongString.quote false "\nhi").toList = some ("hi".toList, []) ∧
      (layout.toScript ⟨false, false⟩).warnings = [] := by
  decide +kernel

end Layout

end LuauLayout
