import LuauLayout.Proofs.UnterminatedTexts
import LuauLayout.Proofs.WrittenNumbers

/-! What safe texts change.  The items are placed as they are without them, so that the two scripts have
the same statements but for the form of their long strings, and the warnings differ by those of
unterminated texts.  A line of a text is never shorter in the safe form, and it is longer if the text
closes its brackets or begins with a line break; so no change is made up for by another one, and the
scripts are the same only if there is no such text. -/

namespace LuauLayout

/-! ### The safe form of a text -/

namespace LongString

/-- The text holds a closing bracket, or ends in the first half of one, or begins with a line break. -/
def IsDelicate (text : List Char) : Prop :=
  [']', ']'] <:+: text ∨ [']'] <:+ text ∨ ['\n'] <+: text ∨ ['\r'] <+: text

theorem holds_zero_eq_false_iff {text : List Char} :
    holds 0 text = false ↔ [']', ']'] <:+: text ∨ [']'] <:+ text := by
  have hsuffix : closing 0 <:+ text ++ [']'] ↔ [']'] <:+ text := by
    have hclosing : closing 0 = [']'] ++ [']'] := rfl
    rw [hclosing, List.suffix_concat_iff, or_iff_right (by simp)]
    simp only [List.append_left_inj, exists_eq_left']
  rw [holds, Bool.not_eq_false', occurs_iff_infix, List.infix_concat_iff, hsuffix, or_comm]
  rfl

theorem startsWithBreak_iff {text : List Char} :
    startsWithBreak text = true ↔ ['\n'] <+: text ∨ ['\r'] <+: text := by
  cases text with
  | nil => simp [startsWithBreak]
  | cons c rest =>
    simp only [startsWithBreak, Bool.or_eq_true, beq_iff_eq, List.cons_prefix_cons,
      List.nil_prefix, and_true]
    exact or_congr eq_comm eq_comm

theorem isDelicate_iff {text : List Char} :
    IsDelicate text ↔ holds 0 text = false ∨ startsWithBreak text = true := by
  rw [IsDelicate, holds_zero_eq_false_iff, startsWithBreak_iff, or_assoc]

theorem IsDelicate.ne_nil {text : List Char} (h : IsDelicate text) : text ≠ [] := by
  rintro rfl
  simp [IsDelicate] at h

/-- A text that level zero holds is given level zero. -/
theorem lowestLevel_eq_zero_iff {text : List Char} :
    lowestLevel text = 0 ↔ holds 0 text = true := by
  constructor
  · intro h
    exact h ▸ holds_lowestLevel text
  · intro h
    by_contra hne
    have hzero : holds 0 text = false :=
      not_of_lt_leastFrom (Nat.le_refl 0) (Nat.pos_of_ne_zero hne)
    exact Bool.false_ne_true (hzero.symm.trans h)

theorem quote_safe_of_not_isDelicate {text : String} (h : ¬IsDelicate text.toList) :
    quote true text = quote false text := by
  rw [isDelicate_iff, not_or, Bool.not_eq_false] at h
  rw [quote, quote, if_pos rfl, if_neg Bool.false_ne_true, safe, lowestLevel_eq_zero_iff.2 h.1,
    if_neg h.2]

theorem length_bracket (level : Nat) (text : List Char) :
    (bracket level text).length = text.length + 2 * (level + 2) := by
  simp only [bracket, opening, closing, List.length_append, List.length_cons, List.length_nil,
    List.length_replicate]
  omega

/-- The safe form is longer by two characters for each level, and by the break that is added. -/
theorem length_quote_lt {text : String} (h : IsDelicate text.toList) :
    (quote false text).length < (quote true text).length := by
  rw [quote, quote, if_pos rfl, if_neg Bool.false_ne_true, String.length_ofList,
    String.length_ofList, safe, length_bracket, length_bracket]
  rcases isDelicate_iff.1 h with hclosed | hbreak
  · have hlevel : lowestLevel text.toList ≠ 0 := by
      rw [Ne, lowestLevel_eq_zero_iff, hclosed]
      exact Bool.false_ne_true
    split
    · rw [List.length_cons]
      omega
    · omega
  · rw [if_pos hbreak, List.length_cons]
    omega

end LongString

/-! ### The lines -/

/-- Two lines are the same, or they set a text, in the plain form and in the safe one. -/
def SameButText (line line' : String) : Prop :=
  line = line' ∨ ∃ name text, line = name ++ ".Text = " ++ LongString.quote false text ∧
    line' = name ++ ".Text = " ++ LongString.quote true text

theorem SameButText.eq_or_length_lt {line line' : String} (h : SameButText line line') :
    line = line' ∨ line.length < line'.length := by
  obtain rfl | ⟨name, text, rfl, rfl⟩ := h
  · exact Or.inl rfl
  · by_cases hdelicate : LongString.IsDelicate text.toList
    · refine Or.inr ?_
      rw [String.length_append, String.length_append _ (LongString.quote true text)]
      exact Nat.add_lt_add_left (LongString.length_quote_lt hdelicate) _
    · exact Or.inl (by rw [LongString.quote_safe_of_not_isDelicate hdelicate])

/-- Lines that are not shorter make no shorter text, and a text of the same length only if they are the
same. -/
theorem length_intercalate_le (separator : String) {lines lines' : List String}
    (h : List.Forall₂ (fun line line' => line = line' ∨ line.length < line'.length) lines lines') :
    (separator.intercalate lines).length ≤ (separator.intercalate lines').length ∧
      ((separator.intercalate lines').length ≤ (separator.intercalate lines).length →
        lines = lines') := by
  induction h with
  | nil => exact ⟨Nat.le_refl _, fun _ => rfl⟩
  | @cons line line' rest rest' hline hrest ih =>
    have hle : line.length ≤ line'.length := by
      rcases hline with rfl | hlt
      · exact Nat.le_refl _
      · exact Nat.le_of_lt hlt
    have hlines : line'.length ≤ line.length → rest = rest' → line :: rest = line' :: rest' := by
      rintro hge rfl
      rw [hline.resolve_right (Nat.not_lt.2 hge)]
    cases hrest with
    | nil =>
      rw [String.intercalate_singleton, String.intercalate_singleton]
      exact ⟨hle, fun hge => hlines hge rfl⟩
    | cons _ _ =>
      simp only [String.intercalate_cons_cons, String.length_append]
      exact ⟨by omega, fun hge => hlines (by omega) (ih.2 (by omega))⟩

theorem intercalate_eq_iff {separator : String} {lines lines' : List String}
    (h : List.Forall₂ SameButText lines lines') :
    separator.intercalate lines = separator.intercalate lines' ↔ lines = lines' := by
  have hlength := length_intercalate_le separator
    (h.imp fun _ _ => SameButText.eq_or_length_lt)
  exact ⟨fun heq => hlength.2 (heq ▸ Nat.le_refl _), fun heq => by rw [heq]⟩

/-! ### The statements -/

/-- The expression with its text in the safe form. -/
def Expression.secured : Expression → Expression
  | long _ s => long true s
  | value => value

/-- The statement with its text in the safe form. -/
def Statement.secured : Statement → Statement
  | assign name property value => assign name property value.secured
  | s => s

theorem Statement.declares?_secured (s : Statement) : s.secured.declares? = s.declares? := by
  cases s <;> rfl

theorem Statement.secured_of_mem {statements : List Statement}
    (h : statements.map secured = statements) {s : Statement} (hs : s ∈ statements) :
    s.secured = s :=
  List.map_inj_left.1 (h.trans (List.map_id' statements).symm) s hs

theorem preamble_secured : preamble.map Statement.secured = preamble := rfl

namespace Item

variable (item : Item) (identifier : String)

theorem properties_secured :
    item.properties true = (item.properties false).map fun p => (p.1, p.2.secured) := by
  rw [properties, properties, optionalProperties, optionalProperties]
  cases given item.fill <;> cases item.opacity <;> cases given item.text <;>
    cases given item.textColor <;> cases item.fontSize <;> cases given item.imageId <;> rfl

theorem shapeStatements_secured :
    (item.shapeStatements identifier).map Statement.secured = item.shapeStatements identifier := by
  rw [shapeStatements]
  split
  · rfl
  · split <;> rfl

theorem block_secured :
    item.block identifier true = (item.block identifier false).map Statement.secured := by
  rw [block, block, List.cons_append, List.cons_append, List.cons_append, List.cons_append,
    List.map_cons, List.map_cons, List.map_append, shapeStatements_secured, properties_secured,
    List.map_map, List.map_map]
  rfl

variable {item identifier}

/-- The one statement of a block that the safe form may change is that of its text. -/
theorem secured_of_mem_block {s : Statement} (h : s ∈ item.block identifier false) :
    s.secured = s ∨ ∃ text, given item.text = some text ∧
      s = .assign identifier "Text" (.long false text) := by
  rw [block, List.cons_append, List.cons_append, List.mem_cons, List.mem_cons, List.mem_append,
    List.mem_map] at h
  rcases h with rfl | rfl | ⟨p, hp, rfl⟩ | hs
  · exact Or.inl rfl
  · exact Or.inl rfl
  · simp only [properties, optionalProperties, List.mem_append, List.mem_cons, List.not_mem_nil,
      or_false, Option.mem_toList, Option.map_eq_some_iff] at hp
    rcases hp with ((rfl | rfl) | ((((⟨s, -, rfl⟩ | ⟨n, -, rfl⟩) | ⟨text, htext, rfl⟩) |
      ⟨s, -, rfl⟩) | ⟨n, -, rfl⟩) | ⟨s, -, rfl⟩) | rfl
    case inl.inr.inl.inl.inl.inr => exact Or.inr ⟨text, htext, rfl⟩
    all_goals exact Or.inl rfl
  · exact Or.inl (Statement.secured_of_mem (item.shapeStatements_secured identifier) hs)

end Item

/-! ### The exports -/

theorem place_safeText (isUnique : Bool) (taken : List String) (items : List (Item × Nat)) :
    place ⟨isUnique, true⟩ taken items = place ⟨isUnique, false⟩ taken items := by
  induction items generalizing taken with
  | nil => rfl
  | cons entry rest ih =>
    obtain ⟨item, index⟩ := entry
    by_cases hh : item.isHelper = true
    · rw [place_cons_of_isHelper hh rfl, place_cons_of_isHelper hh rfl, ih]
    · rw [place_cons_of_not_isHelper hh rfl, place_cons_of_not_isHelper hh rfl, ih]
      rfl

/-- Safe texts take the warnings of unterminated texts away, and no others. -/
theorem Placed.warnings_safeText (p : Placed) (isUnique : Bool) (names : List String) :
    p.warnings ⟨isUnique, true⟩ names =
      (p.warnings ⟨isUnique, false⟩ names).filter (·.kind != .unterminatedText) := by
  by_cases h : p.isWritten = true
  · have hduplicate : p.duplicateWarnings ⟨isUnique, true⟩ names =
        p.duplicateWarnings ⟨isUnique, false⟩ names := rfl
    have htext : p.textWarnings ⟨isUnique, true⟩ = [] := rfl
    have hkept : (p.warnings ⟨isUnique, false⟩ names).filter (·.kind != .unterminatedText) =
        p.duplicateWarnings ⟨isUnique, false⟩ names ++ [] :=
      filter_kind_of_isWritten h (· != .unterminatedText)
    rw [hkept, warnings_of_isWritten h, hduplicate, htext]
  · rw [warnings, warnings, if_neg h, if_neg h]
    rfl

namespace Layout

variable (layout : Layout) (isUnique : Bool)

theorem placed_safeText : layout.placed ⟨isUnique, true⟩ = layout.placed ⟨isUnique, false⟩ :=
  place_safeText isUnique _ _

theorem statements_secured :
    layout.statements ⟨isUnique, true⟩ =
      (layout.statements ⟨isUnique, false⟩).map Statement.secured := by
  rw [statements, statements, placed_safeText, List.map_append, preamble_secured,
    List.map_flatMap]
  exact congrArg _ (List.flatMap_congr fun p _ => p.item.block_secured p.identifier)

variable {layout isUnique}

theorem sameButText_secured {s : Statement} (h : s ∈ layout.statements ⟨isUnique, false⟩) :
    SameButText s.render s.secured.render := by
  rcases List.mem_append.1 h with hpreamble | hblock
  · exact Or.inl (by rw [Statement.secured_of_mem preamble_secured hpreamble])
  · obtain ⟨p, -, hs⟩ := List.mem_flatMap.1 hblock
    rcases Item.secured_of_mem_block hs with hsame | ⟨text, -, rfl⟩
    · exact Or.inl (by rw [hsame])
    · exact Or.inr ⟨p.identifier, text, Statement.render_text _ _ _, Statement.render_text _ _ _⟩

/-- All lines are the same exactly if no written item has a delicate text. -/
theorem secured_render_eq_iff :
    (∀ s ∈ layout.statements ⟨isUnique, false⟩, s.render = s.secured.render) ↔
      ∀ item ∈ layout.shown, ∀ text, item.text = some text →
        ¬LongString.IsDelicate text.toList := by
  constructor
  · intro hsame item hitem text htext hdelicate
    have hgiven : given item.text = some text := by
      have hne : text ≠ "" := fun heq => hdelicate.ne_nil (heq ▸ rfl)
      rw [htext, given, Option.filter_some, if_pos (by simpa using hne)]
    rw [← layout.map_item_written ⟨isUnique, false⟩] at hitem
    obtain ⟨p, hp, rfl⟩ := List.mem_map.1 hitem
    have hlines : p.identifier ++ ".Text = " ++ LongString.quote false text =
        p.identifier ++ ".Text = " ++ LongString.quote true text := by
      obtain ⟨hplaced, hwritten⟩ := List.mem_filter.1 hp
      have heq := hsame _ (text_mem_statements hplaced hwritten hgiven)
      rwa [Statement.secured, Expression.secured, Statement.render_text,
        Statement.render_text] at heq
    have hlength := congrArg String.length hlines
    rw [String.length_append, String.length_append _ (LongString.quote true text)] at hlength
    have hlt := LongString.length_quote_lt hdelicate
    omega
  · intro hnone s hs
    rcases List.mem_append.1 hs with hpreamble | hblock
    · rw [Statement.secured_of_mem preamble_secured hpreamble]
    · obtain ⟨p, hp, hs⟩ := List.mem_flatMap.1 hblock
      rcases Item.secured_of_mem_block hs with hsame | ⟨text, htext, rfl⟩
      · rw [hsame]
      · have hitem : p.item ∈ layout.shown := by
          rw [← layout.map_item_written ⟨isUnique, false⟩]
          exact List.mem_map_of_mem hp
        have hplain := hnone p.item hitem text (Item.eq_some_of_given_eq_some htext)
        rw [Statement.secured, Expression.secured, Statement.render_text, Statement.render_text,
          LongString.quote_safe_of_not_isDelicate hplain]

theorem forall₂_lines :
    List.Forall₂ SameButText ((layout.statements ⟨isUnique, false⟩).map Statement.render)
      ((layout.statements ⟨isUnique, true⟩).map Statement.render) := by
  rw [statements_secured, List.map_map, List.forall₂_map_left_iff, List.forall₂_map_right_iff,
    List.forall₂_same]
  exact fun s hs => sameButText_secured hs

/-- Safe texts leave the number of blocks, the identifiers and all lines as they are, except for the
lines of texts, and take the warnings of unterminated texts away.  The scripts are the same exactly if
no written item has a text that holds two closing brackets in a row, ends in one, or begins with a line
feed or a carriage return. -/
theorem toScript_safeText (layout : Layout) (isUnique : Bool) :
    let plain := layout.toScript ⟨isUnique, false⟩
    let safe := layout.toScript ⟨isUnique, true⟩
    safe.itemCount = plain.itemCount ∧
      (layout.placed ⟨isUnique, true⟩).map (·.identifier) =
        (layout.placed ⟨isUnique, false⟩).map (·.identifier) ∧
      (layout.statements ⟨isUnique, true⟩).filterMap Statement.declares? =
        (layout.statements ⟨isUnique, false⟩).filterMap Statement.declares? ∧
      safe.warnings = plain.warnings.filter (·.kind != .unterminatedText) ∧
      List.Forall₂ SameButText ((layout.statements ⟨isUnique, false⟩).map Statement.render)
        ((layout.statements ⟨isUnique, true⟩).map Statement.render) ∧
      (plain.script = safe.script ↔
        ∀ item ∈ layout.items, item.exported = true → item.isHelper = false →
          ∀ text, item.text = some text →
            ¬([']', ']'] <:+: text.toList ∨ [']'] <:+ text.toList ∨ ['\n'] <+: text.toList ∨
              ['\r'] <+: text.toList)) ∧
      (layout.toExport ⟨isUnique, true⟩ = .ok safe ↔
        layout.toExport ⟨isUnique, false⟩ = .ok plain) := by
  intro plain safe
  have hplaced := layout.placed_safeText isUnique
  refine ⟨?_, by rw [hplaced], ?_, ?_, forall₂_lines, ?_, ?_⟩
  · exact congrArg (List.countP (·.isWritten)) hplaced
  · rw [statements_secured, List.filterMap_map]
    exact congrArg (List.filterMap · _) (funext Statement.declares?_secured)
  · show (layout.placed _).flatMap _ = ((layout.placed _).flatMap _).filter _
    rw [hplaced, List.filter_flatMap]
    exact List.flatMap_congr fun p _ => p.warnings_safeText isUnique _
  · have hscripts : plain.script = safe.script ↔
        ∀ s ∈ layout.statements ⟨isUnique, false⟩, s.render = s.secured.render := by
      show renderScript (layout.statements ⟨isUnique, false⟩) =
        renderScript (layout.statements ⟨isUnique, true⟩) ↔ _
      rw [renderScript, renderScript, intercalate_eq_iff forall₂_lines, statements_secured,
        List.map_map, List.map_inj_left]
      rfl
    rw [hscripts, secured_render_eq_iff]
    simp only [shown, List.mem_filter, Bool.and_eq_true, Bool.not_eq_true', and_imp,
      LongString.IsDelicate]
  · rw [toExport_eq_ok_iff, toExport_eq_ok_iff]
    simp only [and_true, plain, safe]

end Layout

end LuauLayout
