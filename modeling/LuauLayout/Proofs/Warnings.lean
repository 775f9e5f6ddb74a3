import LuauLayout.Proofs.Placed

/-! The warnings of an export, by the items that they are about.  The warnings of a number are those
of the item placed under it: one for its locals and one for its text at most, or one that it is
skipped. -/

namespace LuauLayout

namespace Placed

variable {options : ExportOptions} {names : List String} {p : Placed}

theorem kind_of_mem_duplicate? {cause : Warning.Cause} (h : cause ∈ p.duplicate? options names) :
    cause.kind = .duplicateName := by
  rw [duplicate?] at h
  split at h
  · split at h
    · simp at h
    · obtain rfl : Warning.Cause.renamed p.natural = cause := by simpa using h
      rfl
  · obtain ⟨name, -, rfl⟩ := Option.map_eq_some_iff.1 h
    rfl

/-- An item that is written is warned about as a duplicate, if there is a cause for it, and for its text;
any other is skipped. -/
theorem mem_warnings_iff {w : Warning} :
    w ∈ p.warnings options names ↔ (w.itemIndex = p.index ∧ w.identifier = p.identifier) ∧
      (p.isWritten = true ∧ (p.duplicate? options names = some w.cause ∨
        p.isUnterminated options = true ∧ w.cause = .unterminated) ∨
      p.isWritten = false ∧ w.cause = .skipped) := by
  have hcause : ∀ cause, (cause ∈ if p.isWritten then (p.duplicate? options names).toList ++
        (if p.isUnterminated options then [.unterminated] else []) else [Warning.Cause.skipped]) ↔
      p.isWritten = true ∧ (p.duplicate? options names = some cause ∨
        p.isUnterminated options = true ∧ cause = .unterminated) ∨
      p.isWritten = false ∧ cause = .skipped := by
    intro cause
    cases p.isWritten <;> cases p.isUnterminated options <;> simp
  rw [← hcause, warnings, List.mem_map]
  constructor
  · rintro ⟨cause, h, rfl⟩
    exact ⟨⟨rfl, rfl⟩, h⟩
  · obtain ⟨index, identifier, cause⟩ := w
    rintro ⟨⟨rfl, rfl⟩, h⟩
    exact ⟨cause, h, rfl⟩

theorem exists_unterminated_iff :
    (∃ w ∈ p.warnings options names, w.kind = .unterminatedText) ↔
      p.isWritten = true ∧ p.isUnterminated options = true := by
  constructor
  · rintro ⟨w, hw, hkind⟩
    have hkind : w.cause.kind = .unterminatedText := hkind
    rcases (mem_warnings_iff.1 hw).2 with ⟨hwritten, hduplicate | ⟨h, -⟩⟩ | ⟨-, hskipped⟩
    · rw [kind_of_mem_duplicate? hduplicate] at hkind
      exact absurd hkind (by decide)
    · exact ⟨hwritten, h⟩
    · rw [hskipped] at hkind
      exact absurd hkind (by decide)
  · rintro ⟨hwritten, h⟩
    exact ⟨⟨p.index, p.identifier, .unterminated⟩,
      mem_warnings_iff.2 ⟨⟨rfl, rfl⟩, Or.inl ⟨hwritten, Or.inr ⟨h, rfl⟩⟩⟩, rfl⟩

theorem exists_duplicate_iff :
    (∃ w ∈ p.warnings options names, w.kind = .duplicateName) ↔
      p.isWritten = true ∧ p.duplicate? options names ≠ none := by
  constructor
  · rintro ⟨w, hw, hkind⟩
    have hkind : w.cause.kind = .duplicateName := hkind
    rcases (mem_warnings_iff.1 hw).2 with ⟨hwritten, hduplicate | ⟨-, hcause⟩⟩ | ⟨-, hcause⟩
    · exact ⟨hwritten, by simp [hduplicate]⟩
    all_goals
      rw [hcause] at hkind
      exact absurd hkind (by decide)
  · rintro ⟨hwritten, hduplicate⟩
    obtain ⟨cause, hcause⟩ := Option.isSome_iff_exists.1 (Option.isSome_iff_ne_none.2 hduplicate)
    exact ⟨⟨p.index, p.identifier, cause⟩,
      mem_warnings_iff.2 ⟨⟨rfl, rfl⟩, Or.inl ⟨hwritten, Or.inl hcause⟩⟩,
      kind_of_mem_duplicate? hcause⟩

/-! ### The warnings of an item -/

/-- What a written item is warned about for its locals. -/
def duplicateWarnings (options : ExportOptions) (names : List String) (p : Placed) : List Warning :=
  (p.duplicate? options names).toList.map fun cause => ⟨p.index, p.identifier, cause⟩

/-- What a written item is warned about for its text. -/
def textWarnings (options : ExportOptions) (p : Placed) : List Warning :=
  if p.isUnterminated options then [⟨p.index, p.identifier, .unterminated⟩] else []

theorem warnings_of_isWritten (h : p.isWritten = true) :
    p.warnings options names = p.duplicateWarnings options names ++ p.textWarnings options := by
  rw [warnings, if_pos h, List.map_append, duplicateWarnings, textWarnings]
  split <;> rfl

theorem warnings_of_not_isWritten (h : ¬p.isWritten = true) :
    p.warnings options names = [⟨p.index, p.identifier, .skipped⟩] := by
  rw [warnings, if_neg h]
  rfl

theorem kind_of_mem_duplicateWarnings {w : Warning} (h : w ∈ p.duplicateWarnings options names) :
    w.kind = .duplicateName := by
  obtain ⟨cause, hcause, rfl⟩ := List.mem_map.1 h
  exact kind_of_mem_duplicate? (Option.mem_toList.1 hcause)

theorem kind_of_mem_textWarnings {w : Warning} (h : w ∈ p.textWarnings options) :
    w.kind = .unterminatedText := by
  rw [textWarnings] at h
  split at h
  · rw [List.mem_singleton.1 h]
    rfl
  · cases h

/-- Which warnings of a written item are kept depends on what is kept of the two kinds. -/
theorem filter_kind_of_isWritten (h : p.isWritten = true) (keeps : Warning.Kind → Bool) :
    (p.warnings options names).filter (fun w => keeps w.kind) =
      (if keeps .duplicateName then p.duplicateWarnings options names else []) ++
        if keeps .unterminatedText then p.textWarnings options else [] := by
  have hone : ∀ {ws : List Warning} {kind : Warning.Kind}, (∀ w ∈ ws, w.kind = kind) →
      ws.filter (fun w => keeps w.kind) = if keeps kind then ws else [] := by
    intro ws kind hkind
    split
    · rename_i hkeeps
      exact List.filter_eq_self.2 fun w hw => by rwa [hkind w hw]
    · rename_i hdrops
      exact List.filter_eq_nil_iff.2 fun w hw => by rwa [hkind w hw]
  rw [warnings_of_isWritten h, List.filter_append, hone fun w => kind_of_mem_duplicateWarnings,
    hone fun w => kind_of_mem_textWarnings]

theorem filter_kind_duplicate (h : p.isWritten = true) :
    (p.warnings options names).filter (·.kind == .duplicateName) =
      p.duplicateWarnings options names :=
  (filter_kind_of_isWritten h (· == .duplicateName)).trans (List.append_nil _)

theorem filter_kind_unterminated (h : p.isWritten = true) :
    (p.warnings options names).filter (·.kind == .unterminatedText) = p.textWarnings options :=
  filter_kind_of_isWritten h (· == .unterminatedText)

theorem filter_kind_ne_duplicate_of_isWritten (h : p.isWritten = true) :
    (p.warnings options names).filter (·.kind != .duplicateName) = p.textWarnings options :=
  filter_kind_of_isWritten h (· != .duplicateName)

/-- Only the warnings of duplicates depend on the locals of the script. -/
theorem filter_kind_ne_duplicate (p : Placed) (names names' : List String) :
    (p.warnings options names).filter (·.kind != .duplicateName) =
      (p.warnings options names').filter (·.kind != .duplicateName) := by
  by_cases h : p.isWritten = true
  · rw [filter_kind_ne_duplicate_of_isWritten h, filter_kind_ne_duplicate_of_isWritten h]
  · rw [warnings_of_not_isWritten h, warnings_of_not_isWritten h]

theorem duplicate?_ne_none_iff_of_plain (hu : ¬options.uniqueNames = true) :
    p.duplicate? options names ≠ none ↔ ∃ name ∈ p.locals, 1 < names.count name := by
  rw [duplicate?, if_neg hu, ← Option.isSome_iff_ne_none, Option.isSome_map, List.find?_isSome]
  simp

theorem duplicate?_ne_none_iff_of_unique (hu : options.uniqueNames = true) :
    p.duplicate? options names ≠ none ↔ p.identifier ≠ p.natural := by
  rw [duplicate?, if_pos hu]
  split <;> simp_all

/-- Without unique names, an item of the name of the root is warned about. -/
theorem exists_duplicate_of_identifier_eq_rootName (placed : List Placed)
    (hu : ¬options.uniqueNames = true) (hp : p ∈ placed) (hwritten : p.isWritten = true)
    (hid : p.identifier = rootName) :
    ∃ w ∈ p.warnings options (scriptLocals placed), w.kind = .duplicateName := by
  have hself : p.identifier ∈ p.locals := p.item.self_mem_locals p.identifier
  have hlater : rootName ∈ (placed.filter (·.isWritten)).flatMap (·.locals) :=
    List.mem_flatMap.2 ⟨p, List.mem_filter.2 ⟨hp, hwritten⟩, hid ▸ hself⟩
  have hcount : 1 < (scriptLocals placed).count rootName := by
    have := List.count_pos_iff.2 hlater
    rw [scriptLocals, List.count_cons_self]
    omega
  exact exists_duplicate_iff.2 ⟨hwritten,
    (duplicate?_ne_none_iff_of_plain hu).2 ⟨p.identifier, hself, hid ▸ hcount⟩⟩

end Placed

/-- The warnings of one kind about the item of a number. -/
def Export.warningsOf (e : Export) (kind : Warning.Kind) (index : Nat) : List Warning :=
  e.warnings.filter fun w => w.itemIndex == index && w.kind == kind

namespace Layout

/-- The warnings about a number are those of the item placed under it. -/
theorem filter_itemIndex_warnings {layout : Layout} {options : ExportOptions} {p : Placed}
    (hp : p ∈ layout.placed options) :
    (layout.toScript options).warnings.filter (·.itemIndex == p.index) =
      p.warnings options (scriptLocals (layout.placed options)) := by
  generalize hnames : scriptLocals (layout.placed options) = names
  obtain ⟨front, behind, hsplit⟩ := List.append_of_mem hp
  have hpairwise := layout.pairwise_index_placed options
  rw [hsplit, List.pairwise_append, List.pairwise_cons] at hpairwise
  obtain ⟨-, ⟨hbehind, -⟩, hfront⟩ := hpairwise
  have hindex : ∀ q : Placed, ∀ w ∈ q.warnings options names, w.itemIndex = q.index :=
    fun q w hw => (Placed.mem_warnings_iff.1 hw).1.1
  have hself : (p.warnings options names).filter (·.itemIndex == p.index) =
      p.warnings options names :=
    List.filter_eq_self.2 fun w hw => by simp [hindex p w hw]
  have hothers : ∀ part : List Placed, (∀ q ∈ part, q.index ≠ p.index) →
      part.flatMap (fun q => (q.warnings options names).filter (·.itemIndex == p.index)) = [] := by
    intro part hne
    refine List.flatMap_eq_nil_iff.2 fun q hq => List.filter_eq_nil_iff.2 fun w hw => ?_
    simp [hindex q w hw, hne q hq]
  have hwarnings : (layout.toScript options).warnings =
      (layout.placed options).flatMap (·.warnings options names) := by
    rw [← hnames]
    rfl
  rw [hwarnings, List.filter_flatMap, hsplit, List.flatMap_append, List.flatMap_cons, hself,
    hothers front fun q hq => Nat.ne_of_lt (hfront q hq p List.mem_cons_self),
    hothers behind fun q hq => Nat.ne_of_gt (hbehind q hq), List.nil_append, List.append_nil]

theorem warningsOf_placed {layout : Layout} {options : ExportOptions} {p : Placed}
    (hp : p ∈ layout.placed options) (kind : Warning.Kind) :
    (layout.toScript options).warningsOf kind p.index =
      (p.warnings options (scriptLocals (layout.placed options))).filter (·.kind == kind) := by
  rw [← filter_itemIndex_warnings hp, List.filter_filter, Export.warningsOf]
  simp only [Bool.and_comm]

theorem exists_kind_iff {layout : Layout} {options : ExportOptions} {kind : Warning.Kind} :
    (∃ w ∈ (layout.toScript options).warnings, w.kind = kind) ↔
      ∃ p ∈ layout.placed options,
        ∃ w ∈ p.warnings options (scriptLocals (layout.placed options)), w.kind = kind := by
  constructor
  · rintro ⟨w, hw, hkind⟩
    obtain ⟨p, hp, hwp⟩ := List.mem_flatMap.1 hw
    exact ⟨p, hp, w, hwp, hkind⟩
  · rintro ⟨p, hp, w, hwp, hkind⟩
    exact ⟨w, List.mem_flatMap.2 ⟨p, hp, hwp⟩, hkind⟩

theorem exists_unterminated_iff {layout : Layout} {options : ExportOptions} :
    (∃ w ∈ (layout.toScript options).warnings, w.kind = .unterminatedText) ↔
      ∃ p ∈ layout.placed options, p.isWritten = true ∧ p.isUnterminated options = true := by
  simp only [exists_kind_iff, Placed.exists_unterminated_iff]

theorem exists_duplicate_iff {layout : Layout} {options : ExportOptions} :
    (∃ w ∈ (layout.toScript options).warnings, w.kind = .duplicateName) ↔
      ∃ p ∈ layout.placed options, p.isWritten = true ∧
        p.duplicate? options (scriptLocals (layout.placed options)) ≠ none := by
  simp only [exists_kind_iff, Placed.exists_duplicate_iff]

end Layout

end LuauLayout
