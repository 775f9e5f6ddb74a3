import LuauLayout.Proofs.LeastSuffix

/-! The account that the warnings give of a layout.  In the order of the items that are not hidden, each
helper has one warning, that it is skipped, and every other item has a block, one warning of a duplicate
at most and then one of its text at most, under the identifier of the block.  So the blocks and the
helpers that are warned of make up all items that are not hidden. -/

namespace LuauLayout

/-! ### Messages -/

/-- A character of ASCII that is neither a control character nor a line break. -/
def isPlainAscii (c : Char) : Bool := decide (' ' ≤ c) && decide (c ≤ '~')

/-- The text is one line, of printable characters only. -/
def IsOneLine (s : String) : Prop := ∀ c ∈ s.toList, isPlainAscii c = true

theorem isOneLine_of_all {s : String} (h : s.toList.all isPlainAscii = true) : IsOneLine s :=
  List.all_eq_true.1 h

theorem IsOneLine.append {s t : String} (hs : IsOneLine s) (ht : IsOneLine t) : IsOneLine (s ++ t) := by
  intro c hc
  rw [String.toList_append, List.mem_append] at hc
  exact hc.elim (hs c) (ht c)

theorem IsOneLine.enclose {before s after : String} (hbefore : IsOneLine before) (hs : IsOneLine s)
    (hafter : after.toList.all isPlainAscii = true) : IsOneLine (before ++ s ++ after) :=
  (hbefore.append hs).append (isOneLine_of_all hafter)

theorem isPlainAscii_of_bounds {c : Char} {low high : UInt32} (hlow : 32 ≤ low) (hhigh : high ≤ 126)
    (h : low ≤ c.val) (h' : c.val ≤ high) : isPlainAscii c = true := by
  rw [isPlainAscii, Bool.and_eq_true, decide_eq_true_eq, decide_eq_true_eq]
  exact ⟨UInt32.le_trans hlow h, UInt32.le_trans h' hhigh⟩

theorem isPlainAscii_of_isWordChar {c : Char} (h : Identifier.isWordChar c = true) :
    isPlainAscii c = true := by
  rcases Bool.or_eq_true_iff.1 h with halnum | hunderscore
  · rcases Bool.or_eq_true_iff.1 halnum with halpha | hdigit
    · rcases Bool.or_eq_true_iff.1 halpha with hupper | hlower
      · obtain ⟨hlow, hhigh⟩ := of_decide_eq_true hupper
        exact isPlainAscii_of_bounds (by decide) (by decide) hlow hhigh
      · obtain ⟨hlow, hhigh⟩ := Bool.and_eq_true_iff.1 hlower
        exact isPlainAscii_of_bounds (by decide) (by decide) (of_decide_eq_true hlow)
          (of_decide_eq_true hhigh)
    · obtain ⟨hlow, hhigh⟩ := Bool.and_eq_true_iff.1 hdigit
      exact isPlainAscii_of_bounds (by decide) (by decide) (of_decide_eq_true hlow)
        (of_decide_eq_true hhigh)
  · rw [eq_of_beq hunderscore]
    decide

theorem Identifier.IsName.isOneLine {s : String} (h : IsName s) : IsOneLine s :=
  fun c hc => isPlainAscii_of_isWordChar (h.isWord c hc)

theorem isOneLine_repr (n : Nat) : IsOneLine n.repr := fun _ hc =>
  isPlainAscii_of_isWordChar (Identifier.isWordChar_of_isAlphanum
    (Identifier.isAlphanum_of_mem_repr hc))

/-- A message puts identifiers and a number between fixed texts. -/
theorem Placed.isOneLine_message {options : ExportOptions} {names : List String} {p : Placed}
    {w : Warning} (hidentifier : Identifier.IsName p.identifier)
    (hnatural : Identifier.IsName p.natural) (hw : w ∈ p.warnings options names) :
    IsOneLine w.message := by
  obtain ⟨⟨-, hid⟩, hcause⟩ := mem_warnings_iff.1 hw
  have hself : IsOneLine w.identifier := hid ▸ hidentifier.isOneLine
  rw [Warning.message]
  rcases hcause with ⟨-, hduplicate | ⟨-, hcause⟩⟩ | ⟨-, hcause⟩
  · rw [duplicate?] at hduplicate
    split at hduplicate
    · split at hduplicate
      · cases hduplicate
      · rw [← Option.some.inj hduplicate]
        exact ((isOneLine_of_all (by decide)).enclose hnatural.isOneLine (by decide)).enclose
          hself (by decide)
    · obtain ⟨name, hname, hcause⟩ := Option.map_eq_some_iff.1 hduplicate
      have hlocal : Identifier.IsName name :=
        Item.isName_of_mem_locals hidentifier (List.mem_of_find?_eq_some hname)
      rw [← hcause]
      exact ((isOneLine_of_all (by decide)).enclose hlocal.isOneLine (by decide)).enclose
        (isOneLine_repr _) (by decide)
  · rw [hcause]
    exact (isOneLine_of_all (by decide)).enclose hself (by decide)
  · rw [hcause]
    exact (isOneLine_of_all (by decide)).enclose hself (by decide)

/-! ### The warnings of one item -/

theorem Item.isHelper_iff {item : Item} :
    item.isHelper = true ↔
      item.type = some "Spacer" ∨ item.type = some "Group" ∨ item.role = some "layout" := by
  rw [isHelper, Bool.or_eq_true, Option.any_eq_true, beq_iff_eq, helperRole, ← or_assoc]
  refine or_congr_left ?_
  constructor
  · rintro ⟨type, htype, hmem⟩
    have hmem : type = "Group" ∨ type = "Spacer" := by simpa [helperTypes] using hmem
    rw [htype, Option.some.injEq, Option.some.injEq]
    exact hmem.symm
  · rintro (htype | htype)
    · exact ⟨_, htype, by decide⟩
    · exact ⟨_, htype, by decide⟩

namespace Placed

variable {options : ExportOptions} {names : List String} {p : Placed}

/-- A written item is warned of a duplicate at most once, then of its text at most once, and of nothing
else. -/
theorem map_kind_warnings (h : p.isWritten = true) :
    ((p.warnings options names).map (·.kind)).Sublist [.duplicateName, .unterminatedText] := by
  rw [warnings_of_isWritten h, List.map_append]
  have hduplicate : ((p.duplicateWarnings options names).map (·.kind)).Sublist [.duplicateName] := by
    rw [duplicateWarnings]
    cases hcause : p.duplicate? options names with
    | none => exact List.nil_sublist _
    | some cause =>
      have hkind : cause.kind = .duplicateName := kind_of_mem_duplicate? hcause
      exact hkind ▸ List.Sublist.refl _
  have htext : ((p.textWarnings options).map (·.kind)).Sublist [.unterminatedText] := by
    rw [textWarnings]
    split
    · exact List.Sublist.refl _
    · exact List.nil_sublist _
  exact hduplicate.append htext

theorem duplicateName_mem_kinds_iff (h : p.isWritten = true) :
    .duplicateName ∈ (p.warnings options names).map (·.kind) ↔ p.duplicate? options names ≠ none := by
  rw [List.mem_map, exists_duplicate_iff]
  exact and_iff_right h

/-- Skipped items are warned of in their order. -/
theorem filter_kind_skipped (placed : List Placed) (options : ExportOptions) (names : List String) :
    (placed.flatMap (·.warnings options names)).filter (·.kind == .skippedItem) =
      (placed.filter fun p => !p.isWritten).map fun p => ⟨p.index, p.identifier, .skipped⟩ := by
  induction placed with
  | nil => rfl
  | cons p rest ih =>
    rw [List.flatMap_cons, List.filter_append, ih]
    by_cases h : p.isWritten = true
    · have hnone : (p.warnings options names).filter (·.kind == .skippedItem) = [] :=
        filter_kind_of_isWritten h (· == .skippedItem)
      rw [List.filter_cons_of_neg (by simp [h]), hnone, List.nil_append]
    · rw [List.filter_cons_of_pos (by simp [h]), warnings_of_not_isWritten h]
      rfl

end Placed

/-! ### The warnings of a layout -/

namespace Layout

variable {layout : Layout} {options : ExportOptions} {i : Nat} {item : Item}

/-- The blocks of a script, in order. -/
def blocks (layout : Layout) (options : ExportOptions) : List (List Statement) :=
  (layout.written options).map (·.block options.safeText)

theorem statements_eq_flatten (layout : Layout) (options : ExportOptions) :
    layout.statements options = preamble ++ (layout.blocks options).flatten := rfl

theorem length_blocks (layout : Layout) (options : ExportOptions) :
    (layout.blocks options).length = (layout.toScript options).itemCount := by
  rw [blocks, List.length_map, length_written]

/-- The block of an item stands behind those of the items in front of it that are no helpers. -/
theorem getElem?_blocks {p : Placed} (hp : (layout.placed options)[i]? = some p)
    (hwritten : p.isWritten = true) :
    (layout.blocks options)[(layout.counted.take i).countP (!·.isHelper)]? =
      some (p.block options.safeText) := by
  obtain ⟨hi, hp⟩ := List.getElem?_eq_some_iff.1 hp
  have hsplit := List.take_append_drop i (layout.placed options)
  rw [List.drop_eq_getElem_cons hi, hp] at hsplit
  have hcount : (layout.counted.take i).countP (!·.isHelper) =
      (((layout.placed options).take i).filter (·.isWritten)).length := by
    rw [← map_item_placed layout options, ← List.map_take, List.countP_map,
      ← List.countP_eq_length_filter]
    rfl
  have hfilter := congrArg (List.filter (·.isWritten)) hsplit
  rw [List.filter_append, List.filter_cons_of_pos hwritten] at hfilter
  rw [blocks, List.getElem?_map, written, ← hfilter, hcount, List.getElem?_append_right le_rfl,
    Nat.sub_self]
  rfl

theorem pairwise_itemIndex_warnings (layout : Layout) (options : ExportOptions) :
    (layout.toScript options).warnings.Pairwise fun w w' => w.itemIndex ≤ w'.itemIndex := by
  have hindex : ∀ {p : Placed} {w : Warning} {names : List String},
      w ∈ p.warnings options names → w.itemIndex = p.index :=
    fun hw => (Placed.mem_warnings_iff.1 hw).1.1
  apply List.pairwise_flatMap.2
  constructor
  · intro p _
    refine List.pairwise_of_forall_mem_list fun w hw w' hw' => ?_
    rw [hindex hw, hindex hw']
  · refine (layout.pairwise_index_placed options).imp fun hlt w hw w' hw' => ?_
    rw [hindex hw, hindex hw']
    exact hlt.le

/-- The items that are not hidden are those with a block and those that are reported as skipped. -/
theorem itemCount_add_skipped (layout : Layout) (options : ExportOptions) :
    (layout.toScript options).itemCount +
      (layout.toScript options).warnings.countP (·.kind == .skippedItem) =
        layout.counted.length := by
  have hskipped : ((layout.toScript options).warnings.filter (·.kind == .skippedItem)).length =
      (layout.placed options).countP (!·.isWritten) := by
    rw [List.countP_eq_length_filter]
    exact (congrArg List.length (Placed.filter_kind_skipped _ _ _)).trans (List.length_map _)
  rw [List.countP_eq_length_filter, hskipped, ← layout.map_item_placed options, List.length_map]
  rw [List.length_eq_countP_add_countP Placed.isWritten]
  simp only [Bool.not_eq_true, Bool.decide_eq_false]
  rfl

theorem isOneLine_message {w : Warning} (hw : w ∈ (layout.toScript options).warnings) :
    IsOneLine w.message := by
  obtain ⟨p, hp, hw⟩ := List.mem_flatMap.1 hw
  refine Placed.isOneLine_message (isName_identifier hp) ?_ hw
  rw [natural_of_mem_place hp]
  exact Identifier.isName_ofItem _ _ _

theorem itemIndex_lt {w : Warning} (hw : w ∈ (layout.toScript options).warnings) :
    w.itemIndex < layout.counted.length := by
  obtain ⟨p, hp, hw⟩ := List.mem_flatMap.1 hw
  rw [(Placed.mem_warnings_iff.1 hw).1.1]
  have hlt := (List.mem_zipIdx (mem_place hp).1).2.1
  rwa [Nat.zero_add] at hlt

/-- The warnings account for every item that is not hidden: they stand in the order of the items, each
helper is reported as skipped and no other item is, every other item has a block, and what is reported
of it is a duplicate at most once, then its text at most once, under the identifier that the block
declares.  With unique names a duplicate is reported exactly where this is not the identifier of the
name. -/
theorem warnings_account (layout : Layout) (options : ExportOptions) :
    let e := layout.toScript options
    let blocks := layout.blocks options
    e.script = renderScript (preamble ++ blocks.flatten) ∧
      blocks.length = e.itemCount ∧
      e.itemCount = layout.counted.length - e.warnings.countP (·.kind == .skippedItem) ∧
      e.warnings.countP (·.kind == .skippedItem) ≤ layout.counted.length ∧
      e.warnings.Pairwise (fun w w' => w.itemIndex ≤ w'.itemIndex) ∧
      (∀ w ∈ e.warnings, w.itemIndex < layout.counted.length ∧ IsOneLine w.message) ∧
      ∀ i item, layout.counted[i]? = some item →
        let isHelper :=
          item.type = some "Spacer" ∨ item.type = some "Group" ∨ item.role = some "layout"
        let reported := e.warnings.filter (·.itemIndex == i)
        (isHelper → reported.map (·.kind) = [.skippedItem]) ∧
          (¬isHelper → ∃ identifier,
            blocks[(layout.counted.take i).countP (!·.isHelper)]? =
              some (item.block identifier options.safeText) ∧
            (reported.map (·.kind)).Sublist [.duplicateName, .unterminatedText] ∧
            (∀ w ∈ reported, w.identifier = identifier) ∧
            (options.uniqueNames = true → (.duplicateName ∈ reported.map (·.kind) ↔
              identifier ≠ Identifier.ofItem item.name item.type i))) := by
  intro e blocks
  have hcount : e.itemCount + e.warnings.countP (·.kind == .skippedItem) = layout.counted.length :=
    layout.itemCount_add_skipped options
  refine ⟨congrArg renderScript (layout.statements_eq_flatten options), layout.length_blocks options,
    ?_, ?_, layout.pairwise_itemIndex_warnings options,
    fun w hw => ⟨itemIndex_lt hw, isOneLine_message hw⟩, ?_⟩
  · omega
  · omega
  · intro i item hitem isHelper reported
    obtain ⟨p, hp, rfl, rfl⟩ := exists_getElem?_placed hitem options
    have hmem : p ∈ layout.placed options := List.mem_of_getElem? hp
    have hreported : reported = p.warnings options (scriptLocals (layout.placed options)) :=
      filter_itemIndex_warnings hmem
    have hhelper : isHelper ↔ ¬p.isWritten = true := by
      rw [Placed.isWritten, Bool.not_eq_true, Bool.not_eq_false']
      exact Item.isHelper_iff.symm
    rw [hreported]
    constructor
    · intro h
      rw [Placed.warnings_of_not_isWritten (hhelper.1 h)]
      rfl
    · intro h
      have hwritten : p.isWritten = true := not_not.1 (mt hhelper.2 h)
      refine ⟨p.identifier, getElem?_blocks hp hwritten, Placed.map_kind_warnings hwritten,
        fun w hw => (Placed.mem_warnings_iff.1 hw).1.2, fun hu => ?_⟩
      rw [Placed.duplicateName_mem_kinds_iff hwritten,
        Placed.duplicate?_ne_none_iff_of_unique hu, natural_of_mem_place hmem]

/-- A hidden item takes no number and a spacer does, and the second of two items of a name is reported
for its name and for its text. -/
theorem warnings_account_mixed :
    let item : Item := { name := some "A", text := some "]]" }
    let layout : Layout := ⟨none, [{ name := some "A", exported := false },
      { name := some "A", type := some "Spacer" }, { name := some "A" }, item]⟩
    let e := layout.toScript ⟨true, false⟩
    layout.counted[2]? = some item ∧ e.itemCount = 2 ∧
      (e.warnings.filter (·.itemIndex == 0)).map (·.kind) = [.skippedItem] ∧
      (e.warnings.filter (·.itemIndex == 2)).map (·.kind) = [.duplicateName, .unterminatedText] ∧
      ∃ identifier, (layout.blocks ⟨true, false⟩)[1]? = some (item.block identifier false) ∧
        identifier ≠ "A" := by
  intro item layout e
  have hitem : layout.counted[2]? = some item := rfl
  have hkinds : (e.warnings.filter (·.itemIndex == 2)).map (·.kind) =
      [.duplicateName, .unterminatedText] := by decide +kernel
  have hskipped : e.warnings.countP (·.kind == .skippedItem) = 1 := by decide +kernel
  have hnatural : Identifier.ofItem item.name item.type (2 : Nat) = "A" := by decide +kernel
  obtain ⟨-, -, hcount, -, -, -, haccount⟩ := layout.warnings_account ⟨true, false⟩
  obtain ⟨identifier, hblock, -, -, hduplicate⟩ := (haccount 2 item hitem).2 (by decide)
  refine ⟨hitem, ?_, (haccount 0 _ rfl).1 (Or.inl rfl), hkinds, identifier, hblock, ?_⟩
  · rw [hcount, hskipped]
    rfl
  · rw [← hnatural]
    exact (hduplicate rfl).1 (hkinds ▸ List.mem_cons_self)

end Layout

end LuauLayout
