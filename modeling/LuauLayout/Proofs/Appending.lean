import LuauLayout.Proofs.Renaming
import LuauLayout.Proofs.WrittenNumbers

/-! Items behind a layout.  An item is placed by the items in front of it, so items that are added at the
end change no identifier, no number and no block of the others: the script goes on where it ended.
What they can change are warnings of duplicates without unique names, which count the locals of the
whole script. -/

namespace LuauLayout

/-- Placing some items goes on behind others from the locals that these declare and those taken
before. -/
theorem exists_place_append (options : ExportOptions) (taken : List String)
    (front : List (Item × Nat)) :
    ∃ taken', (∀ name, name ∈ taken' ↔
        name ∈ writtenLocals (place options taken front) ∨ name ∈ taken) ∧
      ∀ behind, place options taken (front ++ behind) =
        place options taken front ++ place options taken' behind := by
  induction front generalizing taken with
  | nil => exact ⟨taken, by simp [place, writtenLocals], fun _ => rfl⟩
  | cons entry rest ih =>
    obtain ⟨item, index⟩ := entry
    by_cases hh : item.isHelper = true
    · obtain ⟨taken', hmem, hrest⟩ := ih taken
      refine ⟨taken', fun name => ?_, fun behind => ?_⟩
      · rw [place_cons_of_isHelper hh rfl,
          writtenLocals_cons_of_not_isWritten (by simp [Placed.isWritten, hh]), hmem]
      · rw [List.cons_append, place_cons_of_isHelper hh rfl, place_cons_of_isHelper hh rfl, hrest,
          List.cons_append]
    · generalize hi : chosenIdentifier options taken item
        (Identifier.ofItem item.name item.type index) = identifier
      obtain ⟨taken', hmem, hrest⟩ := ih (item.locals identifier ++ taken)
      refine ⟨taken', fun name => ?_, fun behind => ?_⟩
      · rw [place_cons_of_not_isHelper hh rfl, hi,
          writtenLocals_cons_of_isWritten (by simp [Placed.isWritten, hh]), Placed.locals, hmem,
          List.mem_append, List.mem_append, ← or_assoc, or_comm (a := name ∈ writtenLocals _)]
      · rw [List.cons_append, place_cons_of_not_isHelper hh rfl, place_cons_of_not_isHelper hh rfl,
          hi, hrest, List.cons_append]

theorem exists_renderScript_append {front : List Statement} (hne : front ≠ [])
    (behind : List Statement) :
    ∃ rest, renderScript (front ++ behind) = renderScript front ++ rest := by
  cases behind with
  | nil => exact ⟨"", by rw [List.append_nil, String.append_empty]⟩
  | cons s behind =>
    refine ⟨"\n" ++ renderScript (s :: behind), ?_⟩
    rw [renderScript_append hne (List.cons_ne_nil s behind), String.append_assoc]

/-- With unique names the warnings of an item do not depend on the locals of the script. -/
theorem Placed.warnings_of_uniqueNames {options : ExportOptions} (hu : options.uniqueNames = true)
    (p : Placed) (names names' : List String) :
    p.warnings options names = p.warnings options names' := by
  unfold warnings duplicate?
  rw [if_pos hu, if_pos hu]

namespace Layout

variable {layout : Layout} {options : ExportOptions} {more : List Item} {added : List Placed}

/-- The layout with more items behind its own. -/
def extend (layout : Layout) (more : List Item) : Layout :=
  { layout with items := layout.items ++ more }

/-- The items of a layout are placed as before, and the others behind them. -/
theorem exists_placed_extend (layout : Layout) (more : List Item) (options : ExportOptions) :
    ∃ added, (layout.extend more).placed options = layout.placed options ++ added ∧
      added.map (·.item) = more.filter (·.exported) := by
  obtain ⟨taken', -, happend⟩ := exists_place_append options [rootName] layout.counted.zipIdx
  have hcounted : (layout.extend more).counted = layout.counted ++ more.filter (·.exported) :=
    List.filter_append _ _
  refine ⟨place options taken' ((more.filter (·.exported)).zipIdx (0 + layout.counted.length)),
    ?_, ?_⟩
  · rw [placed, ← counted, hcounted, List.zipIdx_append, happend]
    rfl
  · rw [map_item_place, List.zipIdx_map_fst]

theorem exists_script_extend (h : (layout.extend more).placed options = layout.placed options ++ added) :
    ∃ rest, ((layout.extend more).toScript options).script =
      (layout.toScript options).script ++ rest := by
  have hstatements : (layout.extend more).statements options = layout.statements options ++
      (added.filter (·.isWritten)).flatMap (·.block options.safeText) := by
    rw [statements, h, List.filter_append, List.flatMap_append, ← List.append_assoc, ← statements]
  have hne : layout.statements options ≠ [] := by simp [statements, preamble]
  show ∃ rest, renderScript ((layout.extend more).statements options) = _
  rw [hstatements]
  exact exists_renderScript_append hne _

theorem itemCount_extend (h : (layout.extend more).placed options = layout.placed options ++ added)
    (hadded : added.map (·.item) = more.filter (·.exported)) :
    ((layout.extend more).toScript options).itemCount = (layout.toScript options).itemCount +
      more.countP fun item => item.exported && !item.isHelper := by
  have hwritten : added.countP (·.isWritten) =
      more.countP fun item => item.exported && !item.isHelper := by
    have hitem : added.countP (·.isWritten) =
        (added.map (·.item)).countP fun item => !item.isHelper := by
      rw [List.countP_map]
      rfl
    rw [hitem, hadded, List.countP_filter]
    exact List.countP_congr fun item _ => by rw [Bool.and_comm]
  show ((layout.extend more).placed options).countP (·.isWritten) = _
  rw [h, List.countP_append, hwritten]
  rfl

/-- Where the warnings of single items do not depend on the locals of the script, those of the layout
come first. -/
theorem warnings_extend (h : (layout.extend more).placed options = layout.placed options ++ added)
    (keep : Warning → Bool)
    (hkeep : ∀ (p : Placed) (names names' : List String),
      (p.warnings options names).filter keep = (p.warnings options names').filter keep) :
    (layout.toScript options).warnings.filter keep <+:
      ((layout.extend more).toScript options).warnings.filter keep := by
  have hkept : (layout.placed options).flatMap (fun p =>
      (p.warnings options (scriptLocals ((layout.extend more).placed options))).filter keep) =
        (layout.toScript options).warnings.filter keep := by
    rw [toScript, List.filter_flatMap]
    exact List.flatMap_congr fun p _ => hkeep p _ _
  rw [toScript.eq_def (layout.extend more), List.filter_flatMap, ← hkept, h,
    List.flatMap_append]
  exact List.prefix_append _ _

/-- A layout has an export if it has one with more items behind its own. -/
theorem exists_toExport_of_extend {e : Export} (h : (layout.extend more).toExport options = .ok e) :
    layout.toExport options = .ok (layout.toScript options) := by
  have hshown : layout.shown ⊆ (layout.extend more).shown := by
    have happend : (layout.extend more).shown = layout.shown ++ shown ⟨none, more⟩ :=
      List.filter_append _ _
    rw [happend]
    exact List.subset_append_left _ _
  obtain ⟨hnumbers, -⟩ := toExport_eq_ok_iff.1 h
  exact toExport_eq_ok_iff.2 ⟨fun item hitem => hnumbers item (hshown hitem), rfl⟩

/-- More items behind those of a layout only add to its script.  They add as many blocks as there are
items among them that are neither hidden nor helpers.  With unique names they only add to the warnings
too, and without they do so except for the warnings of duplicates. -/
theorem toScript_extend (layout : Layout) (more : List Item) (options : ExportOptions) :
    let front := layout.toScript options
    let whole := (layout.extend more).toScript options
    (∃ rest, whole.script = front.script ++ rest) ∧
      whole.itemCount =
        front.itemCount + more.countP (fun item => item.exported && !item.isHelper) ∧
      (options.uniqueNames = true → front.warnings <+: whole.warnings) ∧
      front.warnings.filter (·.kind != .duplicateName) <+:
        whole.warnings.filter (·.kind != .duplicateName) ∧
      ((layout.extend more).toExport options = .ok whole → layout.toExport options = .ok front) := by
  intro front whole
  obtain ⟨added, hplaced, hadded⟩ := layout.exists_placed_extend more options
  refine ⟨exists_script_extend hplaced, itemCount_extend hplaced hadded, fun hu => ?_,
    warnings_extend hplaced _ Placed.filter_kind_ne_duplicate, exists_toExport_of_extend⟩
  have hall := warnings_extend hplaced (fun _ => true) fun p names names' => by
    rw [Placed.warnings_of_uniqueNames hu p names names']
  rwa [List.filter_true, List.filter_true] at hall

end Layout

end LuauLayout
