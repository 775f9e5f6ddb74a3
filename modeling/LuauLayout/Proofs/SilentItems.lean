import LuauLayout.Proofs.WrittenNumbers
import LuauLayout.Proofs.Warnings

/-! Items without a block.  A hidden item has no part in an export at all.  A helper takes a number and
is reported as skipped; beyond that nothing depends on what it is, since no local of it is ever taken
or declared. -/

namespace LuauLayout

/-! ### Hidden items -/

/-- The second list is the first with hidden items inserted. -/
inductive InsertsHidden : List Item → List Item → Prop
  | nil : InsertsHidden [] []
  | keep {items items' : List Item} (item : Item) (h : InsertsHidden items items') :
      InsertsHidden (item :: items) (item :: items')
  | insert {items items' : List Item} {item : Item} (hidden : item.exported = false)
      (h : InsertsHidden items items') : InsertsHidden items (item :: items')

theorem InsertsHidden.filter_exported {items items' : List Item} (h : InsertsHidden items items') :
    items'.filter (·.exported) = items.filter (·.exported) := by
  induction h with
  | nil => rfl
  | keep item _ ih => rw [List.filter_cons, List.filter_cons, ih]
  | insert hidden _ ih => rw [List.filter_cons_of_neg (by simp [hidden]), ih]

namespace Layout

variable {layout layout' : Layout}

theorem placed_congr (h : layout'.counted = layout.counted) (options : ExportOptions) :
    layout'.placed options = layout.placed options :=
  congrArg (fun items : List Item => place options [rootName] items.zipIdx) h

theorem toScript_congr (h : layout'.counted = layout.counted) (options : ExportOptions) :
    layout'.toScript options = layout.toScript options := by
  rw [toScript, toScript, statements, statements, placed_congr h]

/-- An export depends on the items that are not hidden only. -/
theorem toExport_congr (h : layout'.counted = layout.counted) (options : ExportOptions) :
    layout'.toExport options = layout.toExport options := by
  rw [toExport, toExport, toScript_congr h, statements, statements, placed_congr h]

end Layout

/-! ### Helpers -/

/-- The item is not hidden and is a helper. -/
def Item.IsSkipped (item : Item) : Prop := item.exported = true ∧ item.isHelper = true

/-- The two items are the same or both are skipped. -/
def Item.Interchanges (item item' : Item) : Prop :=
  item' = item ∨ item.IsSkipped ∧ item'.IsSkipped

/-- The two are the same or both are skipped under the same number. -/
def Placed.Interchanges (p p' : Placed) : Prop :=
  p' = p ∨ ¬p.isWritten = true ∧ ¬p'.isWritten = true ∧ p'.index = p.index

theorem Item.Interchanges.exported_iff {item item' : Item} (h : item.Interchanges item') :
    item.exported = true ↔ item'.exported = true := by
  rcases h with rfl | ⟨⟨h, -⟩, h', -⟩
  · exact Iff.rfl
  · exact iff_of_true h h'

/-- Items that interchange are placed so that they interchange: neither of two helpers adds to what is
taken. -/
theorem forall₂_place (options : ExportOptions) {items items' : List Item}
    (h : List.Forall₂ Item.Interchanges items items') (taken : List String) (start : Nat) :
    List.Forall₂ Placed.Interchanges (place options taken (items.zipIdx start))
      (place options taken (items'.zipIdx start)) := by
  induction h generalizing taken start with
  | nil => exact List.Forall₂.nil
  | cons hitem _ ih =>
    rw [List.zipIdx_cons, List.zipIdx_cons]
    rcases hitem with rfl | ⟨⟨-, hhelper⟩, -, hhelper'⟩
    · rename_i item' _ _ _
      by_cases hhelper : item'.isHelper = true
      · rw [place_cons_of_isHelper hhelper rfl, place_cons_of_isHelper hhelper rfl]
        exact .cons (Or.inl rfl) (ih _ _)
      · rw [place_cons_of_not_isHelper hhelper rfl, place_cons_of_not_isHelper hhelper rfl]
        exact .cons (Or.inl rfl) (ih _ _)
    · rw [place_cons_of_isHelper hhelper rfl, place_cons_of_isHelper hhelper' rfl]
      refine .cons (Or.inr ⟨?_, ?_, rfl⟩) (ih _ _)
      · simp [Placed.isWritten, hhelper]
      · simp [Placed.isWritten, hhelper']

section Interchanged

variable {placed placed' : List Placed} (h : List.Forall₂ Placed.Interchanges placed placed')
include h

theorem filter_isWritten_of_interchanged :
    placed'.filter (·.isWritten) = placed.filter (·.isWritten) := by
  induction h with
  | nil => rfl
  | cons hp _ ih =>
    rcases hp with rfl | ⟨hp, hp', -⟩
    · rw [List.filter_cons, List.filter_cons, ih]
    · rw [List.filter_cons_of_neg hp, List.filter_cons_of_neg hp', ih]

theorem filter_warnings_of_interchanged (options : ExportOptions) (names : List String) :
    (placed'.flatMap (·.warnings options names)).filter (·.kind != .skippedItem) =
      (placed.flatMap (·.warnings options names)).filter (·.kind != .skippedItem) := by
  have hskipped : ∀ {p : Placed}, ¬p.isWritten = true →
      (p.warnings options names).filter (·.kind != .skippedItem) = [] := by
    intro p hp
    rw [Placed.warnings_of_not_isWritten hp]
    rfl
  induction h with
  | nil => rfl
  | cons hp _ ih =>
    rw [List.flatMap_cons, List.flatMap_cons, List.filter_append, List.filter_append, ih]
    rcases hp with rfl | ⟨hp, hp', -⟩
    · rfl
    · rw [hskipped hp, hskipped hp']

/-- The same items are reported for the same. -/
theorem map_warnings_of_interchanged (options : ExportOptions) (names : List String) :
    (placed'.flatMap (·.warnings options names)).map (fun w => (w.itemIndex, w.kind)) =
      (placed.flatMap (·.warnings options names)).map fun w => (w.itemIndex, w.kind) := by
  induction h with
  | nil => rfl
  | cons hp _ ih =>
    rw [List.flatMap_cons, List.flatMap_cons, List.map_append, List.map_append, ih]
    rcases hp with rfl | ⟨hp, hp', hindex⟩
    · rfl
    · rw [Placed.warnings_of_not_isWritten hp,
        Placed.warnings_of_not_isWritten hp', hindex]
      rfl

end Interchanged

namespace Layout

variable {layout layout' : Layout}

theorem forall₂_placed (h : List.Forall₂ Item.Interchanges layout.items layout'.items)
    (options : ExportOptions) :
    List.Forall₂ Placed.Interchanges (layout.placed options) (layout'.placed options) :=
  forall₂_place options (List.rel_filter (fun _ _ hitem => hitem.exported_iff) h) [rootName] 0

theorem statements_of_interchanged
    (h : List.Forall₂ Item.Interchanges layout.items layout'.items) (options : ExportOptions) :
    layout'.statements options = layout.statements options := by
  rw [statements, statements, filter_isWritten_of_interchanged (forall₂_placed h options)]

/-- Hidden items that are inserted leave an export as it is, and so do helpers that take the place of
helpers, but for what is reported as skipped. -/
theorem toExport_of_silent (layout layout' : Layout) (options : ExportOptions) :
    let e := layout.toScript options
    let e' := layout'.toScript options
    (InsertsHidden layout.items layout'.items →
      e' = e ∧ layout'.toExport options = layout.toExport options) ∧
    (List.Forall₂ Item.Interchanges layout.items layout'.items →
      e'.script = e.script ∧ e'.itemCount = e.itemCount ∧
      e'.warnings.filter (·.kind != .skippedItem) = e.warnings.filter (·.kind != .skippedItem) ∧
      e'.warnings.map (fun w => (w.itemIndex, w.kind)) =
        e.warnings.map (fun w => (w.itemIndex, w.kind)) ∧
      (layout'.toExport options = .ok e' ↔ layout.toExport options = .ok e)) := by
  intro e e'
  constructor
  · intro h
    have hcounted : layout'.counted = layout.counted := h.filter_exported
    exact ⟨toScript_congr hcounted options, toExport_congr hcounted options⟩
  · intro h
    have hplaced := forall₂_placed h options
    have hstatements := statements_of_interchanged h options
    have hwritten := filter_isWritten_of_interchanged hplaced
    have hlocals : scriptLocals (layout'.placed options) = scriptLocals (layout.placed options) := by
      rw [scriptLocals, scriptLocals, hwritten]
    have hwarnings : e'.warnings = (layout'.placed options).flatMap
        (·.warnings options (scriptLocals (layout.placed options))) := by
      rw [← hlocals]
      rfl
    refine ⟨congrArg renderScript hstatements, ?_, ?_, ?_, ?_⟩
    · show (layout'.placed options).countP _ = (layout.placed options).countP _
      rw [List.countP_eq_length_filter, List.countP_eq_length_filter, hwritten]
    · rw [hwarnings]
      exact filter_warnings_of_interchanged hplaced options _
    · rw [hwarnings]
      exact map_warnings_of_interchanged hplaced options _
    · rw [toExport, toExport, hstatements]
      split
      · simp
      · exact iff_of_true rfl rfl

/-- A spacer of the name of a frame gives way to a group of the name of the corner of a circle, and a
hidden frame of the same name is inserted: no name of them counts. -/
theorem toExport_of_silent_names :
    let frame : Item := { name := some "A" }
    let circle : Item := { name := some "C", type := some "Circle" }
    let spacer : Item := { name := some "A", type := some "Spacer" }
    let group : Item := { name := some "C_corner", type := some "Group", text := some "]]" }
    let layout : Layout := ⟨none, [spacer, frame, circle]⟩
    ∀ options, (Layout.toScript ⟨none, [spacer, frame, { frame with exported := false }, circle]⟩
        options) = layout.toScript options ∧
      (Layout.toScript ⟨none, [group, frame, circle]⟩ options).script =
        (layout.toScript options).script := by
  intro frame circle spacer group layout options
  have hinsert : InsertsHidden layout.items
      [spacer, frame, { frame with exported := false }, circle] :=
    .keep _ (.keep _ (.insert rfl (.keep _ .nil)))
  have hreplace : List.Forall₂ Item.Interchanges layout.items [group, frame, circle] :=
    .cons (Or.inr ⟨⟨rfl, by decide⟩, rfl, by decide⟩)
      (.cons (Or.inl rfl) (.cons (Or.inl rfl) .nil))
  exact ⟨((layout.toExport_of_silent ⟨none, _⟩ options).1 hinsert).1,
    ((layout.toExport_of_silent ⟨none, _⟩ options).2 hreplace).1⟩

end Layout

end LuauLayout
