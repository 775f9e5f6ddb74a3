import LuauLayout.Proofs.DerivedNames
import LuauLayout.Proofs.WrittenNumbers

/-! Names that are identifiers already.  An identifier, taken as a name, is its own identifier.  So a
layout whose items are named as unique names have identified them keeps these identifiers with unique
names and without: no two of their locals are the same, nothing is renamed, and the script is the one it
was. -/

namespace LuauLayout

/-! ### The renamed layout -/

namespace Placed

/-- The item under the name of the identifier of its block; a helper, which has none, as it is. -/
def renamed (p : Placed) : Item :=
  if p.isWritten then { p.item with name := some p.identifier } else p.item

theorem exported_renamed (p : Placed) : p.renamed.exported = p.item.exported := by
  rw [renamed]
  split <;> rfl

theorem isHelper_renamed (p : Placed) : p.renamed.isHelper = p.item.isHelper := by
  rw [renamed]
  split <;> rfl

theorem writtenNumbers_renamed (p : Placed) :
    p.renamed.writtenNumbers = p.item.writtenNumbers := by
  rw [renamed]
  split <;> rfl

/-- The item placed under the name of its identifier. -/
def settled (p : Placed) : Placed := ⟨p.index, p.renamed, p.identifier, p.identifier⟩

theorem isWritten_settled (p : Placed) : p.settled.isWritten = p.isWritten := by
  rw [isWritten, isWritten, settled, isHelper_renamed]

theorem locals_settled (p : Placed) : p.settled.locals = p.locals := by
  rw [locals, locals, settled, renamed]
  split <;> rfl

/-- The name of an item is not part of its block. -/
theorem block_settled (p : Placed) (isSafe : Bool) : p.settled.block isSafe = p.block isSafe := by
  rw [block, block, settled, renamed]
  split <;> rfl

theorem isUnterminated_settled (options : ExportOptions) (p : Placed) :
    p.settled.isUnterminated options = p.isUnterminated options := by
  rw [isUnterminated, isUnterminated, settled, renamed]
  split <;> rfl

end Placed

/-- The items with others, in order, in the place of those that are not hidden. -/
def replaceCounted : List Item → List Item → List Item
  | item :: rest, other :: others =>
    if item.exported then other :: replaceCounted rest others
    else item :: replaceCounted rest (other :: others)
  | items, _ => items

theorem filter_replaceCounted {items others : List Item}
    (hlength : others.length = (items.filter (·.exported)).length)
    (h : ∀ other ∈ others, other.exported = true) :
    (replaceCounted items others).filter (·.exported) = others := by
  induction items generalizing others with
  | nil =>
    obtain rfl : others = [] := List.length_eq_zero_iff.1 hlength
    rfl
  | cons item rest ih =>
    cases others with
    | nil => simpa [replaceCounted] using hlength.symm
    | cons other others =>
      rw [replaceCounted]
      by_cases hitem : item.exported = true
      · rw [List.filter_cons_of_pos hitem, List.length_cons, List.length_cons,
          Nat.add_right_cancel_iff] at hlength
        rw [if_pos hitem, List.filter_cons_of_pos (h other List.mem_cons_self),
          ih hlength fun o ho => h o (List.mem_cons_of_mem _ ho)]
      · rw [List.filter_cons_of_neg hitem] at hlength
        rw [if_neg hitem, List.filter_cons_of_neg hitem, ih hlength h]

/-- Hidden items stay where they are. -/
theorem forall₂_replaceCounted (items others : List Item) :
    List.Forall₂ (fun item item' => item.exported = false → item' = item) items
      (replaceCounted items others) := by
  induction items generalizing others with
  | nil => exact List.Forall₂.nil
  | cons item rest ih =>
    cases others with
    | nil => exact List.forall₂_same.2 fun _ _ _ => rfl
    | cons other others =>
      rw [replaceCounted]
      by_cases hitem : item.exported = true
      · rw [if_pos hitem]
        exact .cons (fun hhidden => absurd hitem (by simp [hhidden])) (ih others)
      · rw [if_neg hitem]
        exact .cons (fun _ => rfl) (ih (other :: others))

namespace Layout

variable (layout : Layout) (isSafe : Bool)

/-- The layout with every item that has a block under the name of the identifier of the block. -/
def renamed (layout : Layout) (options : ExportOptions) : Layout :=
  { layout with items := replaceCounted layout.items ((layout.placed options).map (·.renamed)) }

theorem counted_renamed (options : ExportOptions) :
    (layout.renamed options).counted = (layout.placed options).map (·.renamed) := by
  apply filter_replaceCounted
  · rw [List.length_map, ← counted, ← layout.map_item_placed options, List.length_map]
  · intro other hother
    obtain ⟨p, hp, rfl⟩ := List.mem_map.1 hother
    rw [p.exported_renamed]
    exact (item_mem_of_mem_placed hp).2

/-! ### Its placement -/

/-- Without unique names the items are placed one by one. -/
theorem placed_plain :
    layout.placed ⟨false, isSafe⟩ = layout.counted.zipIdx.map fun e =>
      ⟨e.2, e.1, Identifier.ofItem e.1.name e.1.type e.2,
        Identifier.ofItem e.1.name e.1.type e.2⟩ := by
  rw [← layout.map_item_index_placed ⟨false, isSafe⟩, List.map_map]
  refine ((List.map_congr_left fun p hp => ?_).trans (List.map_id _)).symm
  have hid : p.identifier = p.natural := identifier_eq_natural_of_plain hp
  have hnatural := natural_of_mem_place hp
  show (⟨p.index, p.item, Identifier.ofItem p.item.name p.item.type p.index,
    Identifier.ofItem p.item.name p.item.type p.index⟩ : Placed) = p
  rw [← hnatural]
  exact congrArg (Placed.mk p.index p.item p.natural) hid.symm

theorem ofItem_renamed {options : ExportOptions} {p : Placed} (hp : p ∈ layout.placed options) :
    Identifier.ofItem p.renamed.name p.renamed.type p.index = p.identifier := by
  rw [Placed.renamed]
  split
  · exact Identifier.ofItem_of_isName (isName_identifier hp) _ _
  · rename_i h
    exact ((identifier_of_not_isWritten hp h).trans (natural_of_mem_place hp)).symm

/-- Without unique names, every item of the renamed layout keeps the identifier it was given. -/
theorem placed_renamed_plain (options : ExportOptions) :
    (layout.renamed options).placed ⟨false, isSafe⟩ =
      (layout.placed options).map (·.settled) := by
  rw [placed_plain, counted_renamed, List.zipIdx_map, zipIdx_placed, List.map_map, List.map_map]
  refine List.map_congr_left fun p hp => ?_
  have hid := layout.ofItem_renamed hp
  simp only [Function.comp_apply, Prod.map_apply, id_eq, hid]
  rfl

theorem filter_isWritten_settled (placed : List Placed) :
    (placed.map (·.settled)).filter (·.isWritten) =
      (placed.filter (·.isWritten)).map (·.settled) := by
  have hwritten : (·.isWritten) ∘ Placed.settled = (·.isWritten) := funext Placed.isWritten_settled
  rw [List.filter_map, hwritten]

theorem scriptLocals_settled (placed : List Placed) :
    scriptLocals (placed.map (·.settled)) = scriptLocals placed := by
  rw [scriptLocals, scriptLocals, filter_isWritten_settled, List.flatMap_map]
  exact congrArg _ (List.flatMap_congr fun p _ => p.locals_settled)

end Layout

/-! ### Its export -/

namespace Placed

variable {names : List String} {p : Placed}

theorem textWarnings_settled (isUnique isUnique' isSafe : Bool) (p : Placed) :
    p.settled.textWarnings ⟨isUnique, isSafe⟩ = p.textWarnings ⟨isUnique', isSafe⟩ := by
  rw [textWarnings, textWarnings, isUnterminated_settled]
  rfl

/-- Where no two locals are the same, an item under the name of its identifier is warned about as it was,
but for the duplicate. -/
theorem warnings_settled (hnodup : names.Nodup) (isSafe : Bool) :
    p.settled.warnings ⟨false, isSafe⟩ names =
      (p.warnings ⟨true, isSafe⟩ names).filter (·.kind != .duplicateName) := by
  by_cases h : p.isWritten = true
  · have hnone : p.settled.duplicate? ⟨false, isSafe⟩ names = none := by
      by_contra hsome
      obtain ⟨name, -, hcount⟩ :=
        (duplicate?_ne_none_iff_of_plain Bool.false_ne_true).1 hsome
      exact absurd (List.nodup_iff_count_le_one.1 hnodup name) (Nat.not_le.2 hcount)
    rw [filter_kind_ne_duplicate_of_isWritten h, warnings_of_isWritten (p.isWritten_settled.trans h),
      duplicateWarnings, hnone, textWarnings_settled false true]
    rfl
  · have hsettled : ¬p.settled.isWritten = true := by rwa [isWritten_settled]
    rw [warnings_of_not_isWritten h, warnings_of_not_isWritten hsettled]
    rfl

end Placed

namespace Layout

variable (layout : Layout) (isSafe : Bool)

theorem statements_renamed (options : ExportOptions) :
    (layout.renamed options).statements ⟨false, options.safeText⟩ = layout.statements options := by
  rw [statements, statements, placed_renamed_plain, filter_isWritten_settled, List.flatMap_map]
  exact congrArg _ (List.flatMap_congr fun p _ => p.block_settled _)

theorem toScript_renamed_plain :
    (layout.renamed ⟨true, isSafe⟩).toScript ⟨false, isSafe⟩ =
      { layout.toScript ⟨true, isSafe⟩ with
        warnings := (layout.toScript ⟨true, isSafe⟩).warnings.filter
          (·.kind != .duplicateName) } := by
  have hstatements := layout.statements_renamed ⟨true, isSafe⟩
  have hplaced := layout.placed_renamed_plain isSafe ⟨true, isSafe⟩
  have hnodup : (scriptLocals (layout.placed ⟨true, isSafe⟩)).Nodup :=
    nodup_scriptLocals_of_uniqueNames rfl layout
  rw [toScript, toScript, hstatements, hplaced, scriptLocals_settled, List.flatMap_map,
    List.filter_flatMap, List.countP_eq_length_filter, filter_isWritten_settled, List.length_map,
    ← List.countP_eq_length_filter]
  congr 1
  exact List.flatMap_congr fun p _ => Placed.warnings_settled hnodup isSafe

theorem writtenNumbers_shown_renamed (options : ExportOptions) :
    (layout.renamed options).shown.map Item.writtenNumbers =
      layout.shown.map Item.writtenNumbers := by
  rw [shown_eq_filter_counted, shown_eq_filter_counted, counted_renamed, List.filter_map,
    List.map_map, ← layout.map_item_placed options, List.filter_map, List.map_map]
  have hhelper : ((fun item => !item.isHelper) ∘ Placed.renamed) =
      (fun item => !item.isHelper) ∘ (·.item) :=
    funext fun p => congrArg _ p.isHelper_renamed
  rw [hhelper]
  exact List.map_congr_left fun p _ => p.writtenNumbers_renamed

/-- If every item that has a block is named by the identifier that unique names gave it, the layout has
the script it had, with unique names and without, and all its warnings but those of duplicates. -/
theorem toScript_renamed (layout : Layout) (isSafe : Bool) :
    let first := layout.toScript ⟨true, isSafe⟩
    let again := layout.renamed ⟨true, isSafe⟩
    again.counted = (layout.placed ⟨true, isSafe⟩).map (fun p =>
        if p.item.isHelper then p.item else { p.item with name := some p.identifier }) ∧
      List.Forall₂ (fun item item' => item.exported = false → item' = item) layout.items
        again.items ∧
      ∀ isUnique, let second := again.toScript ⟨isUnique, isSafe⟩
        second.script = first.script ∧ second.itemCount = first.itemCount ∧
        (∀ w ∈ second.warnings, w.kind ≠ .duplicateName) ∧
        second.warnings = first.warnings.filter (·.kind != .duplicateName) ∧
        (again.toExport ⟨isUnique, isSafe⟩ = .ok second ↔
          layout.toExport ⟨true, isSafe⟩ = .ok first) := by
  intro first again
  have hplain := layout.toScript_renamed_plain isSafe
  have hnodup : (scriptLocals (again.placed ⟨false, isSafe⟩)).Nodup := by
    rw [placed_renamed_plain, scriptLocals_settled]
    exact nodup_scriptLocals_of_uniqueNames rfl layout
  have hboth : ∀ isUnique, again.toScript ⟨isUnique, isSafe⟩ =
      { first with warnings := first.warnings.filter (·.kind != .duplicateName) } := by
    intro isUnique
    cases isUnique with
    | false => exact hplain
    | true => exact (toScript_eq_of_placed_eq (placed_eq_of_nodup hnodup)).1.symm.trans hplain
  refine ⟨?_, forall₂_replaceCounted _ _, fun isUnique => ?_⟩
  · rw [counted_renamed]
    refine List.map_congr_left fun p _ => ?_
    rw [Placed.renamed, Placed.isWritten]
    cases p.item.isHelper <;> rfl
  · intro second
    have hsecond : second = _ := hboth isUnique
    refine ⟨by rw [hsecond], by rw [hsecond], fun w hw => ?_, by rw [hsecond], ?_⟩
    · rw [hsecond] at hw
      simpa using (List.mem_filter.1 hw).2
    · have hnumbers : (∀ item ∈ again.shown, ∀ n ∈ item.writtenNumbers, n.isOverlong = false) ↔
          ∀ item ∈ layout.shown, ∀ n ∈ item.writtenNumbers, n.isOverlong = false := by
        have hmap := layout.writtenNumbers_shown_renamed ⟨true, isSafe⟩
        simp only [← List.forall_mem_map (f := Item.writtenNumbers)
          (P := fun ns => ∀ n ∈ ns, n.isOverlong = false)]
        rw [hmap]
      rw [toExport_eq_ok_iff, toExport_eq_ok_iff, hnumbers]
      simp only [and_true, second, first]

end Layout

end LuauLayout
