import LuauLayout.Export.OfValue
import LuauLayout.Proofs.LayoutReading
import LuauLayout.Proofs.ScriptRun

/-! Which values have an export: those that can be read as a layout of whose script no number has too
many digits to be written. -/

namespace LuauLayout

/-! ### Written numbers -/

namespace Item

/-- The numbers of an item as its block writes them. -/
def writtenNumbers (item : Item) : List Number :=
  [item.x, item.y, item.w, item.h] ++ (item.opacity.map Number.oneMinus).toList ++
    item.fontSize.toList

theorem flatMap_numbers_properties (item : Item) (identifier : String) (isSafe : Bool) :
    ((item.properties isSafe).map fun p => Statement.assign identifier p.1 p.2).flatMap
      Statement.numbers = item.writtenNumbers := by
  rw [properties, optionalProperties, writtenNumbers]
  cases given item.fill <;> cases item.opacity <;> cases given item.text <;>
    cases given item.textColor <;> cases item.fontSize <;> cases given item.imageId <;> rfl

/-- A shape adds no number but the zero of a line. -/
theorem any_isOverlong_block (item : Item) (identifier : String) (isSafe : Bool) :
    ((item.block identifier isSafe).flatMap Statement.numbers).any (·.isOverlong) =
      item.writtenNumbers.any (·.isOverlong) := by
  have hshape : ((item.shapeStatements identifier).flatMap Statement.numbers).any (·.isOverlong) =
      false := by
    rw [shapeStatements]
    split
    · rfl
    · split
      · simp [Statement.numbers, Expression.numbers, Number.isOverlong_zero]
      · rfl
  rw [block, List.cons_append, List.cons_append, List.flatMap_cons, List.flatMap_cons,
    List.flatMap_append, flatMap_numbers_properties, List.any_append, List.any_append,
    List.any_append, hshape, Bool.or_false]
  rfl

end Item

namespace Layout

theorem any_isOverlong_statements (layout : Layout) (options : ExportOptions) :
    ((layout.statements options).flatMap (·.numbers)).any (·.isOverlong) = true ↔
      ∃ item ∈ layout.shown, ∃ n ∈ item.writtenNumbers, n.isOverlong = true := by
  have hpreamble : (preamble.flatMap Statement.numbers).any (·.isOverlong) = false := rfl
  rw [statements, List.flatMap_append, List.any_append, hpreamble, Bool.false_or, List.flatMap_assoc,
    List.any_flatMap, List.any_eq_true, ← layout.map_item_written options]
  simp only [Placed.block, Item.any_isOverlong_block, List.any_eq_true, List.mem_map,
    exists_exists_and_eq_and, written]

theorem toExport_eq_ok_iff {layout : Layout} {options : ExportOptions} {e : Export} :
    layout.toExport options = .ok e ↔
      (∀ item ∈ layout.shown, ∀ n ∈ item.writtenNumbers, n.isOverlong = false) ∧
        layout.toScript options = e := by
  have hoverlong := layout.any_isOverlong_statements options
  rw [toExport]
  split
  · rename_i h
    obtain ⟨item, hitem, n, hn, h⟩ := hoverlong.1 h
    simp only [reduceCtorEq, false_iff, not_and]
    intro hall
    rw [hall item hitem n hn] at h
    exact absurd h Bool.false_ne_true
  · rename_i h
    have hall : ∀ item ∈ layout.shown, ∀ n ∈ item.writtenNumbers, n.isOverlong = false := by
      intro item hitem n hn
      by_contra hne
      exact h (hoverlong.2 ⟨item, hitem, n, hn, by simpa using hne⟩)
    rw [Except.ok.injEq]
    exact ⟨fun he => ⟨hall, he⟩, And.right⟩

end Layout

namespace Export

/-- A value is read as a layout exactly if none of its fields has a whole number of too many digits,
and what is read is what the value stands for, with a default wherever it stands for nothing.  It has
an export exactly if moreover no number of a written item has too many digits. -/
theorem ofValue_eq_ok_iff (v : Value) (options : ExportOptions) :
    ((∃ layout, Layout.ofValue v = .ok layout) ↔ Layout.IsReadable v) ∧
      (∀ layout, Layout.ofValue v = .ok layout → Holds DenotesLayout {} (some v) layout) ∧
      ∀ e, Export.ofValue v options = .ok e ↔ ∃ layout, Layout.ofValue v = .ok layout ∧
        (∀ item ∈ layout.shown, ∀ n ∈ item.writtenNumbers, n.isOverlong = false) ∧
        layout.toScript options = e := by
  refine ⟨Layout.exists_ofValue_eq_ok_iff, fun layout h => Layout.holds_ofValue h, fun e => ?_⟩
  rw [Export.ofValue]
  cases Layout.ofValue v with
  | error faults => simp
  | ok layout =>
    have hmap : (layout.toExport options).mapError Fault.overlong = .ok e ↔
        layout.toExport options = .ok e := by
      cases layout.toExport options <;> simp [Except.mapError]
    simp only [hmap, Layout.toExport_eq_ok_iff, Except.ok.injEq, exists_eq_left']

/-- A numeral of one digit more than the limit, as the position of an item, stops its layout from being
read. -/
theorem not_isReadable_overlong_position :
    let v : Value := .mapping [("items", .list [.mapping
      [("x", .text (String.ofList (List.replicate 4301 '8')))]])]
    (¬∃ layout, Layout.ofValue v = .ok layout) ∧
      ∀ options, ¬∃ e, Export.ofValue v options = .ok e := by
  intro v
  have hfault : ¬∃ layout, Layout.ofValue v = .ok layout := by
    rw [Layout.exists_ofValue_eq_ok_iff]
    intro h
    have hdigits : (String.ofList (List.replicate 4301 '8')).toList = List.replicate 4301 '8' :=
      String.toList_ofList
    have hoverlong : (Value.text (String.ofList (List.replicate 4301 '8'))).IsOverlongText := by
      refine ⟨_, _, rfl, Number.isOverlongNumeral_of_digits (fun c hc => ?_) ?_⟩
      · rw [hdigits] at hc
        obtain rfl := (List.mem_replicate.1 hc).2
        decide
      · rw [hdigits, List.length_replicate]
        decide
    have hitem := (h _ rfl).2 _ (List.mem_singleton_self _)
    exact hitem.1 ["x"] List.mem_cons_self _ rfl hoverlong
  refine ⟨hfault, fun options => ?_⟩
  rw [Export.ofValue]
  cases hv : Layout.ofValue v with
  | error faults => simp
  | ok layout => exact absurd ⟨layout, hv⟩ hfault

end Export

end LuauLayout
