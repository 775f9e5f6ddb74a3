import LuauLayout.Proofs.LayoutReading

/-! What read items have in common, whatever they were read from: a text is absent or not empty, since
the text of a number is not empty either, and an opacity lies between zero and one, where moving it
there once more changes nothing. -/

namespace LuauLayout

open Value (DenotesText Entries)

/-! ### Texts and opacities of numbers -/

namespace Decimal

theorem positional_ne_nil (digits : List Char) (whole : Int) : positional digits whole ≠ [] := by
  rw [positional]
  split <;> simp

theorem scientific_ne_nil (width : Nat) (digits : List Char) (e : Int) :
    scientific width digits e ≠ [] := by
  unfold scientific
  exact List.append_ne_nil_of_right_ne_nil _ (List.cons_ne_nil _ _)

theorem render_ne_nil (format : DecimalFormat) (d : Decimal) : d.render format ≠ [] := by
  rw [render]
  split
  · exact List.cons_ne_nil _ _
  · split
    · exact positional_ne_nil _ _
    · exact scientific_ne_nil _ _ _

end Decimal

namespace Number

theorem intText_ne_empty (n : Int) : intText n ≠ "" := by
  rw [intText, Int.repr_eq_if, Ne, ← String.toList_eq_nil_iff]
  split
  · rw [Nat.toList_repr]
    exact Nat.toDigits_ne_nil
  · simp

theorem text_ne_empty (n : Number) : n.text ≠ "" := by
  cases n with
  | int n => exact intText_ne_empty n
  | float x =>
    rw [text]
    split
    · exact intText_ne_empty _
    · rw [doubleText, Ne, ← String.toList_eq_nil_iff, String.toList_ofList]
      exact Decimal.render_ne_nil _ _

theorem one_pos : 0 < Binary64.one := by
  have hpos : ∀ k, 0 < Nat.pow 2 k := fun k => Nat.pow_pos (by decide)
  unfold Binary64.one
  exact hpos 1074

theorem clampToOne_clampToOne (n : Number) : n.clampToOne.clampToOne = n.clampToOne := by
  have hzero : (0 : Number).toUnits ≤ 0 := Int.le_of_eq (Int.zero_mul _)
  have hone : (1 : Number).toUnits = Binary64.one := Int.one_mul _
  have hpos := one_pos
  rw [clampToOne.eq_def n]
  split
  · rw [clampToOne, if_pos hzero]
  · rename_i hlow
    split
    · rename_i hhigh
      rw [clampToOne, if_neg hlow, if_pos hhigh]
    · rw [clampToOne, hone, if_neg (by omega), if_neg (by omega)]

end Number

/-! ### Items -/

namespace Item

/-- The fields of an item that hold texts. -/
def texts (item : Item) : List (Option String) :=
  [item.type, item.name, item.fill, item.text, item.textColor, item.imageId, item.role]

/-- The item is as a reading leaves it. -/
structure IsNormal (item : Item) : Prop where
  texts : ∀ field ∈ item.texts, field ≠ some ""
  opacity : ∀ n, item.opacity = some n → n.clampToOne = n

theorem ne_empty_of_holds {found : Option Value} {field : Option String}
    (h : Holds DenotesText none found field) : field ≠ some "" := by
  rintro rfl
  rcases h with ⟨v, -, hv⟩ | ⟨-, hnone⟩
  · generalize hs : some "" = s at hv
    cases hv with
    | text hne => exact hne (Option.some.inj hs).symm
    | int _ => exact Number.text_ne_empty _ (Option.some.inj hs).symm
    | float _ => exact Number.text_ne_empty _ (Option.some.inj hs).symm
  · cases hnone

theorem clampToOne_of_holds {found : Option Value} {opacity : Option Number}
    (h : Holds DenotesOpacity none found opacity) {n : Number} (hn : opacity = some n) :
    n.clampToOne = n := by
  rcases h with ⟨v, -, m, -, rfl⟩ | ⟨-, rfl⟩
  · obtain rfl := Option.some.inj hn
    exact Number.clampToOne_clampToOne m
  · cases hn

theorem IsReadFrom.isNormal {entries : Entries} {item : Item} (h : item.IsReadFrom entries) :
    item.IsNormal := by
  constructor
  · simp only [Item.texts, List.forall_mem_cons, List.not_mem_nil, false_imp_iff, implies_true,
      and_true]
    exact ⟨ne_empty_of_holds h.type, ne_empty_of_holds h.name, ne_empty_of_holds h.fill,
      ne_empty_of_holds h.text, ne_empty_of_holds h.textColor, ne_empty_of_holds h.imageId,
      ne_empty_of_holds h.role⟩
  · exact fun n => clampToOne_of_holds h.opacity

end Item

end LuauLayout
