import LuauLayout.Proofs.RepeatedLocals
import LuauLayout.Proofs.ScriptRun

/-! Items without a name.  An item that declares no name, or one without a letter or digit, gets an
identifier that ends in its number, whatever its type is.  The number can be read off the identifier and
off its corner, and every item has a number of its own, so that no two locals of such items are the
same and unique names have nothing to rename. -/

namespace LuauLayout

/-! ### Identifiers that end in the number of their item -/

namespace Identifier

/-- Without a letter or digit in its name, an item has its number at the end of its identifier. -/
theorem exists_ofItem_eq_suffixed {name : Option String}
    (h : ∀ s, name = some s → ∀ c ∈ s.toList, c.isAlphanum = false) (type : Option String)
    (index : Nat) : ∃ stem, ofItem name type index = suffixed stem index := by
  have hnumbered : numbered index = suffixed "Item" index := rfl
  cases hname : given name with
  | none =>
    have hderived : derived type index = suffixed ((given type).getD "Item") index := rfl
    rw [ofItem, hname, Option.getD_none, hderived, clean_suffixed]
    split
    · exact ⟨"Item", hnumbered⟩
    · exact ⟨_, rfl⟩
  | some s =>
    have hs : name = some s := (Option.filter_eq_some_iff.1 hname).1
    rw [ofItem, hname, Option.getD_some, if_pos (all_underscore_clean (h s hs))]
    exact ⟨"Item", hnumbered⟩

end Identifier

/-! ### The locals of the script -/

/-- The item declares no name, or one without an ASCII letter or digit. -/
def Item.isUnnamed (item : Item) : Bool :=
  item.name.all fun name => name.toList.all fun c => !c.isAlphanum

theorem Item.exists_ofItem_of_isUnnamed {item : Item} (h : item.isUnnamed = true) (index : Nat) :
    ∃ stem, Identifier.ofItem item.name item.type index = Identifier.suffixed stem index := by
  refine Identifier.exists_ofItem_eq_suffixed (fun s hs c hc => ?_) item.type index
  rw [isUnnamed, hs, Option.all_some, List.all_eq_true] at h
  simpa using h c hc

namespace Layout

variable {layout : Layout}

/-- A local of an unnamed item is that of an item with a number at the end of its identifier. -/
theorem exists_mem_locals_suffixed {e : Item × Nat} {name : String}
    (he : e.1.isUnnamed = true)
    (hname : name ∈ e.1.locals (Identifier.ofItem e.1.name e.1.type e.2)) :
    ∃ stem, name ∈ e.1.locals (Identifier.suffixed stem e.2) := by
  obtain ⟨stem, hstem⟩ := e.1.exists_ofItem_of_isUnnamed he e.2
  exact ⟨stem, hstem ▸ hname⟩

theorem nodup_naturalLocals (h : ∀ item ∈ layout.shown, item.isUnnamed = true) :
    layout.naturalLocals.Nodup := by
  have hunnamed : ∀ e ∈ layout.counted.zipIdx.filter fun e => !e.1.isHelper,
      e.1.isUnnamed = true := by
    intro e he
    obtain ⟨hmem, hwritten⟩ := List.mem_filter.1 he
    obtain ⟨hitem, hexported⟩ := List.mem_filter.1 (List.fst_mem_of_mem_zipIdx hmem)
    exact h e.1 (List.mem_filter.2 ⟨hitem, by simp_all⟩)
  have hpairwise : layout.counted.zipIdx.Pairwise fun e e' => e.2 < e'.2 := by
    rw [← List.pairwise_map, List.zipIdx_map_snd]
    exact List.pairwise_lt_range'
  rw [naturalLocals, List.nodup_cons, List.nodup_flatMap]
  refine ⟨fun hroot => ?_, fun e _ => e.1.nodup_locals _, ?_⟩
  · obtain ⟨e, he, hname⟩ := List.mem_flatMap.1 hroot
    obtain ⟨stem, hlocal⟩ := exists_mem_locals_suffixed (hunnamed e he) hname
    exact ne_rootName_of_mem_locals_suffixed hlocal rfl
  · refine (hpairwise.filter _).imp_of_mem fun he he' hlt name hname hname' => ?_
    obtain ⟨stem, hlocal⟩ := exists_mem_locals_suffixed (hunnamed _ he) hname
    obtain ⟨stem', hlocal'⟩ := exists_mem_locals_suffixed (hunnamed _ he') hname'
    exact Nat.ne_of_lt hlt (eq_of_mem_locals_suffixed hlocal hlocal')

/-- Where no two locals have the same name, unique names place every item as it is placed without. -/
theorem placed_eq_of_nodup {isSafe : Bool}
    (h : (scriptLocals (layout.placed ⟨false, isSafe⟩)).Nodup) :
    layout.placed ⟨true, isSafe⟩ = layout.placed ⟨false, isSafe⟩ := by
  apply (place_eq_or_partsAt isSafe [rootName] layout.counted.zipIdx).resolve_right
  intro hparts
  exact reportsDuplicate_plain_iff.1 (script_ne_of_partsAt hparts).1 h

/-- If no item with a block has a letter or digit in its name, all locals of the script are distinct
whatever the switches are, no duplicate is reported, and unique names do not change the export. -/
theorem nodup_declared_of_unnamed (layout : Layout)
    (h : ∀ item ∈ layout.shown, item.isUnnamed = true) :
    (∀ options, ((layout.statements options).filterMap Statement.declares?).Nodup ∧
      ∀ w ∈ (layout.toScript options).warnings, w.kind ≠ .duplicateName) ∧
      ∀ isSafe, layout.toScript ⟨true, isSafe⟩ = layout.toScript ⟨false, isSafe⟩ := by
  have hplain : ∀ isSafe, (scriptLocals (layout.placed ⟨false, isSafe⟩)).Nodup := by
    intro isSafe
    rw [scriptLocals_placed_plain]
    exact nodup_naturalLocals h
  have hsame := fun isSafe => toScript_eq_of_placed_eq (placed_eq_of_nodup (hplain isSafe))
  refine ⟨fun options => ?_, fun isSafe => (hsame isSafe).1.symm⟩
  obtain ⟨isUnique, isSafe⟩ := options
  obtain ⟨-, hreport, hreport'⟩ := hsame isSafe
  rw [filterMap_declares_statements]
  cases isUnique with
  | false => exact ⟨hplain isSafe, fun w hw hkind => hreport ⟨w, hw, hkind⟩⟩
  | true =>
    rw [placed_eq_of_nodup (hplain isSafe)]
    exact ⟨hplain isSafe, fun w hw hkind => hreport' ⟨w, hw, hkind⟩⟩

/-- Types that look like numbered names and corners do not collide with those of other items. -/
theorem nodup_declared_of_unnamed_types :
    let layout : Layout := ⟨none, [{ type := some "Circle", name := some "--" },
      { name := some "Item_0", exported := false }, { name := some "Item_0", role := some "layout" },
      { type := some "Item_0_corner" }, { name := some "é" }, { type := some "Circle" },
      { type := some "Item_3" }, { type := some "Circle\n4" }]⟩
    (∀ item ∈ layout.shown, item.isUnnamed = true) ∧
      (layout.statements ⟨false, false⟩).filterMap Statement.declares? =
        ["ScreenGui", "Item_0", "Item_0_corner", "Item_0_corner_2", "Item_3", "Circle_4",
          "Circle_4_corner", "Item_3_5", "Circle_4_6"] ∧
      ((layout.statements ⟨false, false⟩).filterMap Statement.declares?).Nodup ∧
      layout.toScript ⟨true, true⟩ = layout.toScript ⟨false, true⟩ := by
  intro layout
  have hunnamed : ∀ item ∈ layout.shown, item.isUnnamed = true := by decide +kernel
  obtain ⟨hoptions, hsame⟩ := nodup_declared_of_unnamed layout hunnamed
  exact ⟨hunnamed, by decide +kernel, (hoptions ⟨false, false⟩).1, hsame true⟩

end Layout

end LuauLayout
