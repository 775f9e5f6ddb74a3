import LuauLayout.Proofs.Appending

/-! Which number an item gets.  With unique names an item keeps the identifier of its name as long as its
locals are free; if they are not, a search from two on ends at the least number with which they are.  A
block in front of the item rules out one number at most and the root rules out none, so the number is
at most two more than there are such blocks. -/

namespace LuauLayout

open Identifier (suffixed)

/-! ### Free numbers -/

section Free

variable {taken taken' : List String} {item : Item} {natural : String}

/-- Which identifiers are free depends on the names that are taken and not on their order. -/
theorem isFree_congr (h : ∀ name, name ∈ taken ↔ name ∈ taken') (item : Item)
    (identifier : String) : isFree taken item identifier = isFree taken' item identifier := by
  rw [Bool.eq_iff_iff, isFree_iff, isFree_iff]
  simp only [h]

/-- A block has locals in common with those under one number at most. -/
theorem eq_of_common_locals {p : Placed} {name name' : String} {m n : Nat} (hm : name ∈ p.locals)
    (hm' : name ∈ item.locals (suffixed natural m)) (hn : name' ∈ p.locals)
    (hn' : name' ∈ item.locals (suffixed natural n)) : m = n := by
  have hidentifier : ∀ {k : Nat} {local' : String}, local' ∈ p.locals →
      local' ∈ item.locals (suffixed natural k) →
      p.identifier = suffixed natural k ∨ p.identifier = Identifier.corner (suffixed natural k) := by
    intro k local' hlocal hnumbered
    rcases Item.eq_or_eq_of_mem_locals hlocal with rfl | rfl
    · exact Item.eq_or_eq_of_mem_locals hnumbered
    · rcases Item.eq_or_eq_of_mem_locals hnumbered with h | h
      · exact absurd h.symm (Identifier.suffixed_ne_corner _ _ _)
      · exact Or.inl (Identifier.corner_injective h)
  exact Identifier.eq_of_suffixed_or_corner (hidentifier hm hm') (hidentifier hn hn')

/-- Among one number more than there are blocks, one is free of the locals of the script. -/
theorem exists_isFree_scriptLocals (placed : List Placed) (item : Item) (natural : String)
    (start : Nat) :
    ∃ n, start ≤ n ∧ n ≤ start + (placed.filter (·.isWritten)).length ∧
      isFree (scriptLocals placed) item (suffixed natural n) = true := by
  obtain ⟨n, hstart, hend, hfree⟩ := exists_not_ruledOut (placed.filter (·.isWritten))
    (fun p n => ∃ name ∈ p.locals, name ∈ item.locals (suffixed natural n)) start
    fun p _ m n ⟨_, hm, hm'⟩ ⟨_, hn, hn'⟩ => eq_of_common_locals hm hm' hn hn'
  refine ⟨n, hstart, hend, isFree_iff.2 fun name hname hdeclared => ?_⟩
  rcases List.mem_cons.1 hdeclared with rfl | hdeclared
  · exact ne_rootName_of_mem_locals_suffixed hname rfl
  · obtain ⟨p, hp, hlocal⟩ := List.mem_flatMap.1 hdeclared
    exact hfree p hp ⟨name, hlocal, hname⟩

/-- Where the locals of a script are taken, the free identifier has the number at which a search from two
on ends, and this is at most two more than there are blocks. -/
theorem exists_endsAt_freeIdentifier {placed : List Placed}
    (htaken : ∀ name, name ∈ taken ↔ name ∈ scriptLocals placed) (item : Item)
    (natural : String) :
    ∃ k, EndsAt (fun n => isFree taken item (suffixed natural n)) 2 k ∧
      k ≤ (placed.filter (·.isWritten)).length + 2 ∧
      freeIdentifier taken item natural = suffixed natural k := by
  obtain ⟨k, hends, hchosen⟩ : ∃ k, EndsAt (fun n => isFree taken item (suffixed natural n)) 2 k ∧
      freeIdentifier taken item natural = suffixed natural k :=
    ⟨_, endsAt_leastFrom (isFree_freeIdentifier taken item natural), rfl⟩
  obtain ⟨n, hstart, hbound, hfree⟩ := exists_isFree_scriptLocals placed item natural 2
  rw [← isFree_congr htaken] at hfree
  have hle := hends.le_of_apply hstart hfree
  exact ⟨k, hends, by omega, hchosen⟩

end Free

/-! ### The item of a number -/

theorem Placed.duplicateWarnings_of_unique {options : ExportOptions} {names : List String}
    {p : Placed} (hu : options.uniqueNames = true) :
    p.duplicateWarnings options names =
      if p.identifier = p.natural then [] else [⟨p.index, p.identifier, .renamed p.natural⟩] := by
  rw [duplicateWarnings, duplicate?, if_pos hu]
  split <;> rfl

namespace Layout

variable {layout : Layout} {i : Nat} {item : Item}

theorem duplicate_warningsOf_of_unique {p : Placed} (isSafe : Bool)
    (hp : p ∈ layout.placed ⟨true, isSafe⟩) (hwritten : p.isWritten = true) :
    (layout.toScript ⟨true, isSafe⟩).warningsOf .duplicateName p.index =
      if p.identifier = p.natural then [] else [⟨p.index, p.identifier, .renamed p.natural⟩] := by
  rw [warningsOf_placed hp, Placed.filter_kind_duplicate hwritten,
    Placed.duplicateWarnings_of_unique rfl]

/-- The item of a number is placed by the locals that are declared in front of it. -/
theorem exists_placed_at (hitem : layout.counted[i]? = some item) (hwritten : item.isHelper = false)
    (options : ExportOptions) :
    ∃ taken behind,
      (∀ name, name ∈ taken ↔ name ∈ scriptLocals ((layout.placed options).take i)) ∧
      layout.placed options = (layout.placed options).take i ++
        ⟨i, item, Identifier.ofItem item.name item.type i, chosenIdentifier options taken item
          (Identifier.ofItem item.name item.type i)⟩ :: behind := by
  obtain ⟨hi, rfl⟩ := List.getElem?_eq_some_iff.1 hitem
  have hsplit : layout.counted.zipIdx = (layout.counted.take i).zipIdx ++
      (layout.counted[i], i) :: (layout.counted.drop (i + 1)).zipIdx (i + 1) := by
    conv_lhs => rw [← List.take_append_drop i layout.counted, List.drop_eq_getElem_cons hi]
    rw [List.zipIdx_append, List.length_take_of_le hi.le, Nat.zero_add, List.zipIdx_cons]
  obtain ⟨taken, htaken, happend⟩ :=
    exists_place_append options [rootName] (layout.counted.take i).zipIdx
  have hplaced : layout.placed options = _ := (congrArg _ hsplit).trans (happend _)
  rw [place_cons_of_not_isHelper (by simpa using hwritten) rfl] at hplaced
  have hfront : (layout.placed options).take i =
      place options [rootName] (layout.counted.take i).zipIdx := by
    rw [hplaced, List.take_left']
    have hlength := congrArg List.length
      (map_item_index_place options [rootName] (layout.counted.take i).zipIdx)
    rwa [List.length_map, List.length_zipIdx, List.length_take_of_le hi.le] at hlength
  refine ⟨taken, _, fun name => ?_, hfront ▸ hplaced⟩
  rw [htaken, List.mem_singleton, hfront, scriptLocals, List.mem_cons]
  exact or_comm

/-- The items with a block that are placed in front of a number. -/
def writtenBefore (layout : Layout) (options : ExportOptions) (i : Nat) : List Placed :=
  ((layout.placed options).take i).filter (·.isWritten)

/-- With unique names, a written item keeps the identifier of its name, without a warning, if the locals
of its block are not declared in front of it.  Otherwise the search for a number ends; the item gets
the least one from two on with which the locals are not declared in front, at most two more than
there are blocks in front, and it gets one warning, which names both identifiers. -/
theorem identifier_of_uniqueNames (layout : Layout) (isSafe : Bool) {i : Nat} {item : Item}
    (hitem : layout.counted[i]? = some item) (hwritten : item.isHelper = false) :
    let options : ExportOptions := ⟨true, isSafe⟩
    let natural := Identifier.ofItem item.name item.type i
    let earlier := layout.writtenBefore options i
    let before := preamble ++ earlier.flatMap (·.block isSafe)
    let taken := before.filterMap Statement.declares?
    let avoids := fun identifier => ∀ name ∈ item.locals identifier, name ∉ taken
    let reported := (layout.toScript options).warningsOf .duplicateName i
    ∃ identifier after,
      layout.statements options = before ++ (item.block identifier isSafe ++ after) ∧
      (avoids natural → identifier = natural ∧ reported = []) ∧
      (¬avoids natural → ∃ k, EndsAt (fun n => isFree taken item (suffixed natural n)) 2 k ∧
        2 ≤ k ∧ avoids (suffixed natural k) ∧
        (∀ n, 2 ≤ n → n < k → ¬avoids (suffixed natural n)) ∧ k ≤ earlier.length + 2 ∧
        identifier = suffixed natural k ∧
        ∃ w, reported = [w] ∧ w.identifier = suffixed natural k ∧
          w.message = "Duplicate identifier '" ++ natural ++ "' renamed to '" ++
            suffixed natural k ++ "'") := by
  intro options natural earlier before taken avoids reported
  obtain ⟨taken', behind, htaken', hplaced⟩ := exists_placed_at hitem hwritten options
  generalize hi : chosenIdentifier options taken' item natural = identifier at hplaced
  have hp_written : Placed.isWritten ⟨i, item, natural, identifier⟩ = true := by
    simp [Placed.isWritten, hwritten]
  have htaken : taken = scriptLocals ((layout.placed options).take i) := by
    rw [scriptLocals, ← filterMap_declares_blocks isSafe]
    exact List.filterMap_append
  have hfree : ∀ identifier, isFree taken' item identifier = isFree taken item identifier :=
    isFree_congr (htaken ▸ htaken') item
  have havoids : ∀ identifier, avoids identifier ↔ isFree taken item identifier = true :=
    fun identifier => isFree_iff.symm
  have hmem : ⟨i, item, natural, identifier⟩ ∈ layout.placed options := by
    rw [hplaced]
    exact List.mem_append_right _ List.mem_cons_self
  have hreported := duplicate_warningsOf_of_unique isSafe hmem hp_written
  dsimp only at hreported
  refine ⟨identifier, _, statements_of_placed hplaced hp_written, fun hkept => ?_, fun hclash => ?_⟩
  · rw [havoids, ← hfree] at hkept
    have hidentifier : identifier = natural := hi ▸ chosenIdentifier_of_isFree hkept
    rw [if_pos hidentifier] at hreported
    exact ⟨hidentifier, hreported⟩
  · rw [havoids, ← hfree] at hclash
    obtain ⟨k, hends, hk, hchosen⟩ := exists_endsAt_freeIdentifier htaken' item natural
    have hidentifier : identifier = suffixed natural k := by
      rw [← hi, chosenIdentifier_of_not_isFree isSafe hclash, hchosen]
    simp only [hfree] at hends
    rw [if_neg (hidentifier ▸ Identifier.suffixed_ne_self natural k)] at hreported
    refine ⟨k, hends, hends.start_le, (havoids _).2 hends.apply_eq_true, fun n hn hlt => ?_, hk,
      hidentifier, ⟨i, identifier, .renamed natural⟩, hreported, hidentifier, ?_⟩
    · rw [havoids]
      intro hnfree
      exact absurd (hends.le_of_apply hn hnfree) (Nat.not_le.2 hlt)
    · rw [← hidentifier]
      rfl

/-- A circle of the name of the root passes over the number of an item in front of it, and over the one
of which only the corner is declared. -/
theorem identifier_of_uniqueNames_rootName :
    let layout : Layout := ⟨none, [{ name := some "ScreenGui_2" },
      { name := some "ScreenGui_4", exported := false }, { name := some "ScreenGui_3.corner" },
      { name := some "ScreenGui", type := some "Circle" }]⟩
    let circle : Item := { name := some "ScreenGui", type := some "Circle" }
    layout.counted[2]? = some circle ∧ circle.isHelper = false ∧
      ∃ w, (layout.toScript ⟨true, false⟩).warningsOf .duplicateName 2 = [w] ∧
        w.identifier = "ScreenGui_4" ∧
        w.message = "Duplicate identifier 'ScreenGui' renamed to 'ScreenGui_4'" := by
  intro layout circle
  have hitem : layout.counted[2]? = some circle := rfl
  have hnatural : Identifier.ofItem circle.name circle.type (2 : Nat) = "ScreenGui" := by
    decide +kernel
  have htaken : (preamble ++ (layout.writtenBefore ⟨true, false⟩ 2).flatMap
      (·.block false)).filterMap Statement.declares? =
        ["ScreenGui", "ScreenGui_2", "ScreenGui_3_corner"] := by decide +kernel
  have hearlier : (layout.writtenBefore ⟨true, false⟩ 2).length = 2 := by decide +kernel
  obtain ⟨identifier, after, -, -, hrenamed⟩ := identifier_of_uniqueNames layout false hitem rfl
  rw [htaken, hnatural, hearlier] at hrenamed
  obtain ⟨k, -, hk, hfree, -, hbound, -, w, hreported, hidentifier, hmessage⟩ :=
    hrenamed (by decide +kernel)
  obtain rfl : k = 4 := by
    have hne : k ≠ 2 ∧ k ≠ 3 := by
      constructor
      · rintro rfl
        exact absurd hfree (by decide +kernel)
      · rintro rfl
        exact absurd hfree (by decide +kernel)
    omega
  refine ⟨hitem, rfl, w, hreported, hidentifier.trans (by decide +kernel), hmessage.trans ?_⟩
  decide +kernel

end Layout

end LuauLayout
