import LuauLayout.Export
import LuauLayout.Proofs.Identifier

/-! The placed items of a layout: which items they hold and which identifiers they may have, whatever
the switches of the export are. -/

namespace LuauLayout

/-- The identifier of an item that is written when `taken` holds the locals before it. -/
def chosenIdentifier (options : ExportOptions) (taken : List String) (item : Item)
    (natural : String) : String :=
  if options.uniqueNames && !isFree taken item natural then freeIdentifier taken item natural
  else natural

section Place

variable {options : ExportOptions} {taken : List String} {item : Item} {index : Nat}
  {rest : List (Item × Nat)} {natural : String}

theorem place_cons_of_isHelper (h : item.isHelper = true)
    (hn : Identifier.ofItem item.name item.type index = natural) :
    place options taken ((item, index) :: rest) =
      ⟨index, item, natural, natural⟩ :: place options taken rest := by
  rw [place]
  simp only [hn, if_pos h]

theorem place_cons_of_not_isHelper (h : ¬item.isHelper = true)
    (hn : Identifier.ofItem item.name item.type index = natural) :
    place options taken ((item, index) :: rest) =
      ⟨index, item, natural, chosenIdentifier options taken item natural⟩ ::
        place options (item.locals (chosenIdentifier options taken item natural) ++ taken) rest := by
  rw [place]
  simp only [hn, if_neg h]
  rfl

theorem isName_chosenIdentifier (h : Identifier.IsName natural) :
    Identifier.IsName (chosenIdentifier options taken item natural) := by
  rw [chosenIdentifier]
  split
  · exact h.suffixed _
  · exact h

end Place

/-- A placed item is one of the items, and its identifier is a name. -/
theorem mem_place {options : ExportOptions} {taken : List String} {items : List (Item × Nat)}
    {p : Placed} (h : p ∈ place options taken items) :
    (p.item, p.index) ∈ items ∧ Identifier.IsName p.identifier := by
  induction items generalizing taken with
  | nil => simp [place] at h
  | cons entry rest ih =>
    obtain ⟨item, index⟩ := entry
    generalize hn : Identifier.ofItem item.name item.type index = natural
    have hname : Identifier.IsName natural := hn ▸ Identifier.isName_ofItem _ _ _
    by_cases hh : item.isHelper = true
    · rw [place_cons_of_isHelper hh hn] at h
      rcases List.mem_cons.1 h with rfl | h
      · exact ⟨List.mem_cons_self, hname⟩
      · exact ⟨List.mem_cons_of_mem _ (ih h).1, (ih h).2⟩
    · rw [place_cons_of_not_isHelper hh hn] at h
      rcases List.mem_cons.1 h with rfl | h
      · exact ⟨List.mem_cons_self, isName_chosenIdentifier hname⟩
      · exact ⟨List.mem_cons_of_mem _ (ih h).1, (ih h).2⟩

/-- Placing keeps the items, their numbers and the identifiers of their names. -/
theorem map_place (options : ExportOptions) (taken : List String) (items : List (Item × Nat)) :
    (place options taken items).map (fun p => (p.item, p.index, p.natural)) =
      items.map fun e => (e.1, e.2, Identifier.ofItem e.1.name e.1.type e.2) := by
  induction items generalizing taken with
  | nil => rfl
  | cons entry rest ih =>
    obtain ⟨item, index⟩ := entry
    by_cases hh : item.isHelper = true
    · rw [place_cons_of_isHelper hh rfl, List.map_cons, ih, List.map_cons]
    · rw [place_cons_of_not_isHelper hh rfl, List.map_cons, ih, List.map_cons]

theorem map_item_index_place (options : ExportOptions) (taken : List String)
    (items : List (Item × Nat)) :
    (place options taken items).map (fun p => (p.item, p.index)) = items := by
  have h := congrArg (List.map fun e => (e.1, e.2.1)) (map_place options taken items)
  rw [List.map_map, List.map_map] at h
  exact h.trans (List.map_id' items)

theorem map_item_place (options : ExportOptions) (taken : List String)
    (items : List (Item × Nat)) :
    (place options taken items).map (·.item) = items.map Prod.fst := by
  have h := congrArg (List.map Prod.fst) (map_item_index_place options taken items)
  rwa [List.map_map] at h

theorem natural_of_mem_place {options : ExportOptions} {taken : List String}
    {items : List (Item × Nat)} {p : Placed} (h : p ∈ place options taken items) :
    p.natural = Identifier.ofItem p.item.name p.item.type p.index := by
  have hmem := List.mem_map_of_mem (f := fun p : Placed => (p.item, p.index, p.natural)) h
  rw [map_place] at hmem
  obtain ⟨⟨item, index⟩, -, heq⟩ := List.mem_map.1 hmem
  simp only [Prod.mk.injEq] at heq
  obtain ⟨rfl, rfl, hnatural⟩ := heq
  exact hnatural.symm

/-- A placed item keeps the identifier of its name unless it is written, and then the locals before it
choose. -/
theorem identifier_eq_natural_or_chosen {options : ExportOptions} {taken : List String}
    {items : List (Item × Nat)} {p : Placed} (h : p ∈ place options taken items) :
    p.identifier = p.natural ∨ p.isWritten = true ∧
      ∃ before, p.identifier = chosenIdentifier options before p.item p.natural := by
  induction items generalizing taken with
  | nil => simp [place] at h
  | cons entry rest ih =>
    obtain ⟨item, index⟩ := entry
    by_cases hh : item.isHelper = true
    · rw [place_cons_of_isHelper hh rfl] at h
      rcases List.mem_cons.1 h with rfl | h
      · exact Or.inl rfl
      · exact ih h
    · rw [place_cons_of_not_isHelper hh rfl] at h
      rcases List.mem_cons.1 h with rfl | h
      · exact Or.inr ⟨by simp [Placed.isWritten, hh], taken, rfl⟩
      · exact ih h

theorem identifier_of_not_isWritten {options : ExportOptions} {taken : List String}
    {items : List (Item × Nat)} {p : Placed} (h : p ∈ place options taken items)
    (hp : ¬p.isWritten = true) : p.identifier = p.natural :=
  (identifier_eq_natural_or_chosen h).resolve_right fun hchosen => hp hchosen.1

namespace Layout

variable {layout : Layout} {options : ExportOptions} {p : Placed}

theorem item_mem_of_mem_placed (h : p ∈ layout.placed options) :
    p.item ∈ layout.items ∧ p.item.exported = true := by
  have hmem := List.fst_mem_of_mem_zipIdx (mem_place h).1
  exact List.mem_filter.1 hmem

theorem isName_identifier (h : p ∈ layout.placed options) : Identifier.IsName p.identifier :=
  (mem_place h).2

/-- The items that are not hidden.  The number of an item is its place among them. -/
def counted (layout : Layout) : List Item := layout.items.filter (·.exported)

theorem map_item_index_placed (layout : Layout) (options : ExportOptions) :
    (layout.placed options).map (fun p => (p.item, p.index)) = layout.counted.zipIdx :=
  map_item_index_place options [rootName] layout.counted.zipIdx

theorem map_item_placed (layout : Layout) (options : ExportOptions) :
    (layout.placed options).map (·.item) = layout.counted := by
  rw [placed, map_item_place, List.zipIdx_map_fst, counted]

/-- The number of a placed item is its place among them. -/
theorem zipIdx_placed (layout : Layout) (options : ExportOptions) :
    (layout.placed options).zipIdx = (layout.placed options).map fun p => (p, p.index) := by
  have hindex : (layout.placed options).map (·.index) =
      List.range' 0 (layout.placed options).length := by
    have h := congrArg (List.map Prod.snd) (layout.map_item_index_placed options)
    rw [List.map_map, List.zipIdx_map_snd, ← map_item_placed layout options, List.length_map] at h
    exact h
  have hzip : ((layout.placed options).map id).zip ((layout.placed options).map (·.index)) =
      (layout.placed options).map fun p => (p, p.index) := List.zip_map'
  rw [List.map_id] at hzip
  rw [List.zipIdx_eq_zip_range', ← hindex, hzip]

/-- The item of a number is the one placed there. -/
theorem exists_getElem?_placed {i : Nat} {item : Item} (h : layout.counted[i]? = some item)
    (options : ExportOptions) :
    ∃ p, (layout.placed options)[i]? = some p ∧ p.item = item ∧ p.index = i := by
  rw [← map_item_placed layout options, List.getElem?_map, Option.map_eq_some_iff] at h
  obtain ⟨p, hp, rfl⟩ := h
  refine ⟨p, hp, rfl, ?_⟩
  have hzip : (p, i) ∈ (layout.placed options).zipIdx := List.mk_mem_zipIdx_iff_getElem?.2 hp
  rw [zipIdx_placed, List.mem_map] at hzip
  obtain ⟨q, -, heq⟩ := hzip
  obtain ⟨rfl, hindex⟩ := Prod.mk.inj heq
  exact hindex

/-- The item of a number is placed under that number. -/
theorem exists_placed {i : Nat} {item : Item} (h : layout.counted[i]? = some item)
    (options : ExportOptions) :
    ∃ p ∈ layout.placed options, p.item = item ∧ p.index = i := by
  obtain ⟨p, hp, hitem⟩ := exists_getElem?_placed h options
  exact ⟨p, List.mem_of_getElem? hp, hitem⟩

theorem pairwise_index_placed (layout : Layout) (options : ExportOptions) :
    (layout.placed options).Pairwise fun p q => p.index < q.index := by
  have hindex : (layout.placed options).map (·.index) = List.range' 0 layout.counted.length := by
    have h := congrArg (List.map Prod.snd) (layout.map_item_index_placed options)
    rwa [List.map_map, List.zipIdx_map_snd] at h
  rw [← List.pairwise_map, hindex]
  exact List.pairwise_lt_range'

end Layout

end LuauLayout
