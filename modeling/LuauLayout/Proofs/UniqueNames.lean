import LuauLayout.Proofs.Placed
import Mathlib.Data.Finset.Card

/-! Unique names.  The blocks of one identifier under different numbers have no local in common, so a
taken name rules out one number at most and the search for a free number finds one.  From there the
locals of a script with unique names are pairwise distinct: the taken names are those declared so
far, and each block adds locals that were free. -/

namespace LuauLayout

namespace Item

theorem eq_or_eq_of_mem_locals {item : Item} {identifier name : String}
    (h : name ∈ item.locals identifier) :
    name = identifier ∨ name = Identifier.corner identifier := by
  rw [locals] at h
  split at h
  · simpa using h
  · exact Or.inl (by simpa using h)

theorem nodup_locals (item : Item) (identifier : String) : (item.locals identifier).Nodup := by
  rw [locals]
  split
  · exact List.nodup_cons.2
      ⟨by simpa using (Identifier.corner_ne_self identifier).symm, List.nodup_singleton _⟩
  · exact List.nodup_singleton _

theorem isName_of_mem_locals {item : Item} {identifier name : String}
    (hi : Identifier.IsName identifier) (h : name ∈ item.locals identifier) :
    Identifier.IsName name := by
  rcases eq_or_eq_of_mem_locals h with rfl | rfl
  · exact hi
  · exact hi.corner

end Item

/-! ### Free numbers -/

section Free

variable {taken : List String} {item : Item} {natural : String}

theorem isFree_iff {identifier : String} :
    isFree taken item identifier = true ↔ ∀ name ∈ item.locals identifier, name ∉ taken := by
  simp [isFree]

/-- A number ends in a digit and a corner does not. -/
theorem Identifier.suffixed_ne_corner (s t : String) (n : Nat) : suffixed s n ≠ corner t := by
  intro h
  have hne : Nat.toDigits 10 n ≠ [] := Nat.toDigits_ne_nil
  have hsuffixed : (suffixed s n).toList.getLast? = some ((Nat.toDigits 10 n).getLast hne) := by
    rw [suffixed, String.toList_append, Nat.toList_repr, List.getLast?_append_of_ne_nil _ hne,
      List.getLast?_eq_some_getLast hne]
  have hcorner : (corner t).toList.getLast? = some 'r' := by
    simp [corner]
  have hdigit : ((Nat.toDigits 10 n).getLast hne).isDigit = true :=
    Nat.isDigit_of_mem_toDigits (by decide) (by decide) (List.getLast_mem hne)
  rw [h, hcorner, Option.some.injEq] at hsuffixed
  rw [← hsuffixed] at hdigit
  exact absurd hdigit (by decide)

/-- A name holds one number at most, at its end or in front of a corner. -/
theorem Identifier.eq_of_suffixed_or_corner {s t name : String} {m n : Nat}
    (hm : name = suffixed s m ∨ name = corner (suffixed s m))
    (hn : name = suffixed t n ∨ name = corner (suffixed t n)) : m = n := by
  rcases hm with rfl | rfl <;> rcases hn with h | h
  · exact suffixed_injective h
  · exact absurd h (suffixed_ne_corner _ _ _)
  · exact absurd h.symm (suffixed_ne_corner _ _ _)
  · exact suffixed_injective (corner_injective h)

theorem eq_of_mem_locals_suffixed {item' : Item} {s t name : String} {m n : Nat}
    (hm : name ∈ item.locals (Identifier.suffixed s m))
    (hn : name ∈ item'.locals (Identifier.suffixed t n)) : m = n :=
  Identifier.eq_of_suffixed_or_corner (Item.eq_or_eq_of_mem_locals hm)
    (Item.eq_or_eq_of_mem_locals hn)

theorem ne_rootName_of_mem_locals_suffixed {name : String} {n : Nat}
    (h : name ∈ item.locals (Identifier.suffixed natural n)) : name ≠ rootName := by
  rcases Item.eq_or_eq_of_mem_locals h with rfl | rfl
  · exact Identifier.suffixed_ne_rootName natural n
  · exact Identifier.corner_ne_rootName (Identifier.suffixed natural n)

/-- Among one number more than a list has members, one is ruled out by none of them, if each of them
rules out one number at most. -/
theorem exists_not_ruledOut {α : Type} (members : List α) (rulesOut : α → Nat → Prop) (start : Nat)
    (hone : ∀ a ∈ members, ∀ m n, rulesOut a m → rulesOut a n → m = n) :
    ∃ n, start ≤ n ∧ n ≤ start + members.length ∧ ∀ a ∈ members, ¬rulesOut a n := by
  by_contra hnone
  push Not at hnone
  have hreach : ∀ n ∈ List.range' start (members.length + 1), ∃ a ∈ members, rulesOut a n := by
    intro n hn
    rw [List.mem_range'_1] at hn
    exact hnone n hn.1 (by omega)
  obtain ⟨a, -, -⟩ := hreach start (by simp)
  have : Nonempty α := ⟨a⟩
  choose! culprit hmem hrules using hreach
  -- different numbers are ruled out by different members, of which there are not enough
  have hnodup : ((List.range' start (members.length + 1)).map culprit).Nodup := by
    refine List.Nodup.map_on ?_ List.nodup_range'
    intro m hm n hn heq
    exact hone _ (hmem m hm) m n (hrules m hm) (heq ▸ hrules n hn)
  have hsubset : (List.range' start (members.length + 1)).map culprit ⊆ members := by
    intro b hb
    obtain ⟨n, hn, rfl⟩ := List.mem_map.1 hb
    exact hmem n hn
  have hlength := (List.subperm_of_subset hnodup hsubset).length_le
  rw [List.length_map, List.length_range'] at hlength
  omega

/-- Among one number more than there are taken names, one is free. -/
theorem exists_isFree (taken : List String) (item : Item) (natural : String) (start : Nat) :
    ∃ n, start ≤ n ∧ n ≤ start + taken.length ∧
      isFree taken item (Identifier.suffixed natural n) = true := by
  obtain ⟨n, hstart, hend, hfree⟩ := exists_not_ruledOut taken
    (fun name n => name ∈ item.locals (Identifier.suffixed natural n)) start
    fun _ _ _ _ hm hn => eq_of_mem_locals_suffixed hm hn
  exact ⟨n, hstart, hend, isFree_iff.2 fun name hlocal htaken => hfree name htaken hlocal⟩

theorem isFree_freeIdentifier (taken : List String) (item : Item) (natural : String) :
    isFree taken item (freeIdentifier taken item natural) = true := by
  obtain ⟨n, hstart, hend, hfree⟩ := exists_isFree taken item natural 2
  exact apply_leastFrom_eq_true
    (p := fun n => isFree taken item (Identifier.suffixed natural n)) hstart (by omega) hfree

theorem isFree_chosenIdentifier {options : ExportOptions} (hu : options.uniqueNames = true) :
    isFree taken item (chosenIdentifier options taken item natural) = true := by
  rw [chosenIdentifier, hu, Bool.true_and]
  split
  · exact isFree_freeIdentifier taken item natural
  · rename_i h
    simpa using h

end Free

/-! ### All locals -/

/-- The locals of written blocks, in order. -/
def writtenLocals (placed : List Placed) : List String :=
  (placed.filter (·.isWritten)).flatMap (·.locals)

theorem writtenLocals_cons_of_isWritten {p : Placed} (h : p.isWritten = true)
    (rest : List Placed) : writtenLocals (p :: rest) = p.locals ++ writtenLocals rest := by
  simp [writtenLocals, h]

theorem writtenLocals_cons_of_not_isWritten {p : Placed} (h : ¬p.isWritten = true)
    (rest : List Placed) : writtenLocals (p :: rest) = writtenLocals rest := by
  simp [writtenLocals, h]

/-- With unique names the blocks declare distinct locals, none of which was taken before. -/
theorem nodup_writtenLocals_place {options : ExportOptions} (hu : options.uniqueNames = true)
    (taken : List String) (items : List (Item × Nat)) :
    (writtenLocals (place options taken items)).Nodup ∧
      ∀ name ∈ writtenLocals (place options taken items), name ∉ taken := by
  induction items generalizing taken with
  | nil => simp [place, writtenLocals]
  | cons entry rest ih =>
    obtain ⟨item, index⟩ := entry
    by_cases hh : item.isHelper = true
    · rw [place_cons_of_isHelper hh rfl,
        writtenLocals_cons_of_not_isWritten (by simp [Placed.isWritten, hh])]
      exact ih taken
    · generalize hn : Identifier.ofItem item.name item.type index = natural
      generalize hi : chosenIdentifier options taken item natural = identifier
      have hchosen : isFree taken item identifier = true := hi ▸ isFree_chosenIdentifier hu
      have hfree := isFree_iff.1 hchosen
      obtain ⟨hnodup, hrest⟩ := ih (item.locals identifier ++ taken)
      rw [place_cons_of_not_isHelper hh hn, hi,
        writtenLocals_cons_of_isWritten (by simp [Placed.isWritten, hh]), Placed.locals]
      constructor
      · refine List.nodup_append.2 ⟨item.nodup_locals identifier, hnodup, ?_⟩
        rintro a ha b hb rfl
        exact hrest a hb (List.mem_append_left _ ha)
      · intro name hname
        rcases List.mem_append.1 hname with hlocal | hlater
        · exact hfree name hlocal
        · exact fun htaken => hrest name hlater (List.mem_append_right _ htaken)

namespace Layout

theorem filterMap_declares_blocks (isSafe : Bool) (placed : List Placed) :
    (placed.flatMap (·.block isSafe)).filterMap Statement.declares? =
      placed.flatMap (·.locals) := by
  induction placed with
  | nil => rfl
  | cons p rest ih =>
    rw [List.flatMap_cons, List.filterMap_append, ih, List.flatMap_cons]
    exact congrArg (· ++ _) (p.item.filterMap_declares_block p.identifier isSafe)

/-- The locals that a script declares are its root and those of the written items, in order. -/
theorem filterMap_declares_statements (layout : Layout) (options : ExportOptions) :
    (layout.statements options).filterMap Statement.declares? =
      scriptLocals (layout.placed options) := by
  rw [statements, List.filterMap_append, filterMap_declares_blocks]
  rfl

theorem nodup_scriptLocals_of_uniqueNames {options : ExportOptions}
    (hu : options.uniqueNames = true) (layout : Layout) :
    (scriptLocals (layout.placed options)).Nodup := by
  obtain ⟨hnodup, htaken⟩ := nodup_writtenLocals_place hu [rootName]
    (layout.items.filter (·.exported)).zipIdx
  exact List.nodup_cons.2
    ⟨fun hroot => htaken rootName hroot (List.mem_singleton_self _), hnodup⟩

/-- With unique names no two locals of a script have the same name, and every local is a name. -/
theorem nodup_declared_of_uniqueNames (layout : Layout) (isSafe : Bool) :
    let options : ExportOptions := ⟨true, isSafe⟩
    let declared := (layout.statements options).filterMap Statement.declares?
    declared = scriptLocals (layout.placed options) ∧ declared.Nodup ∧
      ∀ name ∈ declared, Identifier.IsName name := by
  intro options declared
  have hdeclared : declared = scriptLocals (layout.placed options) :=
    layout.filterMap_declares_statements options
  refine ⟨hdeclared, ?_, ?_⟩
  · rw [hdeclared]
    exact nodup_scriptLocals_of_uniqueNames rfl layout
  · intro name hname
    rw [hdeclared] at hname
    rcases List.mem_cons.1 hname with rfl | hname
    · exact Identifier.isName_rootName
    · obtain ⟨p, hp, hlocal⟩ := List.mem_flatMap.1 hname
      exact Item.isName_of_mem_locals (isName_identifier (List.mem_filter.1 hp).1) hlocal

end Layout

end LuauLayout
