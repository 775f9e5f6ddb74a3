import LuauLayout.Proofs.Renaming
import Mathlib.Data.List.Lex
import Mathlib.Data.String.Basic

/-! Repeated locals.  Without unique names the locals of a script follow from its items alone: the
root, and for each item that is neither hidden nor a helper its identifier, with a corner for a circle.
An item is warned about exactly if a local that its block declares is declared more than once in the
script; there is one warning, and it tells of the least of these locals how often it is declared. -/

namespace LuauLayout

theorem Identifier.lt_corner (s : String) : s < corner s := by
  have hnil : ([] : List Char) < "_corner".toList := by decide
  have hlex := List.Lex.append_left (· < ·) hnil s.toList
  rw [String.lt_iff_toList_lt, corner, String.toList_append]
  simpa using hlex

theorem Item.pairwise_locals (item : Item) (identifier : String) :
    (item.locals identifier).Pairwise (· ≤ ·) := by
  rw [locals]
  split
  · exact List.pairwise_pair.2 (Identifier.lt_corner identifier).le
  · exact List.pairwise_singleton _ _

namespace Placed

variable {options : ExportOptions} {names : List String} {p : Placed}

/-- The locals of the item that are declared more than once. -/
def clashes (names : List String) (p : Placed) : List String :=
  p.locals.filter fun name => 1 < names.count name

theorem duplicate?_of_plain (hu : ¬options.uniqueNames = true) :
    p.duplicate? options names =
      (p.clashes names).head?.map fun name => .repeated name (names.count name) := by
  rw [duplicate?, if_neg hu, clashes, List.head?_filter]

/-- The first of the locals that clash is the least one. -/
theorem le_of_clashes_eq_cons {name : String} {rest : List String}
    (h : p.clashes names = name :: rest) : ∀ other ∈ p.clashes names, name ≤ other := by
  have hsorted : (p.clashes names).Pairwise (· ≤ ·) :=
    (p.item.pairwise_locals p.identifier).filter _
  rw [h] at hsorted ⊢
  intro other hother
  rcases List.mem_cons.1 hother with rfl | hother
  · exact le_rfl
  · exact (List.pairwise_cons.1 hsorted).1 other hother

end Placed

namespace Layout

variable {layout : Layout} {isSafe : Bool}

/-- The locals of a script without unique names, by the items that have a block. -/
def naturalLocals (layout : Layout) : List String :=
  rootName :: (layout.counted.zipIdx.filter fun e => !e.1.isHelper).flatMap fun e =>
    e.1.locals (Identifier.ofItem e.1.name e.1.type e.2)

theorem identifier_of_mem_placed_plain {p : Placed} (hp : p ∈ layout.placed ⟨false, isSafe⟩) :
    p.identifier = Identifier.ofItem p.item.name p.item.type p.index :=
  (identifier_eq_natural_of_plain hp).trans (natural_of_mem_place hp)

/-- Hidden items and helpers have no local in the script. -/
theorem scriptLocals_placed_plain (layout : Layout) (isSafe : Bool) :
    scriptLocals (layout.placed ⟨false, isSafe⟩) = layout.naturalLocals := by
  rw [scriptLocals, naturalLocals, ← layout.map_item_index_placed ⟨false, isSafe⟩, List.filter_map,
    List.flatMap_map]
  refine congrArg _ (List.flatMap_congr fun p hp => ?_)
  rw [Placed.locals, identifier_of_mem_placed_plain (List.mem_filter.1 hp).1]

/-- Without unique names, a written item gets one warning of a duplicate if a local of its block is
declared more than once in the script, which names the least such local and how often it is declared,
and no such warning otherwise. -/
theorem duplicateName_warnings_of_plain (layout : Layout) (isSafe : Bool) {i : Nat} {item : Item}
    (hitem : layout.counted[i]? = some item) (hwritten : item.isHelper = false) :
    let options : ExportOptions := ⟨false, isSafe⟩
    let declared := (layout.statements options).filterMap Statement.declares?
    let identifier := Identifier.ofItem item.name item.type i
    let block := item.block identifier isSafe
    let clashes := (block.filterMap Statement.declares?).filter fun name => 1 < declared.count name
    let reported := (layout.toScript options).warningsOf .duplicateName i
    declared = layout.naturalLocals ∧
      (∃ before after, layout.statements options = before ++ (block ++ after)) ∧
      (clashes = [] → reported = []) ∧
      (clashes ≠ [] → ∃ name ∈ clashes, ∃ w, (∀ other ∈ clashes, name ≤ other) ∧
        reported = [w] ∧ w.identifier = identifier ∧
        w.message = "Identifier '" ++ name ++ "' is declared " ++
          toString (declared.count name) ++ " times") := by
  intro options declared identifier block clashes reported
  obtain ⟨p, hp, rfl, rfl⟩ := exists_placed hitem options
  have hid : p.identifier = identifier := identifier_of_mem_placed_plain hp
  have hp_written : p.isWritten = true := by simp [Placed.isWritten, hwritten]
  have hlocals : declared = scriptLocals (layout.placed options) :=
    layout.filterMap_declares_statements options
  have hclashes : clashes = p.clashes declared := by
    rw [Placed.clashes, Placed.locals, hid, ← Item.filterMap_declares_block _ _ isSafe]
  have hreported : reported = (p.clashes declared).head?.toList.map fun name =>
      ⟨p.index, p.identifier, .repeated name (declared.count name)⟩ := by
    have hu : ¬options.uniqueNames = true := Bool.false_ne_true
    have hwarnings : reported = _ := warningsOf_placed hp .duplicateName
    rw [hwarnings, Placed.filter_kind_duplicate hp_written, Placed.duplicateWarnings, ← hlocals,
      Placed.duplicate?_of_plain hu]
    cases (p.clashes declared).head? <;> rfl
  refine ⟨hlocals.trans (layout.scriptLocals_placed_plain isSafe), ?_, ?_, ?_⟩
  · obtain ⟨front, behind, hsplit⟩ := List.append_of_mem hp
    have hstatements := statements_of_placed hsplit hp_written
    rw [Placed.block, hid] at hstatements
    exact ⟨_, _, hstatements⟩
  · intro hnone
    rw [hreported, ← hclashes, hnone]
    rfl
  · intro hsome
    obtain ⟨name, rest, hcons⟩ := List.exists_cons_of_ne_nil hsome
    rw [hclashes] at hcons ⊢
    refine ⟨name, hcons ▸ List.mem_cons_self,
      ⟨p.index, p.identifier, .repeated name (declared.count name)⟩,
      Placed.le_of_clashes_eq_cons hcons, ?_, hid, rfl⟩
    rw [hreported, hcons]
    rfl

/-- The corner of a circle clashes with a later item of its name; a hidden item and a helper of the
name of the circle do not. -/
theorem duplicateName_warnings_of_corner :
    let layout : Layout := ⟨none, [{ name := some "A", exported := false },
      { name := some "A", type := some "Spacer" }, { name := some "A", type := some "Circle" },
      { name := some "A.corner" }]⟩
    let circle : Item := { name := some "A", type := some "Circle" }
    layout.counted[1]? = some circle ∧ circle.isHelper = false ∧
      ∃ w, (layout.toScript ⟨false, false⟩).warningsOf .duplicateName 1 = [w] ∧
        w.identifier = "A" ∧ w.message = "Identifier 'A_corner' is declared 2 times" := by
  intro layout circle
  have hitem : layout.counted[1]? = some circle := rfl
  have hid : Identifier.ofItem circle.name circle.type (1 : Nat) = "A" := by decide +kernel
  have hclashes : ((circle.block "A" false).filterMap Statement.declares?).filter
      (fun name => 1 < layout.naturalLocals.count name) = ["A_corner"] := by decide +kernel
  have hcount : layout.naturalLocals.count "A_corner" = 2 := by decide +kernel
  obtain ⟨hdeclared, -, -, hsome⟩ := duplicateName_warnings_of_plain layout false hitem rfl
  rw [hdeclared, hid, hclashes] at hsome
  obtain ⟨name, hname, w, -, hreported, hidentifier, hmessage⟩ := hsome (List.cons_ne_nil _ _)
  obtain rfl : name = "A_corner" := List.mem_singleton.1 hname
  rw [hcount] at hmessage
  exact ⟨hitem, rfl, w, hreported, hidentifier, hmessage⟩

end Layout

end LuauLayout
