import LuauLayout.Proofs.BlockRun
import LuauLayout.Proofs.UniqueNames
import LuauLayout.Proofs.Warnings
import Mathlib.Data.List.TakeWhile

/-! Running a script.  Between two blocks the name of the root stands for the first object, until a
block declares that name itself; from there on everything goes under the object of that block, and
nothing is added to the root.  So the root depicts the items up to the first one of that name, and all
of them exactly if there is none.  Other names may repeat: a block reads no name that it does not
declare, but for that of the root. -/

namespace LuauLayout

open Identifier (IsName isWord_of_all)
open Statement (render)

namespace Store

variable {s t : Store} {isSafe : Bool} {items : List Item} {item : Item} {a : Nat}

/-! ### What stays shown -/

theorem Shows.of_unchanged (h : s.Shows isSafe item a)
    (hu : ∀ b, b = a ∨ b ∈ s.children a → Unchanged b s t) : t.Shows isSafe item a := by
  have ha := hu a (Or.inl rfl)
  refine ⟨ha.class_eq.trans h.class_eq, fun key => (ha.property?_eq key).trans (h.property?_eq key),
    ?_⟩
  have hchildren := h.children_eq
  rw [ha.children_eq]
  split
  · rename_i hc
    rw [if_pos hc] at hchildren
    obtain ⟨b, hb, hcorner⟩ := hchildren
    have hub := hu b (Or.inr (by simp [hb]))
    exact ⟨b, hb, hub.class_eq.trans hcorner.class_eq,
      fun key => (hub.property?_eq key).trans (hcorner.property?_eq key),
      hub.children_eq.trans hcorner.children_eq⟩
  · rename_i hc
    rwa [if_neg hc] at hchildren

theorem forall₂_of_mem {α β : Type} {R S : α → β → Prop} {l : List α} {l' : List β}
    (h : List.Forall₂ R l l') (himp : ∀ a, ∀ b ∈ l', R a b → S a b) : List.Forall₂ S l l' := by
  induction h with
  | nil => exact List.Forall₂.nil
  | cons hab _ ih =>
    exact List.Forall₂.cons (himp _ _ List.mem_cons_self hab)
      (ih fun a b hb => himp a b (List.mem_cons_of_mem _ hb))

namespace Depicts

theorem size_pos (h : s.Depicts isSafe items) : 0 < s.size :=
  (List.getElem?_eq_some_iff.1 h.class_eq).1

theorem shows_of_unchanged (h : s.Depicts isSafe items) (hw : s.WellFormed)
    (hu : ∀ b, 0 < b → b < s.size → Unchanged b s t) :
    List.Forall₂ (t.Shows isSafe) items (s.children 0) := by
  refine forall₂_of_mem h.shows fun item a ha hshows => hshows.of_unchanged fun b hb => ?_
  have hb : 0 < b ∧ b < s.size := by
    rcases hb with rfl | hb
    · exact hw.bounds 0 b ha
    · exact hw.bounds a b hb
  exact hu b hb.1 hb.2

theorem of_unchanged (h : s.Depicts isSafe items) (hw : s.WellFormed)
    (hu : ∀ b < s.size, Unchanged b s t) : t.Depicts isSafe items := by
  have hroot := hu 0 h.size_pos
  have hshows := h.shows_of_unchanged hw fun b _ hb => hu b hb
  rw [← hroot.children_eq] at hshows
  exact ⟨hroot.class_eq.trans h.class_eq, hroot.children_eq ▸ h.nodup, hshows⟩

/-- A block under the root adds its item to those that the root depicts. -/
theorem draw (h : s.Depicts isSafe items) (hw : s.WellFormed) (item : Item) (identifier : String) :
    (s.draw item identifier isSafe 0).Depicts isSafe (items ++ [item]) := by
  have hpos := h.size_pos
  have hu : ∀ b, 0 < b → b < s.size → Unchanged b s (s.draw item identifier isSafe 0) :=
    fun b hb hsize => unchanged_draw hw hpos (Nat.zero_le _) hsize (by omega)
  have hshows := h.shows_of_unchanged hw hu
  constructor
  · rw [class_draw hpos]
    exact h.class_eq
  · rw [children_draw_host hw hpos]
    refine List.nodup_append.2 ⟨h.nodup, List.nodup_singleton _, ?_⟩
    intro b hb c hc
    obtain rfl := List.mem_singleton.1 hc
    have := (hw.bounds 0 b hb).2
    omega
  · rw [children_draw_host hw hpos]
    exact List.rel_append hshows (List.Forall₂.cons (shows_draw hw hpos) List.Forall₂.nil)

end Depicts

/-! ### Running blocks -/

/-- The lines of the blocks of some items. -/
def blockLines (isSafe : Bool) (placed : List Placed) : List String :=
  (placed.flatMap (·.block isSafe)).map render

theorem run?_blockLines_cons {p : Placed} (rest : List Placed) (hname : IsName p.identifier)
    {host : Nat} (hhost : s.host? p.identifier = some host) :
    s.run? (blockLines isSafe (p :: rest)) =
      (s.draw p.item p.identifier isSafe host).run? (blockLines isSafe rest) := by
  rw [blockLines, List.flatMap_cons, List.map_append, run?_append]
  show (s.run? ((p.item.block p.identifier isSafe).map render)).bind _ = _
  rw [run?_block hname hhost]
  rfl

/-- Once the name of the root stands for some other object, the objects before that one stay as they
are. -/
theorem run?_blocks_of_captured {placed : List Placed} (hnames : ∀ p ∈ placed, IsName p.identifier)
    (hw : s.WellFormed) {host : Nat} (hroot : s.lookup rootName = some host)
    (hhost : host < s.size) :
    ∃ t, s.run? (blockLines isSafe placed) = some t ∧ ∀ a < host, Unchanged a s t := by
  induction placed generalizing s host with
  | nil => exact ⟨s, rfl, fun a _ => Unchanged.refl a s⟩
  | cons p rest ih =>
    obtain ⟨next, hnext, hle⟩ : ∃ next, s.host? p.identifier = some next ∧ host ≤ next ∧
        next ≤ s.size := by
      rw [host?]
      split
      · exact ⟨s.size, rfl, by omega, Nat.le_refl _⟩
      · exact ⟨host, hroot, Nat.le_refl _, by omega⟩
    have hsize : s.size < (s.draw p.item p.identifier isSafe next).size := size_lt_draw
    have hwellFormed : (s.draw p.item p.identifier isSafe next).WellFormed :=
      wellFormed_draw hw (by omega) hle.2
    obtain ⟨t, ht, hu⟩ := ih (fun q hq => hnames q (List.mem_cons_of_mem _ hq)) hwellFormed
      (lookup_rootName_draw.trans hnext) (by omega)
    refine ⟨t, ?_, fun a ha => ?_⟩
    · rw [run?_blockLines_cons rest (hnames p List.mem_cons_self) hnext, ht]
    · exact (unchanged_draw hw (by omega) hle.2 (by omega) (by omega)).trans (hu a (by omega))

/-- The blocks up to the first one that declares the name of the root add their items to those that
the root depicts; the others add nothing. -/
theorem run?_blocks {placed : List Placed} (hnames : ∀ p ∈ placed, IsName p.identifier)
    (hw : s.WellFormed) (hroot : s.lookup rootName = some 0) (hd : s.Depicts isSafe items) :
    ∃ t, s.run? (blockLines isSafe placed) = some t ∧
      t.Depicts isSafe
        (items ++ (placed.takeWhile (·.identifier != rootName)).map (·.item)) := by
  induction placed generalizing s items with
  | nil => exact ⟨s, rfl, by simpa using hd⟩
  | cons p rest ih =>
    have hpos := hd.size_pos
    have hname := hnames p List.mem_cons_self
    have hrest : ∀ q ∈ rest, IsName q.identifier := fun q hq =>
      hnames q (List.mem_cons_of_mem _ hq)
    by_cases hid : rootName = p.identifier
    · -- From here on the root is out of reach, and so is all that it shows.
      have hhost : s.host? p.identifier = some s.size := if_pos hid
      obtain ⟨t, ht, hu⟩ := run?_blocks_of_captured hrest
        (wellFormed_draw hw hpos (Nat.le_refl _)) (lookup_rootName_draw.trans hhost) size_lt_draw
      refine ⟨t, (run?_blockLines_cons rest hname hhost).trans ht, ?_⟩
      have hnone : (p :: rest).takeWhile (·.identifier != rootName) = [] := by
        simp [hid]
      rw [hnone, List.map_nil, List.append_nil]
      exact hd.of_unchanged hw fun a ha =>
        (unchanged_draw hw hpos (Nat.le_refl _) ha (by omega)).trans (hu a ha)
    · have hhost : s.host? p.identifier = some 0 := (if_neg hid).trans hroot
      obtain ⟨t, ht, hdt⟩ := ih hrest (wellFormed_draw hw hpos (Nat.zero_le _))
        (lookup_rootName_draw.trans hhost) (hd.draw hw p.item p.identifier)
      refine ⟨t, (run?_blockLines_cons rest hname hhost).trans ht, ?_⟩
      rw [List.append_assoc] at hdt
      have hsome : (p :: rest).takeWhile (·.identifier != rootName) =
          p :: rest.takeWhile (·.identifier != rootName) := by
        simp [Ne.symm hid]
      rw [hsome]
      exact hdt

/-- What the preamble sets on the root before it gives the root its place. -/
def rootSettings : List (String × Expression) :=
  [("Name", .plain "GeneratedUI"), ("ResetOnSpawn", .boolean false)]

/-- The store with the root alone. -/
def rooted : Store :=
  ((({} : Store).create rootName "ScreenGui").setAll 0 rootSettings).set 0 "Parent"
    (.source Expression.playerGui.render)

theorem isSetting_of_mem_rootSettings : ∀ p ∈ rootSettings, Item.IsSetting p := by
  intro p hp
  simp only [rootSettings, List.mem_cons, List.not_mem_nil, or_false] at hp
  rcases hp with rfl | rfl
  · exact Item.isSetting_pair (by decide) rfl
  · exact Item.isSetting_pair (by decide) rfl

/-- The container of the interface is no local, so the root is not put under an object. -/
theorem run?_preamble : Store.run? {} (preamble.map render) = some rooted := by
  have hname := Identifier.isName_rootName
  generalize ht : ({} : Store).create rootName "ScreenGui" = t
  have hroot : t.lookup rootName = some 0 := by
    rw [← ht]
    rfl
  have hcontainer : t.lookup Expression.playerGui.render = none := by
    rw [← ht]
    decide
  have hplace : (t.setAll 0 rootSettings).step?
      (Statement.assign rootName "Parent" .playerGui).render = some rooted := by
    rw [step?_assign hname.isWord (isWord_of_all (by decide)) ((lookup_setAll _ _).trans hroot)
      (fun _ => (lookup_setAll _ _).trans hcontainer), read?_of_isConstant rfl, rooted, ht]
    rfl
  have hpreamble : preamble = Statement.declare rootName "ScreenGui" ::
      ((rootSettings.map fun p => Statement.assign rootName p.1 p.2) ++
        [Statement.assign rootName "Parent" .playerGui]) := rfl
  rw [hpreamble, List.map_cons, run?_cons, step?_declare hname.isWord (isWord_of_all (by decide)),
    Option.bind_some, ht, List.map_append, run?_append,
    run?_assigns hname hroot isSetting_of_mem_rootSettings, Option.bind_some, List.map_cons,
    run?_cons, hplace]
  rfl

theorem wellFormed_empty : ({} : Store).WellFormed :=
  ⟨fun _ _ _ => rfl, fun _ _ => rfl, fun _ _ h => absurd h List.not_mem_nil⟩

theorem wellFormed_rooted : rooted.WellFormed := by
  have hroot := wellFormed_empty.create rootName "ScreenGui"
  exact (hroot.setAll Nat.one_pos _).set Nat.one_pos _ _

theorem depicts_rooted (isSafe : Bool) : rooted.Depicts isSafe [] :=
  ⟨rfl, List.nodup_nil, List.Forall₂.nil⟩

end Store

/-! ### The items of a script -/

namespace Layout

/-- The placed items that have a block. -/
def written (layout : Layout) (options : ExportOptions) : List Placed :=
  (layout.placed options).filter (·.isWritten)

/-- The items that are neither hidden nor helpers. -/
def shown (layout : Layout) : List Item :=
  layout.items.filter fun item => item.exported && !item.isHelper

theorem shown_eq_filter_counted (layout : Layout) :
    layout.shown = layout.counted.filter (!·.isHelper) := by
  rw [shown, counted, List.filter_filter]
  simp only [Bool.and_comm]

theorem map_item_written (layout : Layout) (options : ExportOptions) :
    (layout.written options).map (·.item) = layout.shown := by
  rw [written, shown_eq_filter_counted, ← map_item_placed layout options, List.filter_map]
  rfl

theorem length_written (layout : Layout) (options : ExportOptions) :
    (layout.written options).length = (layout.toScript options).itemCount :=
  List.countP_eq_length_filter.symm

theorem isName_of_mem_written {layout : Layout} {options : ExportOptions} {p : Placed}
    (h : p ∈ layout.written options) : IsName p.identifier :=
  isName_identifier (List.mem_filter.1 h).1

theorem identifier_ne_rootName_of_uniqueNames {layout : Layout} {options : ExportOptions}
    (hu : options.uniqueNames = true) {p : Placed} (h : p ∈ layout.written options) :
    p.identifier ≠ rootName := by
  intro hid
  have hlocal : rootName ∈ writtenLocals (layout.placed options) :=
    List.mem_flatMap.2 ⟨p, h, hid ▸ p.item.self_mem_locals p.identifier⟩
  exact (nodup_writtenLocals_place hu [rootName] _).2 rootName hlocal (List.mem_singleton_self _)

/-- The root has as many objects under it as there are blocks, and they show the items in order. -/
def Rebuilds (layout : Layout) (options : ExportOptions) (s : Store) : Prop :=
  s.Depicts options.safeText layout.shown ∧
    (s.children 0).length = (layout.toScript options).itemCount

/-- The script of a layout runs, and the root depicts the items before the first one of its own name.
So the tree is rebuilt if and only if no item has that name, which it has neither under unique names
nor without a warning. -/
theorem run?_statements_rebuilds (layout : Layout) (options : ExportOptions) :
    ∃ s, Store.run? {} ((layout.statements options).map render) = some s ∧
      s.Depicts options.safeText
        (((layout.written options).takeWhile (·.identifier != rootName)).map (·.item)) ∧
      (layout.Rebuilds options s ↔ ∀ p ∈ layout.written options, p.identifier ≠ rootName) ∧
      (options.uniqueNames = true → layout.Rebuilds options s) ∧
      ((∀ w ∈ (layout.toScript options).warnings, w.kind ≠ .duplicateName) →
        layout.Rebuilds options s) := by
  obtain ⟨s, hrun, hd⟩ := Store.run?_blocks (fun p hp => isName_of_mem_written hp)
    Store.wellFormed_rooted rfl (Store.depicts_rooted options.safeText)
  rw [List.nil_append] at hd
  have hscript : Store.run? {} ((layout.statements options).map render) = some s := by
    rw [statements, List.map_append, Store.run?_append, Store.run?_preamble]
    exact hrun
  have hiff : layout.Rebuilds options s ↔
      ∀ p ∈ layout.written options, p.identifier ≠ rootName := by
    have hlength := hd.shows.length_eq
    rw [List.length_map] at hlength
    constructor
    · rintro ⟨-, hcount⟩ p hp
      rw [hcount, ← length_written] at hlength
      have hwhole := (List.takeWhile_prefix _).eq_of_length hlength
      simpa using List.takeWhile_eq_self_iff.1 hwhole p hp
    · intro hnames
      have hwhole : (layout.written options).takeWhile (·.identifier != rootName) =
          layout.written options :=
        List.takeWhile_eq_self_iff.2 fun p hp => by simpa using hnames p hp
      rw [hwhole, length_written] at hlength
      rw [hwhole, map_item_written] at hd
      exact ⟨hd, hlength.symm⟩
  refine ⟨s, hscript, hd, hiff, ?_, ?_⟩
  · exact fun hu => hiff.2 fun p hp => identifier_ne_rootName_of_uniqueNames hu hp
  · intro hwarnings
    refine hiff.2 fun p hp hid => ?_
    obtain ⟨hplaced, hwritten⟩ := List.mem_filter.1 hp
    by_cases hu : options.uniqueNames = true
    · exact identifier_ne_rootName_of_uniqueNames hu hp hid
    · obtain ⟨w, hw, hkind⟩ := Placed.exists_duplicate_of_identifier_eq_rootName
        (layout.placed options) hu hplaced hwritten hid
      exact hwarnings w (List.mem_flatMap.2 ⟨p, hplaced, hw⟩) hkind

end Layout

end LuauLayout
