import LuauLayout.Proofs.ObjectStore
import Mathlib.Data.List.Forall2

/-! Trees of objects.  An object shows an item if it has the class and the properties of the item and
nothing else, and a circle one corner under it; the root depicts a list of items if the objects under
it show them in order.  New objects, and what is done to them, leave the older ones as they were. -/

namespace LuauLayout

/-- The text of a property of the object of an item, if the item sets it. -/
def Item.appearance (item : Item) (isSafe : Bool) : String → Option String
  | "Position" => some ("UDim2.fromOffset(" ++ item.x.literal ++ ", " ++ item.y.literal ++ ")")
  | "Size" => some ("UDim2.fromOffset(" ++ item.w.literal ++ ", " ++ item.h.literal ++ ")")
  | "BackgroundColor3" => (given item.fill).map fun s => "Color3.fromHex(\"" ++ s ++ "\")"
  | "BackgroundTransparency" => item.opacity.map fun n => n.oneMinus.literal
  | "Text" => (given item.text).map (LongString.quote isSafe)
  | "TextColor3" => (given item.textColor).map fun s => "Color3.fromHex(\"" ++ s ++ "\")"
  | "TextSize" => item.fontSize.map Number.literal
  | "Image" => (given item.imageId).map fun s => "\"" ++ s ++ "\""
  | "BorderSizePixel" => if item.isLine then some "0" else none
  | _ => none

namespace Store

/-- The object `b` is a rounded corner for `a`. -/
structure IsCorner (s : Store) (a b : Nat) : Prop where
  class_eq : s.classes[b]? = some "UICorner"
  property?_eq : ∀ key, s.property? b key = if key = "CornerRadius" then some (.radius a a) else none
  children_eq : s.children b = []

/-- The object `a` is made as the item says. -/
structure Shows (s : Store) (isSafe : Bool) (item : Item) (a : Nat) : Prop where
  class_eq : s.classes[a]? = some (className item.type)
  property?_eq : ∀ key, s.property? a key = (item.appearance isSafe key).map .source
  children_eq : if item.isCircle then ∃ b, s.children a = [b] ∧ s.IsCorner a b
    else s.children a = []

/-- The objects under the first one show the items, one each and in order. -/
structure Depicts (s : Store) (isSafe : Bool) (items : List Item) : Prop where
  class_eq : s.classes[0]? = some "ScreenGui"
  nodup : (s.children 0).Nodup
  shows : List.Forall₂ (s.Shows isSafe) items (s.children 0)

/-- Objects that are not made yet have no properties and no place in the tree, and nothing is above
the first one. -/
structure WellFormed (s : Store) : Prop where
  property?_eq_none : ∀ a key, s.size ≤ a → s.property? a key = none
  children_eq_nil : ∀ a, s.size ≤ a → s.children a = []
  bounds : ∀ a, ∀ b ∈ s.children a, 0 < b ∧ b < s.size

/-- The object is the same in both stores. -/
structure Unchanged (a : Nat) (before after : Store) : Prop where
  class_eq : after.classes[a]? = before.classes[a]?
  property?_eq : ∀ key, after.property? a key = before.property? a key
  children_eq : after.children a = before.children a

theorem Unchanged.refl (a : Nat) (s : Store) : Unchanged a s s := ⟨rfl, fun _ => rfl, rfl⟩

theorem Unchanged.trans {a : Nat} {s t u : Store} (h1 : Unchanged a s t) (h2 : Unchanged a t u) :
    Unchanged a s u :=
  ⟨h2.class_eq.trans h1.class_eq, fun key => (h2.property?_eq key).trans (h1.property?_eq key),
    h2.children_eq.trans h1.children_eq⟩

/-! ### Operations -/

theorem lookup_cons_eq_ite {α β : Type} [BEq α] [LawfulBEq α] [DecidableEq α] (key name : α)
    (value : β) (rest : List (α × β)) :
    ((name, value) :: rest).lookup key = if key = name then some value else rest.lookup key := by
  by_cases h : key = name
  · subst h
    simp
  · simp [List.lookup_cons, beq_false_of_ne h, h]

section Operations

variable {s : Store} {a child parent : Nat}

theorem lookup_create (name className other : String) :
    (s.create name className).lookup other =
      if other = name then some s.size else s.lookup other :=
  lookup_cons_eq_ite _ _ _ _

theorem size_create (name className : String) : (s.create name className).size = s.size + 1 :=
  List.length_append

theorem property?_set (b : Nat) (key other : String) (content : RightSide) :
    (s.set b key content).property? a other =
      if a = b ∧ other = key then some content else s.property? a other := by
  have h := lookup_cons_eq_ite (a, other) (b, key) content s.settings
  simp only [Prod.mk.injEq] at h
  exact h

theorem children_attach (hfresh : ∀ b, child ∉ s.children b) :
    (s.attach child parent).children a =
      s.children a ++ if parent = a then [child] else [] := by
  have hkeep : s.family.filter (·.1 != child) = s.family := by
    refine List.filter_eq_self.2 fun e he => ?_
    have hmem : e.1 ∈ s.children e.2 := by
      simp only [children, List.mem_map, List.mem_filter]
      exact ⟨e, ⟨he, by simp⟩, rfl⟩
    have hne : e.1 ≠ child := fun h => hfresh e.2 (h ▸ hmem)
    simpa using hne
  rw [children, attach, hkeep, List.filter_append, List.map_append]
  by_cases h : parent = a <;> simp [children, h]

theorem unchanged_create (name className : String) (ha : a < s.size) :
    Unchanged a s (s.create name className) :=
  ⟨List.getElem?_append_left ha, fun _ => rfl, rfl⟩

theorem unchanged_set {b : Nat} (key : String) (content : RightSide) (h : a ≠ b) :
    Unchanged a s (s.set b key content) := by
  refine ⟨rfl, fun other => ?_, rfl⟩
  rw [property?_set, if_neg (fun hab => h hab.1)]

theorem unchanged_attach (hfresh : ∀ b, child ∉ s.children b) (h : a ≠ parent) :
    Unchanged a s (s.attach child parent) := by
  refine ⟨rfl, fun _ => rfl, ?_⟩
  rw [children_attach hfresh, if_neg (Ne.symm h), List.append_nil]

namespace WellFormed

theorem fresh (hw : s.WellFormed) (ha : s.size ≤ a) (b : Nat) : a ∉ s.children b := by
  intro hmem
  have := (hw.bounds b a hmem).2
  omega

theorem create (hw : s.WellFormed) (name className : String) :
    (s.create name className).WellFormed := by
  have hsize := size_create (s := s) name className
  constructor
  · intro a key ha
    exact hw.property?_eq_none a key (by omega)
  · intro a ha
    exact hw.children_eq_nil a (by omega)
  · intro a b hb
    have := hw.bounds a b hb
    omega

theorem set (hw : s.WellFormed) (ha : a < s.size) (key : String) (content : RightSide) :
    (s.set a key content).WellFormed := by
  constructor
  · intro b other hb
    have hne : b ≠ a := by
      have hb : s.size ≤ b := hb
      omega
    rw [property?_set, if_neg (fun hab => hne hab.1)]
    exact hw.property?_eq_none b other hb
  · exact hw.children_eq_nil
  · exact hw.bounds

theorem attach (hw : s.WellFormed) (hfresh : ∀ b, child ∉ s.children b) (hpos : 0 < child)
    (hchild : child < s.size) (hparent : parent < s.size) : (s.attach child parent).WellFormed := by
  constructor
  · exact hw.property?_eq_none
  · intro a ha
    have ha : s.size ≤ a := ha
    rw [children_attach hfresh, hw.children_eq_nil a ha, if_neg (by omega), List.append_nil]
  · intro a b hb
    rw [children_attach hfresh] at hb
    rcases List.mem_append.1 hb with hold | hnew
    · exact hw.bounds a b hold
    · split at hnew
      · obtain rfl : b = child := by simpa using hnew
        exact ⟨hpos, hchild⟩
      · simp at hnew

end WellFormed

end Operations

end Store

end LuauLayout
