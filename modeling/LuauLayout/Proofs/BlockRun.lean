import LuauLayout.Proofs.ObjectTree
import LuauLayout.Proofs.ScriptLines

/-! Running the block of an item.  The block makes one object, or two for a circle, and puts the first
one under the object that the name of the root stands for.  That object shows the item, unless it is
its own root, and every object from before is left as it was, but for the new child. -/

namespace LuauLayout

open Identifier (IsName isWord_of_all isWordChar)
open Statement

/-! ### What an item sets -/

namespace Item

theorem not_isLine_of_isCircle {item : Item} (h : item.isCircle = true) :
    ¬item.isLine = true := by
  rw [isCircle, beq_iff_eq] at h
  rw [isLine, h]
  decide

def placement (item : Item) : List (String × Expression) :=
  [("Position", .offset item.x item.y), ("Size", .offset item.w item.h)]

def border (item : Item) : List (String × Expression) :=
  if item.isLine then [("BorderSizePixel", .number 0)] else []

/-- All that the block of an item sets on its object, before and after it gives it its place. -/
def settings (item : Item) (isSafe : Bool) : List (String × Expression) :=
  item.placement ++ item.optionalProperties isSafe ++ item.border

theorem lookup_toList_map {α : Type} (o : Option α) (f : α → Expression) (name key : String) :
    (o.map fun x => (name, f x)).toList.reverse.lookup key =
      if key = name then o.map f else none := by
  cases o with
  | none => simp
  | some x => exact Store.lookup_cons_eq_ite key name (f x) []

theorem lookup_placement (item : Item) (key : String) :
    item.placement.reverse.lookup key =
      if key = "Size" then some (.offset item.w item.h)
      else if key = "Position" then some (.offset item.x item.y) else none :=
  (Store.lookup_cons_eq_ite key "Size" _ _).trans
    (congrArg _ (Store.lookup_cons_eq_ite key "Position" _ []))

theorem lookup_border (item : Item) (key : String) :
    item.border.reverse.lookup key =
      if key = "BorderSizePixel" ∧ item.isLine = true then some (.number 0) else none := by
  by_cases h : item.isLine = true
  · simpa [border, h] using Store.lookup_cons_eq_ite key "BorderSizePixel" (Expression.number 0) []
  · simp [border, h]

/-- The last value of each property is the one that the item gives it. -/
theorem lookup_settings (item : Item) (isSafe : Bool) (key : String) :
    ((item.settings isSafe).reverse.lookup key).map Expression.render =
      item.appearance isSafe key := by
  rw [settings, optionalProperties]
  simp only [List.reverse_append, List.lookup_append, lookup_toList_map, lookup_placement,
    lookup_border]
  fun_cases appearance item isSafe key <;> simp_all <;> rfl

/-- A property other than the place in the tree, with a value that reads no local. -/
structure IsSetting (p : String × Expression) : Prop where
  isWord : ∀ c ∈ p.1.toList, isWordChar c = true
  ne_parent : p.1 ≠ "Parent"
  isConstant : p.2.isConstant = true

theorem isSetting_pair {name : String} {value : Expression}
    (hname : name.toList.all isWordChar = true ∧ name ≠ "Parent")
    (hvalue : value.isConstant = true) : IsSetting (name, value) :=
  ⟨isWord_of_all hname.1, hname.2, hvalue⟩

theorem isSetting_of_mem_settings (item : Item) (isSafe : Bool) :
    ∀ p ∈ item.settings isSafe, IsSetting p := by
  intro p h
  simp only [settings, placement, optionalProperties, List.mem_append, List.mem_cons,
    List.not_mem_nil, or_false, Option.mem_toList, Option.map_eq_some_iff] at h
  rcases h with ((rfl | rfl) | ((((⟨s, -, rfl⟩ | ⟨n, -, rfl⟩) | ⟨s, -, rfl⟩) | ⟨s, -, rfl⟩) |
    ⟨n, -, rfl⟩) | ⟨s, -, rfl⟩) | h
  case inr =>
    rw [border] at h
    split at h
    · obtain rfl : p = ("BorderSizePixel", .number 0) := by simpa using h
      exact isSetting_pair (by decide) rfl
    · simp at h
  all_goals exact isSetting_pair (by decide) rfl

end Item

/-! ### What a block makes -/

namespace Store

/-- Properties of one object, set in order. -/
def setAll (s : Store) (a : Nat) (ps : List (String × Expression)) : Store :=
  ps.foldl (fun s p => s.set a p.1 (.source p.2.render)) s

/-- The object of an item, under `host`. -/
def addObject (s : Store) (item : Item) (identifier : String) (isSafe : Bool) (host : Nat) :
    Store :=
  ((s.create identifier (className item.type)).setAll s.size (item.settings isSafe)).attach
    s.size host

/-- A corner for the object `a`. -/
def addCorner (s : Store) (identifier : String) (a : Nat) : Store :=
  ((s.create (Identifier.corner identifier) "UICorner").set s.size "CornerRadius"
    (.radius a a)).attach s.size a

/-- The objects of an item, the first of them under `host`. -/
def draw (s : Store) (item : Item) (identifier : String) (isSafe : Bool) (host : Nat) : Store :=
  let t := s.addObject item identifier isSafe host
  if item.isCircle then t.addCorner identifier s.size else t

/-- What the name of the root stands for once the next object has the name `identifier`. -/
def host? (s : Store) (identifier : String) : Option Nat :=
  if rootName = identifier then some s.size else s.lookup rootName

section SetAll

variable {s : Store} {a : Nat}

theorem setAll_cons (p : String × Expression) (ps : List (String × Expression)) :
    s.setAll a (p :: ps) = (s.set a p.1 (.source p.2.render)).setAll a ps := rfl

theorem setAll_append (ps qs : List (String × Expression)) :
    s.setAll a (ps ++ qs) = (s.setAll a ps).setAll a qs := List.foldl_append

theorem setAll_attach (child parent : Nat) (ps : List (String × Expression)) :
    (s.attach child parent).setAll a ps = (s.setAll a ps).attach child parent := by
  induction ps generalizing s with
  | nil => rfl
  | cons p ps ih => exact ih (s := s.set a p.1 (.source p.2.render))

/-- Setting properties changes the settings and nothing else. -/
theorem setAll_eq (ps : List (String × Expression)) :
    s.setAll a ps = { s with settings := (s.setAll a ps).settings } := by
  induction ps generalizing s with
  | nil => rfl
  | cons p ps ih =>
    rw [setAll_cons, ih]
    rfl

@[simp] theorem classes_setAll (ps : List (String × Expression)) :
    (s.setAll a ps).classes = s.classes := by rw [setAll_eq]

@[simp] theorem size_setAll (ps : List (String × Expression)) :
    (s.setAll a ps).size = s.size := by rw [setAll_eq]; rfl

@[simp] theorem children_setAll (b : Nat) (ps : List (String × Expression)) :
    (s.setAll a ps).children b = s.children b := by rw [setAll_eq]; rfl

@[simp] theorem lookup_setAll (name : String) (ps : List (String × Expression)) :
    (s.setAll a ps).lookup name = s.lookup name := by rw [setAll_eq]; rfl

theorem property?_setAll (b : Nat) (key : String) (ps : List (String × Expression)) :
    (s.setAll a ps).property? b key =
      ((if b = a then ps.reverse.lookup key else none).map fun v => .source v.render).or
        (s.property? b key) := by
  induction ps generalizing s with
  | nil => simp [setAll]
  | cons p ps ih =>
    rw [setAll_cons, ih, property?_set, List.reverse_cons, List.lookup_append,
      lookup_cons_eq_ite key p.1 p.2 []]
    by_cases hb : b = a
    · cases hlater : ps.reverse.lookup key with
      | some v => simp [hb]
      | none => by_cases hkey : key = p.1 <;> simp [hb, hkey]
    · simp [hb]

theorem WellFormed.setAll (hw : s.WellFormed) (ha : a < s.size)
    (ps : List (String × Expression)) : (s.setAll a ps).WellFormed := by
  induction ps generalizing s with
  | nil => exact hw
  | cons p ps ih => exact ih (hw.set ha _ _) ha

theorem unchanged_setAll {b : Nat} (h : b ≠ a) (ps : List (String × Expression)) :
    Unchanged b s (s.setAll a ps) := by
  induction ps generalizing s with
  | nil => exact Unchanged.refl b s
  | cons p ps ih => exact (unchanged_set _ _ h).trans ih

end SetAll

section AddObject

variable {s : Store} {item : Item} {identifier : String} {isSafe : Bool} {host : Nat}

theorem classes_addObject :
    (s.addObject item identifier isSafe host).classes = s.classes ++ [className item.type] := by
  show ((s.create identifier (className item.type)).setAll s.size _).classes = _
  rw [classes_setAll]
  rfl

theorem size_addObject : (s.addObject item identifier isSafe host).size = s.size + 1 := by
  rw [size, classes_addObject, List.length_append]
  rfl

theorem lookup_addObject (name : String) :
    (s.addObject item identifier isSafe host).lookup name =
      if name = identifier then some s.size else s.lookup name := by
  show ((s.create identifier (className item.type)).setAll s.size _).lookup name = _
  rw [lookup_setAll, lookup_create]

/-- The new object is not under any other one before it gets its place. -/
theorem fresh_setAll_create (hw : s.WellFormed) (b : Nat) :
    s.size ∉ ((s.create identifier (className item.type)).setAll s.size
      (item.settings isSafe)).children b := by
  rw [children_setAll]
  exact hw.fresh (Nat.le_refl _) b

variable (item identifier isSafe)

theorem children_addObject (hw : s.WellFormed) (host a : Nat) :
    (s.addObject item identifier isSafe host).children a =
      s.children a ++ if host = a then [s.size] else [] := by
  rw [addObject, children_attach (fresh_setAll_create hw), children_setAll]
  rfl

theorem property?_addObject (hw : s.WellFormed) (key : String) :
    (s.addObject item identifier isSafe host).property? s.size key =
      (item.appearance isSafe key).map .source := by
  show ((s.create identifier (className item.type)).setAll s.size _).property? s.size key = _
  have hnone : (s.create identifier (className item.type)).property? s.size key = none :=
    hw.property?_eq_none s.size key (Nat.le_refl _)
  rw [property?_setAll, hnone, if_pos rfl, Option.or_none, ← item.lookup_settings isSafe key,
    Option.map_map]
  rfl

theorem wellFormed_addObject (hw : s.WellFormed) (hpos : 0 < s.size) (hhost : host ≤ s.size) :
    (s.addObject item identifier isSafe host).WellFormed := by
  refine WellFormed.attach ((hw.create identifier _).setAll ?_ _) (fresh_setAll_create hw)
    hpos ?_ ?_
  · rw [size_create]
    omega
  · rw [size_setAll, size_create]
    omega
  · rw [size_setAll, size_create]
    omega

theorem unchanged_addObject (hw : s.WellFormed) {a : Nat} (ha : a < s.size) (hne : a ≠ host) :
    Unchanged a s (s.addObject item identifier isSafe host) := by
  have hcreate := unchanged_create identifier (className item.type) ha
  have hset := unchanged_setAll (s := s.create identifier (className item.type))
    (Nat.ne_of_lt ha) (item.settings isSafe)
  exact (hcreate.trans hset).trans (unchanged_attach (fresh_setAll_create hw) hne)

end AddObject

section AddCorner

variable {s : Store} {identifier : String} {a : Nat}

theorem classes_addCorner : (s.addCorner identifier a).classes = s.classes ++ ["UICorner"] := rfl

theorem size_addCorner : (s.addCorner identifier a).size = s.size + 1 :=
  size_create (Identifier.corner identifier) "UICorner"

theorem lookup_addCorner (name : String) :
    (s.addCorner identifier a).lookup name =
      if name = Identifier.corner identifier then some s.size else s.lookup name :=
  lookup_create _ "UICorner" _

theorem children_addCorner (hw : s.WellFormed) (b : Nat) :
    (s.addCorner identifier a).children b = s.children b ++ if a = b then [s.size] else [] :=
  children_attach (s := (s.create _ _).set s.size "CornerRadius" (.radius a a))
    (hw.fresh (Nat.le_refl _))

theorem property?_addCorner (b : Nat) (key : String) :
    (s.addCorner identifier a).property? b key =
      if b = s.size ∧ key = "CornerRadius" then some (.radius a a) else s.property? b key :=
  property?_set _ _ _ _

theorem wellFormed_addCorner (hw : s.WellFormed) (ha : a < s.size) :
    (s.addCorner identifier a).WellFormed := by
  have hsize := size_create (s := s) (Identifier.corner identifier) "UICorner"
  refine WellFormed.attach ((hw.create _ _).set ?_ _ _) (hw.fresh (Nat.le_refl _)) ?_ ?_ ?_
  · omega
  · omega
  · show s.size < (s.create (Identifier.corner identifier) "UICorner").size
    omega
  · show a < (s.create (Identifier.corner identifier) "UICorner").size
    omega

theorem unchanged_addCorner (hw : s.WellFormed) {b : Nat} (hb : b < s.size) (hne : b ≠ a) :
    Unchanged b s (s.addCorner identifier a) := by
  have hcreate := unchanged_create (Identifier.corner identifier) "UICorner" hb
  have hset := unchanged_set (s := s.create (Identifier.corner identifier) "UICorner")
    "CornerRadius" (.radius a a) (Nat.ne_of_lt hb)
  exact (hcreate.trans hset).trans (unchanged_attach (hw.fresh (Nat.le_refl _)) hne)

theorem isCorner_addCorner (hw : s.WellFormed) (ha : a < s.size) :
    (s.addCorner identifier a).IsCorner a s.size := by
  constructor
  · rw [classes_addCorner]
    exact List.getElem?_concat_length
  · intro key
    have hnone := hw.property?_eq_none s.size key (Nat.le_refl _)
    simp [property?_addCorner, hnone]
  · rw [children_addCorner hw, hw.children_eq_nil _ (Nat.le_refl _), if_neg (by omega)]
    rfl

end AddCorner

section Draw

variable {s : Store} {item : Item} {identifier : String} {isSafe : Bool} {host : Nat}

theorem size_lt_draw : s.size < (s.draw item identifier isSafe host).size := by
  rw [draw]
  split
  · rw [size_addCorner, size_addObject]
    omega
  · rw [size_addObject]
    omega

theorem class_draw {a : Nat} (ha : a < s.size) :
    (s.draw item identifier isSafe host).classes[a]? = s.classes[a]? := by
  have hobject : (s.addObject item identifier isSafe host).classes[a]? = s.classes[a]? := by
    rw [classes_addObject]
    exact List.getElem?_append_left ha
  rw [draw]
  split
  · rw [classes_addCorner, List.getElem?_append_left]
    · exact hobject
    · rw [← size, size_addObject]
      omega
  · exact hobject

/-- A corner never takes the name of the root. -/
theorem lookup_rootName_draw :
    (s.draw item identifier isSafe host).lookup rootName = s.host? identifier := by
  rw [draw, host?]
  split
  · rw [lookup_addCorner, if_neg (Identifier.corner_ne_rootName identifier).symm, lookup_addObject]
  · exact lookup_addObject rootName

theorem wellFormed_draw (hw : s.WellFormed) (hpos : 0 < s.size) (hhost : host ≤ s.size) :
    (s.draw item identifier isSafe host).WellFormed := by
  have hobject := wellFormed_addObject item identifier isSafe hw hpos hhost
  rw [draw]
  split
  · refine wellFormed_addCorner hobject ?_
    rw [size_addObject]
    omega
  · exact hobject

theorem unchanged_draw (hw : s.WellFormed) (hpos : 0 < s.size) (hhost : host ≤ s.size) {a : Nat}
    (ha : a < s.size) (hne : a ≠ host) :
    Unchanged a s (s.draw item identifier isSafe host) := by
  have hobject := unchanged_addObject item identifier isSafe hw ha hne
  rw [draw]
  split
  · refine hobject.trans (unchanged_addCorner (wellFormed_addObject _ _ _ hw hpos hhost) ?_ ?_)
    · rw [size_addObject]
      omega
    · omega
  · exact hobject

theorem children_draw_host (hw : s.WellFormed) (hhost : host < s.size) :
    (s.draw item identifier isSafe host).children host = s.children host ++ [s.size] := by
  have hobject := children_addObject item identifier isSafe hw host host
  rw [if_pos rfl] at hobject
  rw [draw]
  split
  · rw [children_addCorner (wellFormed_addObject _ _ _ hw (by omega) (by omega)), if_neg (by omega),
      List.append_nil, hobject]
  · exact hobject

/-- The first new object shows the item if it is put under an older one. -/
theorem shows_draw (hw : s.WellFormed) (hhost : host < s.size) :
    (s.draw item identifier isSafe host).Shows isSafe item s.size := by
  generalize ht : s.addObject item identifier isSafe host = t
  have hsize : t.size = s.size + 1 := ht ▸ size_addObject
  have hwt : t.WellFormed := ht ▸ wellFormed_addObject _ _ _ hw (by omega) (by omega)
  have hclass : t.classes[s.size]? = some (className item.type) := by
    rw [← ht, classes_addObject]
    exact List.getElem?_concat_length
  have hproperty (key : String) :
      t.property? s.size key = (item.appearance isSafe key).map .source :=
    ht ▸ property?_addObject _ _ _ hw key
  have hchildren : t.children s.size = [] := by
    rw [← ht, children_addObject _ _ _ hw, hw.children_eq_nil _ (Nat.le_refl _), if_neg (by omega)]
    rfl
  rw [draw, ht]
  by_cases hc : item.isCircle = true
  · rw [if_pos hc]
    constructor
    · rw [classes_addCorner, List.getElem?_append_left (by rw [← size]; omega)]
      exact hclass
    · intro key
      rw [property?_addCorner, if_neg (by omega)]
      exact hproperty key
    · rw [if_pos hc, children_addCorner hwt, hchildren, if_pos rfl]
      exact ⟨t.size, rfl, isCorner_addCorner hwt (by omega)⟩
  · rw [if_neg hc]
    exact ⟨hclass, hproperty, by rw [if_neg hc]; exact hchildren⟩

end Draw

/-! ### Running a block -/

section RunBlock

variable {s : Store} {item : Item} {identifier : String} {isSafe : Bool} {host : Nat}

theorem run?_assigns {a : Nat} (hname : IsName identifier) (ha : s.lookup identifier = some a)
    {ps : List (String × Expression)} (hps : ∀ p ∈ ps, Item.IsSetting p) :
    s.run? ((ps.map fun p => assign identifier p.1 p.2).map render) = some (s.setAll a ps) := by
  induction ps generalizing s with
  | nil => rfl
  | cons p ps ih =>
    have hp := hps p List.mem_cons_self
    rw [List.map_cons, List.map_cons, run?_cons,
      step?_assign hname.isWord hp.isWord ha fun h => absurd h hp.ne_parent, read?_of_isConstant hp.isConstant,
      Option.map_some, Option.bind_some, setAll_cons]
    exact ih ha fun q hq => hps q (List.mem_cons_of_mem p hq)

theorem run?_corner {a : Nat} (hname : IsName identifier) (ha : s.lookup identifier = some a) :
    s.run? ([declare (Identifier.corner identifier) "UICorner",
        assign (Identifier.corner identifier) "CornerRadius" (.radius identifier),
        assign (Identifier.corner identifier) "Parent" (.name identifier)].map render) =
      some (s.addCorner identifier a) := by
  have hcorner := hname.corner.isWord
  generalize ht : s.create (Identifier.corner identifier) "UICorner" = t
  have hnew : t.lookup (Identifier.corner identifier) = some s.size := by
    rw [← ht, lookup_create, if_pos rfl]
  have hold : t.lookup identifier = some a := by
    rw [← ht, lookup_create, if_neg (Identifier.corner_ne_self identifier).symm, ha]
  rw [List.map_cons, List.map_cons, List.map_cons, List.map_nil, run?_cons,
    step?_declare hcorner (isWord_of_all (by decide)), Option.bind_some, ht, run?_cons,
    step?_assign hcorner (isWord_of_all (by decide)) hnew (fun h => absurd h (by decide)),
    read?_radius hname.isWord hold, Option.map_some, Option.bind_some, run?_cons,
    step?_parent (s := t.set s.size "CornerRadius" (.radius a a)) hcorner hnew hold, ← ht]
  rfl

theorem run?_shapeStatements {a : Nat} (hname : IsName identifier)
    (ha : s.lookup identifier = some a) :
    s.run? ((item.shapeStatements identifier).map render) =
      some (if item.isCircle then (s.setAll a item.border).addCorner identifier a
        else s.setAll a item.border) := by
  by_cases hc : item.isCircle = true
  · have hborder : item.border = [] := by
      rw [Item.border, if_neg (Item.not_isLine_of_isCircle hc)]
    rw [Item.shapeStatements, if_pos hc, if_pos hc, hborder]
    exact run?_corner hname ha
  · have hshape : item.shapeStatements identifier =
        item.border.map fun p => assign identifier p.1 p.2 := by
      rw [Item.shapeStatements, if_neg hc, Item.border]
      split <;> rfl
    rw [hshape, if_neg hc]
    exact run?_assigns hname ha fun p hp =>
      item.isSetting_of_mem_settings true p (List.mem_append_right _ hp)

/-- The block of an item runs, and makes its objects under the object that the name of the root
stands for then. -/
theorem run?_block (hname : IsName identifier) (hhost : s.host? identifier = some host) :
    s.run? ((item.block identifier isSafe).map render) =
      some (s.draw item identifier isSafe host) := by
  generalize ht : s.create identifier (className item.type) = t
  have hnew : t.lookup identifier = some s.size := by
    rw [← ht, lookup_create, if_pos rfl]
  have hroot : t.lookup rootName = some host := by
    rw [← ht, lookup_create]
    exact hhost
  generalize hps : item.placement ++ item.optionalProperties isSafe = ps
  have hsettings : item.settings isSafe = ps ++ item.border := by rw [← hps]; rfl
  have hblock : item.block identifier isSafe =
      blank :: declare identifier (className item.type) ::
        ((ps.map fun p => assign identifier p.1 p.2) ++
          assign identifier "Parent" (.name rootName) :: item.shapeStatements identifier) := by
    rw [← hps]
    simp [Item.block, Item.properties, Item.placement]
  have hassigns := run?_assigns hname hnew fun p (hp : p ∈ ps) =>
    item.isSetting_of_mem_settings isSafe p (hsettings ▸ List.mem_append_left _ hp)
  have hshape : ((t.setAll s.size ps).attach s.size host).run?
      ((item.shapeStatements identifier).map render) =
        some (s.draw item identifier isSafe host) := by
    have hlookup : ((t.setAll s.size ps).attach s.size host).lookup identifier = some s.size :=
      (lookup_setAll identifier ps).trans hnew
    rw [run?_shapeStatements hname hlookup, setAll_attach, ← setAll_append,
      ← hsettings, ← ht]
    rfl
  rw [hblock, List.map_cons, run?_cons, step?_blank, Option.bind_some, List.map_cons, run?_cons,
    step?_declare hname.isWord (isWordChar_of_mem_className item.type), Option.bind_some, ht,
    List.map_append, run?_append, hassigns, Option.bind_some, List.map_cons, run?_cons,
    step?_parent hname.isWord ((lookup_setAll identifier ps).trans hnew)
      ((lookup_setAll rootName ps).trans hroot), Option.bind_some, hshape]

end RunBlock

end Store

end LuauLayout
