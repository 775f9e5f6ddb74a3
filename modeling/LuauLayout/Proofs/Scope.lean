import LuauLayout.Proofs.ScriptRun

/-! What the names in a script mean.  A block reads its own locals, the name of the root and five
globals.  Under unique names no block takes the name of the root, so that it means the root object
from its declaration on.  The names of the globals are not set aside: a block hides a global exactly
if its item has that very name, since neither a number nor a corner ever makes one. -/

namespace LuauLayout

open Identifier (IsName isWord_of_all isWordChar)
open Statement (render)

/-- The globals that blocks read. -/
def globalNames : List String := ["Instance", "UDim2", "UDim", "Color3", "math"]

namespace Expression

/-- The names whose meaning the value depends on. -/
def reads : Expression → List String
  | number _ => []
  | plain _ => []
  | long _ _ => []
  | boolean _ => []
  | offset _ _ => ["UDim2"]
  | color _ => ["Color3"]
  | name s => [s]
  | radius s => ["UDim", "math", s]
  | playerGui => ["game"]

end Expression

namespace Statement

/-- The names that the statement reads.  A declaration reads what makes the object, and not the local
that is to hold it. -/
def reads : Statement → List String
  | blank => []
  | declare _ _ => ["Instance"]
  | assign name _ value => name :: value.reads

/-- The names in the statement are made of word characters, so that its line is read as it is meant. -/
def IsNamed : Statement → Prop
  | blank => True
  | declare name className =>
    (∀ c ∈ name.toList, isWordChar c = true) ∧ ∀ c ∈ className.toList, isWordChar c = true
  | assign name property _ =>
    (∀ c ∈ name.toList, isWordChar c = true) ∧ ∀ c ∈ property.toList, isWordChar c = true

end Statement

/-! ### The names of blocks -/

namespace Item

variable {item : Item} {identifier : String} {isSafe : Bool}

theorem mem_reads_optionalProperties {p : String × Expression}
    (hp : p ∈ item.optionalProperties isSafe) : ∀ name ∈ p.2.reads, name ∈ globalNames := by
  simp only [optionalProperties, List.mem_append, Option.mem_toList, Option.map_eq_some_iff] at hp
  rcases hp with ((((⟨s, -, rfl⟩ | ⟨n, -, rfl⟩) | ⟨s, -, rfl⟩) | ⟨s, -, rfl⟩) | ⟨n, -, rfl⟩) |
    ⟨s, -, rfl⟩ <;> simp [Expression.reads, globalNames]

/-- The value of a property reads the name of the root or a global. -/
theorem mem_reads_properties {p : String × Expression} (hp : p ∈ item.properties isSafe) :
    ∀ name ∈ p.2.reads, name = rootName ∨ name ∈ globalNames := by
  simp only [properties, List.mem_append, List.mem_cons, List.not_mem_nil, or_false] at hp
  rcases hp with ((rfl | rfl) | hp) | rfl
  · simp [Expression.reads, globalNames]
  · simp [Expression.reads, globalNames]
  · exact fun name hname => Or.inr (mem_reads_optionalProperties hp name hname)
  · simp [Expression.reads]

theorem mem_reads_shapeStatements {s : Statement} (hs : s ∈ item.shapeStatements identifier) :
    ∀ name ∈ s.reads, name ∈ item.locals identifier ∨ name ∈ globalNames := by
  rw [shapeStatements] at hs
  rw [locals]
  split at hs
  · rename_i hc
    simp only [List.mem_cons, List.not_mem_nil, or_false] at hs
    rw [if_pos hc]
    rcases hs with rfl | rfl | rfl <;> simp [Statement.reads, Expression.reads, globalNames]
  · rename_i hc
    rw [if_neg hc]
    split at hs
    · obtain rfl := List.mem_singleton.1 hs
      simp [Statement.reads, Expression.reads]
    · simp at hs

/-- A block reads its own locals, the name of the root and the globals, and nothing else. -/
theorem mem_reads_block {s : Statement} (hs : s ∈ item.block identifier isSafe) :
    ∀ name ∈ s.reads,
      name ∈ item.locals identifier ∨ name = rootName ∨ name ∈ globalNames := by
  rw [block, List.cons_append, List.cons_append] at hs
  rcases List.mem_cons.1 hs with rfl | hs
  · simp [Statement.reads]
  rcases List.mem_cons.1 hs with rfl | hs
  · simp [Statement.reads, globalNames]
  rcases List.mem_append.1 hs with hs | hs
  · obtain ⟨p, hp, rfl⟩ := List.mem_map.1 hs
    intro name hname
    rcases List.mem_cons.1 hname with rfl | hname
    · exact Or.inl (item.self_mem_locals _)
    · exact Or.inr (mem_reads_properties hp name hname)
  · exact fun name hname => (mem_reads_shapeStatements hs name hname).imp_right Or.inr

theorem isNamed_shapeStatements (hname : IsName identifier) :
    ∀ s ∈ item.shapeStatements identifier, s.IsNamed := by
  have hcorner := hname.corner.isWord
  intro s hs
  rw [shapeStatements] at hs
  split at hs
  · simp only [List.mem_cons, List.not_mem_nil, or_false] at hs
    rcases hs with rfl | rfl | rfl
    all_goals exact ⟨hcorner, isWord_of_all (by decide)⟩
  · split at hs
    · obtain rfl := List.mem_singleton.1 hs
      exact ⟨hname.isWord, isWord_of_all (by decide)⟩
    · simp at hs

theorem isNamed_block (hname : IsName identifier) :
    ∀ s ∈ item.block identifier isSafe, s.IsNamed := by
  have hproperty : ∀ p ∈ item.properties isSafe, ∀ c ∈ p.1.toList, isWordChar c = true := by
    intro p hp
    rw [properties] at hp
    rcases List.mem_append.1 hp with hp | hp
    · exact (item.isSetting_of_mem_settings isSafe p (List.mem_append_left _ hp)).isWord
    · obtain rfl := List.mem_singleton.1 hp
      exact isWord_of_all (by decide)
  intro s hs
  rw [block, List.cons_append, List.cons_append] at hs
  rcases List.mem_cons.1 hs with rfl | hs
  · trivial
  rcases List.mem_cons.1 hs with rfl | hs
  · exact ⟨hname.isWord, isWordChar_of_mem_className item.type⟩
  rcases List.mem_append.1 hs with hs | hs
  · obtain ⟨p, hp, rfl⟩ := List.mem_map.1 hs
    exact ⟨hname.isWord, hproperty p hp⟩
  · exact isNamed_shapeStatements hname s hs

end Item

/-! ### Which locals may hide a global -/

/-- The name of a global has no underscore. -/
theorem underscore_not_mem_of_global : ∀ g ∈ globalNames, '_' ∉ g.toList := by decide

theorem rootName_not_mem_globalNames : rootName ∉ globalNames := by decide

theorem suffixed_not_mem_globalNames (s : String) (n : Nat) :
    Identifier.suffixed s n ∉ globalNames := by
  intro h
  refine underscore_not_mem_of_global _ h ?_
  simp [Identifier.suffixed]

theorem corner_not_mem_globalNames (s : String) : Identifier.corner s ∉ globalNames := by
  intro h
  refine underscore_not_mem_of_global _ h ?_
  simp [Identifier.corner]

/-- An item keeps the identifier of its name, or that identifier gets a number. -/
theorem identifier_of_mem_place {options : ExportOptions} {taken : List String}
    {items : List (Item × Nat)} {p : Placed} (h : p ∈ place options taken items) :
    p.identifier = p.natural ∨ ∃ n, p.identifier = Identifier.suffixed p.natural n := by
  rcases identifier_eq_natural_or_chosen h with hid | ⟨-, before, hid⟩
  · exact Or.inl hid
  · rw [chosenIdentifier] at hid
    split at hid
    · exact Or.inr ⟨_, hid⟩
    · exact Or.inl hid

/-- A block hides a global only under the item's own name. -/
theorem eq_of_global_mem_locals {options : ExportOptions} {layout : Layout} {p : Placed}
    (hp : p ∈ layout.placed options) {g : String} (hg : g ∈ globalNames) (hlocal : g ∈ p.locals) :
    p.identifier = g ∧ p.natural = g := by
  rcases Item.eq_or_eq_of_mem_locals hlocal with rfl | rfl
  · rcases identifier_of_mem_place hp with hid | ⟨n, hid⟩
    · exact ⟨rfl, hid.symm⟩
    · rw [hid] at hg
      exact absurd hg (suffixed_not_mem_globalNames _ n)
  · exact absurd hg (corner_not_mem_globalNames _)

/-! ### Names along a run -/

theorem Statement.eq_declare_of_declares? {x : Statement} {name : String}
    (h : x.declares? = some name) : ∃ className, x = .declare name className := by
  cases x with
  | declare other className =>
    obtain rfl := Option.some.inj h
    exact ⟨className, rfl⟩
  | blank => cases h
  | assign other property value => cases h

namespace Store

variable {s t : Store}

theorem bindings_of_exec?_set {name property value : String}
    (h : s.exec? (.set name property value) = some t) : t.bindings = s.bindings := by
  obtain ⟨a, -, h⟩ := Option.bind_eq_some_iff.1 h
  split at h
  · obtain rfl := Option.some.inj h
    rfl
  · obtain ⟨content, -, rfl⟩ := Option.map_eq_some_iff.1 h
    rfl

/-- A statement changes the meaning of the local that it declares, and of no other name. -/
theorem lookup_of_step? {statement : Statement} (hnamed : statement.IsNamed)
    (h : s.step? statement.render = some t) {name : String}
    (hname : statement.declares? ≠ some name) : t.lookup name = s.lookup name := by
  cases statement with
  | blank =>
    obtain rfl := Option.some.inj (step?_blank.symm.trans h)
    rfl
  | declare other className =>
    rw [step?_declare hnamed.1 hnamed.2] at h
    obtain rfl := Option.some.inj h
    have hne : name ≠ other := fun heq => hname (congrArg some heq.symm)
    rw [lookup_create, if_neg hne]
  | assign other property value =>
    rw [step?, ofLine?_assign value hnamed.1 hnamed.2, Option.bind_some] at h
    rw [lookup, bindings_of_exec?_set h, lookup]

/-- A name keeps its meaning as long as no statement declares it. -/
theorem lookup_of_run? {statements : List Statement} (hnamed : ∀ x ∈ statements, x.IsNamed)
    (h : s.run? (statements.map render) = some t) {name : String}
    (hname : ∀ x ∈ statements, x.declares? ≠ some name) : t.lookup name = s.lookup name := by
  induction statements generalizing s with
  | nil =>
    obtain rfl := Option.some.inj h
    rfl
  | cons x rest ih =>
    rw [List.map_cons, run?_cons] at h
    obtain ⟨u, hstep, hrest⟩ := Option.bind_eq_some_iff.1 h
    have hfirst := lookup_of_step? (hnamed x List.mem_cons_self) hstep
      (hname x List.mem_cons_self)
    exact (ih (fun y hy => hnamed y (List.mem_cons_of_mem _ hy)) hrest
      (fun y hy => hname y (List.mem_cons_of_mem _ hy))).trans hfirst

/-- A local that is declared means something from there on. -/
theorem lookup_ne_none_of_run? {statements : List Statement} (hnamed : ∀ x ∈ statements, x.IsNamed)
    (h : s.run? (statements.map render) = some t) {name : String}
    (hname : s.lookup name ≠ none ∨ ∃ x ∈ statements, x.declares? = some name) :
    t.lookup name ≠ none := by
  induction statements generalizing s with
  | nil =>
    obtain rfl := Option.some.inj h
    exact hname.resolve_right fun ⟨x, hx, _⟩ => absurd hx List.not_mem_nil
  | cons x rest ih =>
    rw [List.map_cons, run?_cons] at h
    obtain ⟨u, hstep, hrest⟩ := Option.bind_eq_some_iff.1 h
    refine ih (fun y hy => hnamed y (List.mem_cons_of_mem _ hy)) hrest ?_
    by_cases hfirst : x.declares? = some name
    · left
      obtain ⟨className, rfl⟩ := Statement.eq_declare_of_declares? hfirst
      rw [step?_declare (hnamed _ List.mem_cons_self).1 (hnamed _ List.mem_cons_self).2] at hstep
      obtain rfl := Option.some.inj hstep
      simp [lookup_create]
    · rw [lookup_of_step? (hnamed x List.mem_cons_self) hstep hfirst]
      refine hname.imp_right fun ⟨y, hy, hdeclares⟩ => ⟨y, ?_, hdeclares⟩
      rcases List.mem_cons.1 hy with rfl | hy
      · exact absurd hdeclares hfirst
      · exact hy

end Store

namespace Layout

theorem isNamed_statements (layout : Layout) (options : ExportOptions) :
    ∀ s ∈ layout.statements options, s.IsNamed := by
  intro s hs
  rcases List.mem_append.1 hs with hs | hs
  · simp only [preamble, List.mem_cons, List.not_mem_nil, or_false] at hs
    rcases hs with rfl | rfl | rfl | rfl
    all_goals exact ⟨isWord_of_all (by decide), isWord_of_all (by decide)⟩
  · obtain ⟨p, hp, hs⟩ := List.mem_flatMap.1 hs
    exact Item.isNamed_block (isName_of_mem_written hp) s hs

theorem exists_run?_statements (layout : Layout) (options : ExportOptions) :
    ∃ s, Store.run? {} ((layout.statements options).map render) = some s := by
  obtain ⟨s, hrun, -⟩ := Store.run?_blocks (fun p hp => isName_of_mem_written hp)
    Store.wellFormed_rooted rfl (Store.depicts_rooted options.safeText)
  refine ⟨s, ?_⟩
  rw [statements, List.map_append, Store.run?_append, Store.run?_preamble]
  exact hrun

/-- What a script declares is its root, first of all, and then the locals of written items. -/
theorem declares?_of_mem_statements {layout : Layout} {options : ExportOptions} {rest : List Statement}
    (hrest : layout.statements options = .declare rootName "ScreenGui" :: rest) {x : Statement}
    (hx : x ∈ rest) {name : String} (hname : x.declares? = some name) :
    ∃ p ∈ layout.written options, name ∈ p.locals := by
  have hall := layout.filterMap_declares_statements options
  rw [hrest, List.filterMap_cons_some (show Statement.declares? (.declare rootName _) = _ from rfl),
    scriptLocals] at hall
  have hmem : name ∈ rest.filterMap Statement.declares? := List.mem_filterMap.2 ⟨x, hx, hname⟩
  rw [(List.cons.inj hall).2] at hmem
  exact List.mem_flatMap.1 hmem

/-- Behind the declaration of the root its name means the root object, and any other name nothing, as
long as no statement declares it. -/
theorem lookup_of_run?_root {layout : Layout} {options : ExportOptions} {front after : List Statement}
    (hsplit : layout.statements options = .declare rootName "ScreenGui" :: (front ++ after)) {s : Store}
    (hs : Store.run? {} ((Statement.declare rootName "ScreenGui" :: front).map render) = some s)
    {name : String} (hname : ∀ x ∈ front, x.declares? ≠ some name) :
    s.lookup name = if name = rootName then some 0 else none := by
  have hnamed : ∀ x ∈ front, x.IsNamed := fun x hx =>
    layout.isNamed_statements options x (by rw [hsplit]; simp [hx])
  rw [List.map_cons, Store.run?_cons, Store.step?_declare Identifier.isName_rootName.isWord
    (isWord_of_all (by decide)), Option.bind_some] at hs
  rw [Store.lookup_of_run? hnamed hs hname, Store.lookup_create]
  rfl

/-- Under unique names no block takes the name of the root, and one takes that of a global only as the
item's own name; what a block reads are its locals, the root and the globals.  So at every statement
behind the first one the name of the root means the root object.  At every statement a global means itself
exactly if no statement before it declares its name, be it the declaration of its own block; one that does
belongs to an item of that very name. -/
theorem lookup_of_uniqueNames (layout : Layout) (isSafe : Bool) :
    let options : ExportOptions := ⟨true, isSafe⟩
    (∀ p ∈ layout.written options, rootName ∉ p.locals ∧
      (∀ g ∈ globalNames, g ∈ p.locals → p.identifier = g ∧ p.natural = g) ∧
      ∀ x ∈ p.block isSafe, ∀ name ∈ x.reads,
        name ∈ p.locals ∨ name = rootName ∨ name ∈ globalNames) ∧
    ∀ before statement after, layout.statements options = before ++ statement :: after →
      ∃ s, Store.run? {} (before.map render) = some s ∧
        (before ≠ [] → s.lookup rootName = some 0) ∧
        ∀ g ∈ globalNames, (s.lookup g = none ↔ ∀ x ∈ before, x.declares? ≠ some g) ∧
          ((∃ x ∈ before, x.declares? = some g) →
            ∃ p ∈ layout.written options, p.identifier = g ∧ p.natural = g) := by
  intro options
  have hroot : ∀ p ∈ layout.written options, rootName ∉ p.locals := by
    intro p hp hlocal
    have hmem : rootName ∈ writtenLocals (layout.placed options) :=
      List.mem_flatMap.2 ⟨p, hp, hlocal⟩
    exact (nodup_writtenLocals_place rfl [rootName] _).2 rootName hmem (List.mem_singleton_self _)
  constructor
  · exact fun p hp => ⟨hroot p hp,
      fun g hg hlocal => eq_of_global_mem_locals (List.mem_filter.1 hp).1 hg hlocal,
      fun x hx => Item.mem_reads_block hx⟩
  intro before statement after hsplit
  obtain ⟨last, hrun⟩ := layout.exists_run?_statements options
  rw [hsplit, List.map_append, Store.run?_append] at hrun
  obtain ⟨s, hs, -⟩ := Option.bind_eq_some_iff.1 hrun
  cases before with
  | nil =>
    obtain rfl := Option.some.inj hs
    refine ⟨{}, rfl, fun h => absurd rfl h, fun g _ => ⟨iff_of_true rfl ?_, ?_⟩⟩
    · exact fun x hx => absurd hx List.not_mem_nil
    · exact fun ⟨x, hx, _⟩ => absurd hx List.not_mem_nil
  | cons first front =>
    obtain rfl : first = .declare rootName "ScreenGui" := (List.cons.inj hsplit).1.symm
    have hnamed : ∀ x ∈ Statement.declare rootName "ScreenGui" :: front, x.IsNamed := fun x hx =>
      layout.isNamed_statements options x (hsplit ▸ List.mem_append_left _ hx)
    have hlocal : ∀ x ∈ front, ∀ name, x.declares? = some name →
        ∃ p ∈ layout.written options, name ∈ p.locals := fun x hx name hname =>
      declares?_of_mem_statements hsplit (List.mem_append_left _ hx) hname
    refine ⟨s, hs, fun _ => ?_, fun g hg => ?_⟩
    · rw [lookup_of_run?_root hsplit hs, if_pos rfl]
      intro x hx hname
      obtain ⟨p, hp, hmem⟩ := hlocal x hx rootName hname
      exact hroot p hp hmem
    · have hne : g ≠ rootName := fun heq => rootName_not_mem_globalNames (heq ▸ hg)
      refine ⟨⟨fun hnone x hx hname => ?_, fun hundeclared => ?_⟩, ?_⟩
      · exact Store.lookup_ne_none_of_run? hnamed hs (Or.inr ⟨x, hx, hname⟩) hnone
      · rw [lookup_of_run?_root hsplit hs fun x hx => hundeclared x (List.mem_cons_of_mem _ hx),
          if_neg hne]
      · rintro ⟨x, hx, hname⟩
        rcases List.mem_cons.1 hx with rfl | hx
        · exact absurd (Option.some.inj hname).symm hne
        · obtain ⟨p, hp, hmem⟩ := hlocal x hx g hname
          exact ⟨p, hp, eq_of_global_mem_locals (List.mem_filter.1 hp).1 hg hmem⟩

/-- An item of the name of the maker of instances hides it from the blocks behind it. -/
theorem global_captured_of_uniqueNames :
    let layout : Layout := ⟨none, [{ name := some "Instance" }, { name := some "A" }]⟩
    let options : ExportOptions := ⟨true, false⟩
    (∃ p ∈ layout.written options, "Instance" ∈ p.locals) ∧
      ∃ before after, layout.statements options = before ++ .declare "A" "Frame" :: after ∧
        ∃ s, Store.run? {} (before.map render) = some s ∧ s.lookup "Instance" = some 1 := by
  intro layout options
  constructor
  · decide +kernel
  · refine ⟨(layout.statements options).take 10, (layout.statements options).drop 11, rfl, ?_⟩
    decide +kernel

end Layout

end LuauLayout
