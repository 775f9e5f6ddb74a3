import LuauLayout.Export
import LuauLayout.Proofs.Identifier
import LuauLayout.Proofs.LongString
import LuauLayout.Proofs.NumberText

/-! Running the lines of a script.  A line declares a local that holds a new object, puts an object
under another one, or sets a property; the names in it stand for the objects that they hold at that
moment, and a later local hides an earlier one of its name.  A line that says something else, or that
reads a name without an object, stops the run. -/

namespace LuauLayout

open Identifier (isWord_of_all isWordChar)
open LongString (splitAtFirst?)

inductive RightSide where
  /-- The value of a right side that reads no local. -/
  | source (text : String)
  /-- Half the smaller of the width of one object and the height of another. -/
  | radius (width height : Nat)
  deriving DecidableEq

structure Store where
  classes : List String := []
  /-- The properties that were set, the last one first. -/
  settings : List ((Nat × String) × RightSide) := []
  /-- Objects with the objects that they are under, in the order in which they were put there. -/
  family : List (Nat × Nat) := []
  /-- The locals, the last one first. -/
  bindings : List (String × Nat) := []
  deriving DecidableEq

inductive Instruction where
  | skip
  | create (name className : String)
  | set (name property value : String)
  deriving DecidableEq

def behind? (pattern s : List Char) : Option (List Char) :=
  if pattern.isPrefixOf s then some (s.drop pattern.length) else none

/-- Reads `local N = Instance.new("C")`, `N.P = value` and the empty line. -/
def Instruction.ofLine? (line : List Char) : Option Instruction :=
  if line.isEmpty then some skip
  else
    match behind? "local ".toList line with
    | some declaration =>
      (splitAtFirst? " = Instance.new(\"".toList declaration).bind fun found =>
        (splitAtFirst? "\")".toList found.2).bind fun last =>
          if last.2.isEmpty then some (create (.ofList found.1) (.ofList last.1)) else none
    | none =>
      (splitAtFirst? ".".toList line).bind fun found =>
        (splitAtFirst? " = ".toList found.2).map fun last =>
          set (.ofList found.1) (.ofList last.1) (.ofList last.2)

/-- The two names that the radius of a corner reads. -/
def readRadius? (value : List Char) : Option (String × String) :=
  (behind? "UDim.new(0, math.floor(math.min(".toList value).bind fun rest =>
    (splitAtFirst? ".AbsoluteSize.X, ".toList rest).bind fun width =>
      (splitAtFirst? ".AbsoluteSize.Y)/2))".toList width.2).bind fun height =>
        if height.2.isEmpty then some (.ofList width.1, .ofList height.1) else none

namespace Store

def size (s : Store) : Nat := s.classes.length

def lookup (s : Store) (name : String) : Option Nat := s.bindings.lookup name

def property? (s : Store) (a : Nat) (key : String) : Option RightSide := s.settings.lookup (a, key)

/-- The objects under `a`, in order. -/
def children (s : Store) (a : Nat) : List Nat := (s.family.filter (·.2 == a)).map (·.1)

/-- A new object of the class, which the name stands for from here on. -/
def create (s : Store) (name className : String) : Store :=
  { s with
    classes := s.classes ++ [className]
    bindings := (name, s.size) :: s.bindings }

def set (s : Store) (a : Nat) (key : String) (content : RightSide) : Store :=
  { s with settings := ((a, key), content) :: s.settings }

/-- Puts an object under another one, and away from where it was. -/
def attach (s : Store) (child parent : Nat) : Store :=
  { s with family := s.family.filter (·.1 != child) ++ [(child, parent)] }

def read? (s : Store) (value : String) : Option RightSide :=
  match readRadius? value.toList with
  | some (width, height) =>
    (s.lookup width).bind fun a => (s.lookup height).map fun b => .radius a b
  | none => some (.source value)

def exec? (s : Store) : Instruction → Option Store
  | .skip => some s
  | .create name className => some (s.create name className)
  | .set name property value =>
    (s.lookup name).bind fun a =>
      match if property = "Parent" then s.lookup value else none with
      | some parent => some (s.attach a parent)
      | none => (s.read? value).map (s.set a property)

def step? (s : Store) (line : String) : Option Store :=
  (Instruction.ofLine? line.toList).bind s.exec?

def run? (s : Store) (lines : List String) : Option Store := lines.foldlM step? s

end Store

/-! ### Reading lines -/

theorem behind?_append (pattern rest : List Char) : behind? pattern (pattern ++ rest) = some rest := by
  rw [behind?, if_pos (List.isPrefixOf_iff_prefix.2 (List.prefix_append pattern rest))]
  simp

theorem behind?_eq_none {pattern s : List Char} (h : ¬pattern <+: s) : behind? pattern s = none := by
  rw [behind?, if_neg (fun hp => h (List.isPrefixOf_iff_prefix.1 hp))]

/-- A pattern whose first character is not in the text is found behind the text. -/
theorem splitAtFirst?_of_not_mem {first : Char} {pattern text : List Char}
    (hfirst : pattern.head? = some first) (h : first ∉ text) (rest : List Char) :
    splitAtFirst? pattern (text ++ (pattern ++ rest)) = some (text, rest) := by
  obtain ⟨tail, rfl⟩ := List.head?_eq_some_iff.1 hfirst
  induction text with
  | nil =>
    have hp : (first :: tail).isPrefixOf (first :: (tail ++ rest)) = true :=
      List.isPrefixOf_iff_prefix.2 (List.prefix_append (first :: tail) rest)
    rw [List.nil_append, List.cons_append, splitAtFirst?, if_pos hp]
    simp
  | cons c text ih =>
    simp only [List.mem_cons, not_or] at h
    have hp : ¬(first :: tail).isPrefixOf (c :: (text ++ (first :: tail ++ rest))) = true := by
      intro hp
      exact h.1 (List.cons_prefix_cons.1 (List.isPrefixOf_iff_prefix.1 hp)).1
    rw [List.cons_append, splitAtFirst?, if_neg hp, ih h.2]
    rfl

theorem not_mem_of_isWord {s : String} (h : ∀ c ∈ s.toList, isWordChar c = true) {c : Char}
    (hc : isWordChar c = false) : c ∉ s.toList := by
  intro hmem
  rw [h c hmem] at hc
  exact absurd hc (by decide)

theorem ofLine?_declare {name className : String} (hname : ' ' ∉ name.toList)
    (hclass : '"' ∉ className.toList) :
    Instruction.ofLine? (Statement.declare name className).render.toList =
      some (.create name className) := by
  have hline : (Statement.declare name className).render.toList =
      "local ".toList ++ (name.toList ++
        (" = Instance.new(\"".toList ++ (className.toList ++ ("\")".toList ++ [])))) := by
    simp
  rw [hline, Instruction.ofLine?, if_neg (by simp), behind?_append]
  dsimp only
  rw [splitAtFirst?_of_not_mem (by decide) hname, Option.bind_some,
    splitAtFirst?_of_not_mem (by decide) hclass]
  simp

/-- A line that begins with a name and a point declares nothing. -/
theorem not_prefix_local {name : List Char} (h : ' ' ∉ name) (rest : List Char) :
    ¬"local ".toList <+: name ++ (".".toList ++ rest) := by
  intro hlocal
  have hname : name ++ ['.'] <+: name ++ (".".toList ++ rest) := ⟨rest, by simp⟩
  rcases List.prefix_or_prefix_of_prefix hlocal hname with hp | hp
  · have hmem : ' ' ∈ name ++ ['.'] := hp.subset (by decide)
    simp [h] at hmem
  · have hmem : '.' ∈ "local ".toList := hp.subset (by simp)
    exact absurd hmem (by decide)

theorem ofLine?_assign {name property : String} (value : Expression)
    (hname : ∀ c ∈ name.toList, isWordChar c = true)
    (hproperty : ∀ c ∈ property.toList, isWordChar c = true) :
    Instruction.ofLine? (Statement.assign name property value).render.toList =
      some (.set name property value.render) := by
  have hline : (Statement.assign name property value).render.toList =
      name.toList ++
        (".".toList ++ (property.toList ++ (" = ".toList ++ value.render.toList))) := by
    simp
  have hpoint : '.' ∉ name.toList := not_mem_of_isWord hname rfl
  have hblank : ' ' ∉ property.toList := not_mem_of_isWord hproperty rfl
  rw [hline, Instruction.ofLine?, if_neg (by simp),
    behind?_eq_none (not_prefix_local (not_mem_of_isWord hname rfl) _)]
  dsimp only
  rw [splitAtFirst?_of_not_mem (by decide) hpoint, Option.bind_some,
    splitAtFirst?_of_not_mem (by decide) hblank]
  simp

/-! ### Right sides -/

def Expression.isConstant : Expression → Bool
  | .name _ => false
  | .radius _ => false
  | _ => true

theorem bracket_eq_cons (level : Nat) (text : List Char) :
    LongString.bracket level text =
      '[' :: (List.replicate level '=' ++ ['['] ++ text ++ LongString.closing level) := by
  rw [LongString.bracket, LongString.opening]
  rfl

/-- The first five characters tell a radius from every expression that reads no local. -/
theorem readRadius?_render_of_isConstant {value : Expression} (h : value.isConstant = true) :
    readRadius? value.render.toList = none := by
  have hread {text : List Char} (ht : ¬"UDim.".toList <+: text) : readRadius? text = none := by
    rw [readRadius?, behind?_eq_none, Option.bind_none]
    intro hp
    exact ht (List.IsPrefix.trans (by decide) hp)
  apply hread
  intro hp
  cases value with
  | number n =>
    have hmem : 'U' ∈ n.literal.toList := hp.subset (by decide)
    exact absurd (List.all_eq_true.1 n.all_isNumeralChar_literal _ hmem) (by decide)
  | plain s => simp [List.cons_prefix_cons] at hp
  | long isSafe s =>
    rw [Expression.render_long, LongString.quote, String.toList_ofList] at hp
    cases isSafe <;> simp [LongString.safe, bracket_eq_cons, List.cons_prefix_cons] at hp
  | boolean b => cases b <;> exact absurd hp (by decide)
  | offset x y => simp [List.cons_prefix_cons] at hp
  | color hex => simp [List.cons_prefix_cons] at hp
  | name s => simp [Expression.isConstant] at h
  | radius s => simp [Expression.isConstant] at h
  | playerGui => exact absurd hp (by decide)

theorem readRadius?_render_radius {s : String} (h : ∀ c ∈ s.toList, isWordChar c = true) :
    readRadius? (Expression.radius s).render.toList = some (s, s) := by
  have htext : (Expression.radius s).render.toList =
      "UDim.new(0, math.floor(math.min(".toList ++ (s.toList ++
        (".AbsoluteSize.X, ".toList ++ (s.toList ++ (".AbsoluteSize.Y)/2))".toList ++ [])))) := by
    simp
  have hpoint : '.' ∉ s.toList := not_mem_of_isWord h rfl
  rw [htext, readRadius?, behind?_append, Option.bind_some,
    splitAtFirst?_of_not_mem (by decide) hpoint, Option.bind_some,
    splitAtFirst?_of_not_mem (by decide) hpoint]
  simp

/-! ### Running statements -/

namespace Store

variable {s : Store} {name : String} {a b : Nat}

theorem step?_blank : s.step? Statement.blank.render = some s := rfl

theorem step?_declare {className : String} (hname : ∀ c ∈ name.toList, isWordChar c = true)
    (hclass : ∀ c ∈ className.toList, isWordChar c = true) :
    s.step? (Statement.declare name className).render = some (s.create name className) := by
  rw [step?, ofLine?_declare (not_mem_of_isWord hname rfl) (not_mem_of_isWord hclass rfl)]
  rfl

theorem step?_assign {property : String} {value : Expression}
    (hname : ∀ c ∈ name.toList, isWordChar c = true)
    (hproperty : ∀ c ∈ property.toList, isWordChar c = true) (ha : s.lookup name = some a)
    (hparent : property = "Parent" → s.lookup value.render = none) :
    s.step? (Statement.assign name property value).render =
      (s.read? value.render).map (s.set a property) := by
  have hplace : (if property = "Parent" then s.lookup value.render else none) = none := by
    split
    · exact hparent ‹_›
    · rfl
  rw [step?, ofLine?_assign value hname hproperty, Option.bind_some, exec?, ha, Option.bind_some,
    hplace]

theorem read?_of_isConstant {value : Expression} (h : value.isConstant = true) :
    s.read? value.render = some (.source value.render) := by
  rw [read?, readRadius?_render_of_isConstant h]

theorem read?_radius {source : String} (h : ∀ c ∈ source.toList, isWordChar c = true)
    (hb : s.lookup source = some b) :
    s.read? (Expression.radius source).render = some (.radius b b) := by
  rw [read?, readRadius?_render_radius h]
  simp [hb]

theorem step?_parent {host : String} (hname : ∀ c ∈ name.toList, isWordChar c = true)
    (ha : s.lookup name = some a) (hb : s.lookup host = some b) :
    s.step? (Statement.assign name "Parent" (.name host)).render = some (s.attach a b) := by
  rw [step?, ofLine?_assign _ hname (isWord_of_all (by decide)), Option.bind_some, exec?, ha,
    Option.bind_some, if_pos rfl, Expression.render_name, hb]

theorem run?_cons (line : String) (lines : List String) :
    s.run? (line :: lines) = (s.step? line).bind fun t => t.run? lines := rfl

theorem run?_append (first second : List String) :
    s.run? (first ++ second) = (s.run? first).bind fun t => t.run? second :=
  List.foldlM_append

end Store

end LuauLayout
