/-! The tree of a file system: files, and directories that hold further nodes by name.  A location
is the way to a node, name by name from the root.  `Node.find?` follows it, `Node.insert` puts a
node there together with the directories that are missing on the way, and `Node.listing` shows a
whole tree. -/

namespace LuauLayout

/-- The names on the way from the root. -/
abbrev Location := List String

inductive Node where
  | file (content : ByteArray)
  | directory (children : List (String × Node))

/-- A node without what lies below it. -/
inductive Entry where
  | file (content : ByteArray)
  | directory

-- Written out, since a derived instance would compare contents by whichever instance is imported last.
instance : DecidableEq Entry
  | .file a, .file b =>
    match ByteArray.instDecidableEq a b with
    | isTrue h => isTrue (congrArg Entry.file h)
    | isFalse h => isFalse fun heq => h (Entry.file.inj heq)
  | .file _, .directory => isFalse fun h => Entry.noConfusion h
  | .directory, .file _ => isFalse fun h => Entry.noConfusion h
  | .directory, .directory => isTrue rfl

namespace Node

def toEntry : Node → Entry
  | file content => .file content
  | directory _ => .directory

/-- The nodes below, of which a file has none. -/
def children : Node → List (String × Node)
  | file _ => []
  | directory nodes => nodes

def child? (n : Node) (name : String) : Option Node := n.children.lookup name

def find? : Node → Location → Option Node
  | n, [] => some n
  | n, name :: rest =>
    match n.child? name with
    | some m => m.find? rest
    | none => none

/-- The directory with a node of the name, in place of any other of that name. -/
def setChild (n : Node) (name : String) (new : Node) : Node :=
  directory ((name, new) :: n.children.filter (·.1 != name))

/-- The tree with a node at a location, where directories are made on the way. -/
def insert : Node → Location → Node → Node
  | _, [], new => new
  | n, name :: rest, new =>
    n.setChild name (((n.child? name).getD (directory [])).insert rest new)

mutual

/-- The node at a location and all below it, a directory before what it holds. -/
def listing (l : Location) : Node → List (Location × Entry)
  | file content => [(l, .file content)]
  | directory nodes => (l, .directory) :: childListing l nodes

def childListing (l : Location) : List (String × Node) → List (Location × Entry)
  | [] => []
  | (name, n) :: rest => n.listing (l ++ [name]) ++ childListing l rest

end

theorem lookup_filter_ne {name other : String} (h : other ≠ name) (nodes : List (String × Node)) :
    (nodes.filter (·.1 != name)).lookup other = nodes.lookup other := by
  induction nodes with
  | nil => rfl
  | cons p nodes ih =>
    obtain ⟨key, n⟩ := p
    by_cases hk : key = name
    · subst hk
      simp [List.lookup_cons, beq_eq_false_iff_ne.2 h, ih]
    · simp [List.lookup_cons, hk, ih]

theorem child?_setChild_self (n new : Node) (name : String) :
    (n.setChild name new).child? name = some new := by
  simp [setChild, child?, children]

theorem child?_setChild_of_ne (n new : Node) {name other : String} (h : other ≠ name) :
    (n.setChild name new).child? other = n.child? other := by
  rw [setChild, child?, children, List.lookup_cons, beq_eq_false_iff_ne.2 h]
  exact lookup_filter_ne h _

/-- What was put at a location is found there. -/
theorem find?_insert_self (n : Node) (l : Location) (new : Node) :
    (n.insert l new).find? l = some new := by
  induction l generalizing n with
  | nil => rfl
  | cons name rest ih => rw [insert, find?, child?_setChild_self]; exact ih _

/-- A location that does not begin with another and is no beginning of it keeps its node. -/
theorem find?_insert_of_not_prefix (n : Node) {l l' : Location} (new : Node)
    (h : ¬ l <+: l') (h' : ¬ l' <+: l) : (n.insert l new).find? l' = n.find? l' := by
  induction l generalizing n l' with
  | nil => exact absurd List.nil_prefix h
  | cons name rest ih =>
    cases l' with
    | nil => exact absurd List.nil_prefix h'
    | cons other rest' =>
      rw [insert, find?, find?]
      by_cases ho : other = name
      · subst ho
        rw [child?_setChild_self]
        have hr : ¬ rest <+: rest' := fun hp => h (List.cons_prefix_cons.2 ⟨rfl, hp⟩)
        have hr' : ¬ rest' <+: rest := fun hp => h' (List.cons_prefix_cons.2 ⟨rfl, hp⟩)
        simp only [ih _ hr hr']
        cases hc : n.child? other with
        | some m => rfl
        | none =>
          cases rest' with
          | nil => exact absurd List.nil_prefix hr'
          | cons a as => rfl
      · rw [child?_setChild_of_ne n _ ho]

end Node

end LuauLayout
