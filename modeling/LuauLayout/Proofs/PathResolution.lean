import LuauLayout.Proofs.FileFaults
import Mathlib.Data.List.Induction

/-! Where paths lead.  A path is followed from location to location, and whether it can be followed
depends on the directories on its way and on the guard only: `resolve` says so without the nodes that a
trail carries, and what was reached stays in reach as long as no directory is lost.  Each operation on
files is told by the location of its path, the entry there and what the guard says about it. -/

namespace LuauLayout

/-- A chain has a result exactly if its first link has one and the rest has one behind it. -/
theorem bind_eq_ok_iff {ε α β : Type} {x : Except ε α} {f : α → Except ε β} {b : β} :
    x >>= f = .ok b ↔ ∃ a, x = .ok a ∧ f a = .ok b := by
  cases x with
  | error e => simp [bind, Except.bind]
  | ok a => simp [bind, Except.bind]

/-- Another name for the faults changes no result. -/
theorem mapError_eq_ok_iff {ε ε' α : Type} {f : ε → ε'} {x : Except ε α} {a : α} :
    x.mapError f = .ok a ↔ x = .ok a := by
  cases x <;> simp [Except.mapError]

namespace Node

theorem find?_append (n : Node) (l t : Location) :
    n.find? (l ++ t) = (n.find? l).bind (·.find? t) := by
  induction l generalizing n with
  | nil => rfl
  | cons name rest ih =>
    rw [List.cons_append, find?, find?]
    cases n.child? name with
    | none => rfl
    | some m => exact ih m

theorem find?_singleton (n : Node) (name : String) : n.find? [name] = n.child? name := by
  rw [find?]
  cases n.child? name <;> rfl

/-- Nothing lies below a file. -/
theorem find?_file {content : ByteArray} {t : Location} (h : t ≠ []) :
    (file content).find? t = none := by
  cases t with
  | nil => exact absurd rfl h
  | cons name rest => rfl

/-- Nothing lies below an empty directory. -/
theorem find?_empty {t : Location} (h : t ≠ []) : (directory []).find? t = none := by
  cases t with
  | nil => exact absurd rfl h
  | cons name rest => rfl

end Node

namespace FileSystem

variable {fs fs' : FileSystem} {path : FilePath} {l l' : Location} {name : String}

/-! ### Entries -/

theorem find?_eq_directory_iff :
    fs.find? l = some .directory ↔ ∃ nodes, fs.root.find? l = some (.directory nodes) := by
  rw [find?]
  cases fs.root.find? l with
  | none => simp
  | some n => cases n <;> simp [Node.toEntry]

theorem find?_eq_file_iff {content : ByteArray} :
    fs.find? l = some (.file content) ↔ fs.root.find? l = some (.file content) := by
  rw [find?]
  cases fs.root.find? l with
  | none => simp
  | some n => cases n <;> simp [Node.toEntry]

theorem find?_eq_none_iff : fs.find? l = none ↔ fs.root.find? l = none := by
  rw [find?, Option.map_eq_none_iff]

/-- Whatever has something below it is a directory. -/
theorem find?_eq_directory_of_append {t : Location} (ht : t ≠ []) (h : fs.find? (l ++ t) ≠ none) :
    fs.find? l = some .directory := by
  rw [Ne, find?_eq_none_iff, Node.find?_append] at h
  rw [find?_eq_directory_iff]
  cases hl : fs.root.find? l with
  | none =>
    rw [hl] at h
    exact absurd rfl h
  | some n =>
    cases n with
    | file content =>
      rw [hl] at h
      exact absurd (Node.find?_file ht) h
    | directory nodes => exact ⟨nodes, rfl⟩

theorem find?_dropLast (h : fs.find? l = some .directory) :
    fs.find? l.dropLast = some .directory := by
  rcases List.eq_nil_or_concat l with rfl | ⟨init, last, rfl⟩
  · exact h
  · rw [List.concat_eq_append] at h ⊢
    rw [List.dropLast_concat]
    exact find?_eq_directory_of_append (List.cons_ne_nil last []) (by simp [h])

/-! ### Following names -/

/-- The location behind another by a name. -/
def follow (fs : FileSystem) (l : Location) (name : String) : Except Reason Location :=
  match fs.find? l with
  | none => .error .noEntry
  | some (.file _) => .error .notDirectory
  | some .directory =>
    match fs.guard.search l name with
    | some reason => .error reason
    | none =>
      if name = ".." then .ok l.dropLast
      else if nameLimit < name.utf8ByteSize then .error .nameTooLong
      else .ok (l ++ [name])

/-- Where a path begins. -/
def origin (fs : FileSystem) (path : FilePath) : Location :=
  if path.slashes = 0 then fs.workingDirectory else []

/-- Where a path leads; nothing need be there. -/
def resolve (fs : FileSystem) (path : FilePath) : Except Reason Location :=
  if pathLimit < path.toString.utf8ByteSize then .error .nameTooLong
  else path.names.foldlM fs.follow (fs.origin path)

theorem follow_eq_ok_iff :
    fs.follow l name = .ok l' ↔ fs.find? l = some .directory ∧ fs.guard.search l name = none ∧
      (name = ".." ∧ l' = l.dropLast ∨
        name ≠ ".." ∧ name.utf8ByteSize ≤ nameLimit ∧ l' = l ++ [name]) := by
  rw [follow]
  split
  · simp_all
  · simp_all
  · rename_i hl
    split
    · simp_all
    · rename_i hsearch
      split
      · simp_all [eq_comm]
      · split
        · rename_i hlong
          simp_all [Nat.not_le.2 hlong]
        · rename_i hshort
          simp_all [Nat.not_lt.1 hshort, eq_comm]

/-- The trail of a location: the names that lead there, each with its node. -/
def Trail.ofLocation (fs : FileSystem) (l : Location) : Trail := l.foldl (Trail.extend fs) []

namespace Trail

theorem ofLocation_concat (fs : FileSystem) (l : Location) (name : String) :
    ofLocation fs (l ++ [name]) = extend fs (ofLocation fs l) name := by
  rw [ofLocation, List.foldl_append]
  rfl

theorem node?_ofLocation (fs : FileSystem) (l : Location) :
    node? fs (ofLocation fs l) = fs.root.find? l := by
  induction l using List.reverseRecOn with
  | nil => rfl
  | append_singleton l name ih =>
    rw [ofLocation_concat, Node.find?_append, ← ih]
    show (node? fs (ofLocation fs l)).bind (·.child? name) = _
    simp only [Node.find?_singleton]

theorem location_ofLocation (fs : FileSystem) (l : Location) : (ofLocation fs l).location = l := by
  induction l using List.reverseRecOn with
  | nil => rfl
  | append_singleton l name ih =>
    rw [ofLocation_concat, location, extend, List.map_cons, List.reverse_cons]
    exact congrArg (· ++ [name]) ih

theorem tail_ofLocation (fs : FileSystem) (l : Location) :
    (ofLocation fs l).tail = ofLocation fs l.dropLast := by
  rcases List.eq_nil_or_concat l with rfl | ⟨init, last, rfl⟩
  · rfl
  · rw [List.concat_eq_append, ofLocation_concat, List.dropLast_concat, extend, List.tail_cons]

theorem enter_ofLocation (fs : FileSystem) (l : Location) (name : String) :
    enter fs (ofLocation fs l) name = (fs.follow l name).map (ofLocation fs) := by
  rw [enter, follow, find?, node?_ofLocation, tail_ofLocation, location_ofLocation,
    ← ofLocation_concat]
  cases fs.root.find? l with
  | none => rfl
  | some n =>
    cases n with
    | file content => rfl
    | directory nodes =>
      dsimp only [Option.map_some, Node.toEntry]
      cases fs.guard.search l name with
      | some reason => rfl
      | none =>
        dsimp only
        split
        · rfl
        · split <;> rfl

theorem foldlM_enter (fs : FileSystem) (names : List String) (l : Location) :
    names.foldlM (enter fs) (ofLocation fs l) =
      (names.foldlM fs.follow l).map (ofLocation fs) := by
  induction names generalizing l with
  | nil => rfl
  | cons name rest ih =>
    rw [List.foldlM_cons, List.foldlM_cons, enter_ofLocation]
    cases fs.follow l name with
    | error reason => rfl
    | ok l' => exact ih l'

end Trail

theorem locate_eq (fs : FileSystem) (path : FilePath) :
    fs.locate path = (fs.resolve path).map (Trail.ofLocation fs) := by
  have hstart : fs.start path = Trail.ofLocation fs (fs.origin path) := by
    rw [start, origin]
    split <;> rfl
  rw [locate, resolve, hstart]
  split
  · rfl
  · exact Trail.foldlM_enter fs path.names (fs.origin path)

/-! ### Operations by location -/

theorem stat_eq_ok_iff {n : Node} :
    fs.stat path = .ok n ↔ ∃ l, fs.resolve path = .ok l ∧ fs.root.find? l = some n := by
  rw [stat, locate_eq]
  cases fs.resolve path with
  | error reason => simp [Except.map, bind, Except.bind]
  | ok l =>
    simp only [Except.map, bind, Except.bind, Trail.node?_ofLocation]
    cases hnode : fs.root.find? l with
    | none => simp [hnode]
    | some m => simp [hnode, pure, Except.pure]

/-- An operation that follows a path is told by what it does at the location where the path leads. -/
theorem reach_bind_eq_ok_iff {α : Type} {next : Trail → Except Fault α} {a : α} :
    fs.reach path >>= next = .ok a ↔ path.hasNull = false ∧
      ∃ l, fs.resolve path = .ok l ∧ next (.ofLocation fs l) = .ok a := by
  rw [reach, locate_eq]
  cases hnull : path.hasNull with
  | true => simp [bind, Except.bind]
  | false =>
    cases fs.resolve path with
    | error reason => simp [Except.map, Except.mapError, bind, Except.bind]
    | ok l => simp [Except.map, Except.mapError, bind, Except.bind]

theorem read_eq_ok_iff {content : ByteArray} :
    fs.read path = .ok content ↔ path.hasNull = false ∧
      ∃ l, fs.resolve path = .ok l ∧ fs.find? l = some (.file content) := by
  refine reach_bind_eq_ok_iff.trans (and_congr_right' (exists_congr fun l => and_congr_right' ?_))
  rw [Trail.node?_ofLocation, find?_eq_file_iff]
  split <;> simp_all [pure, Except.pure]

theorem openRead_eq_ok_iff {n : Node} :
    fs.openRead path = .ok (l, n) ↔ path.hasNull = false ∧ fs.resolve path = .ok l ∧
      fs.root.find? l = some n ∧ fs.guard.openRead l = none := by
  refine reach_bind_eq_ok_iff.trans (and_congr_right' ?_)
  simp only [Trail.node?_ofLocation, Trail.location_ofLocation]
  constructor
  · rintro ⟨l', hl', h⟩
    split at h
    · cases h
    · cases h
    · cases h
      exact ⟨hl', ‹_›, ‹_›⟩
  · rintro ⟨hl, hnode, hguard⟩
    refine ⟨l, hl, ?_⟩
    rw [hnode, hguard]
    rfl

theorem fetch_eq_ok_iff {content : ByteArray} :
    fs.fetch path = .ok content ↔ path.hasNull = false ∧ ∃ l, fs.resolve path = .ok l ∧
      fs.find? l = some (.file content) ∧ fs.guard.openRead l = none ∧ fs.guard.read l = none := by
  rw [fetch, bind_eq_ok_iff]
  constructor
  · rintro ⟨⟨l, n⟩, hfound, h⟩
    obtain ⟨hnull, hl, hnode, hguard⟩ := openRead_eq_ok_iff.1 hfound
    cases n with
    | directory nodes => cases h
    | file bytes =>
      dsimp only at h
      split at h
      · cases h
      · rename_i hread
        obtain rfl : bytes = content := Except.ok.inj h
        exact ⟨hnull, l, hl, find?_eq_file_iff.2 hnode, hguard, hread⟩
  · rintro ⟨hnull, l, hl, hfile, hguard, hread⟩
    have hnode := find?_eq_file_iff.1 hfile
    refine ⟨(l, .file content), openRead_eq_ok_iff.2 ⟨hnull, hl, hnode, hguard⟩, ?_⟩
    dsimp only
    rw [hread]
    rfl

theorem openWrite_eq_ok_iff :
    fs.openWrite path = .ok l ↔ path.hasNull = false ∧ fs.resolve path = .ok l ∧
      fs.find? l ≠ some .directory ∧ fs.guard.openWrite l = none := by
  refine reach_bind_eq_ok_iff.trans (and_congr_right' ?_)
  simp only [Trail.node?_ofLocation, Trail.location_ofLocation, Ne, find?_eq_directory_iff]
  constructor
  · rintro ⟨l', hl', h⟩
    split at h
    · cases h
    · cases h
    · rename_i hguard hnode
      obtain rfl : l' = l := Except.ok.inj h
      exact ⟨hl', fun ⟨nodes, hnodes⟩ => hnode nodes hnodes, hguard⟩
  · rintro ⟨hl, hnode, hguard⟩
    refine ⟨l, hl, ?_⟩
    split
    · rename_i nodes hnodes
      exact absurd ⟨nodes, hnodes⟩ hnode
    · rename_i hrefused _
      rw [hguard] at hrefused
      cases hrefused
    · rfl

theorem makeDirectory_eq_ok_iff :
    fs.makeDirectory path = .ok fs' ↔ path.hasNull = false ∧ ∃ l, fs.resolve path = .ok l ∧
      fs.find? l = none ∧ fs.guard.make l = none ∧ fs' = fs.insert l (.directory []) := by
  refine reach_bind_eq_ok_iff.trans (and_congr_right' (exists_congr fun l => and_congr_right' ?_))
  rw [find?_eq_none_iff, Trail.node?_ofLocation, Trail.location_ofLocation]
  cases fs.root.find? l with
  | some n => simp
  | none =>
    cases fs.guard.make l with
    | some reason => simp
    | none => simp [pure, Except.pure, eq_comm]

/-! ### What stays in reach -/

/-- The working directory is there. -/
def HasWorkingDirectory (fs : FileSystem) : Prop := fs.find? fs.workingDirectory = some .directory

/-- No directory of the one file system is lost in the other. -/
structure KeepsDirectories (fs fs' : FileSystem) : Prop where
  workingDirectory : fs'.workingDirectory = fs.workingDirectory
  guard : fs'.guard = fs.guard
  directory : ∀ l, fs.find? l = some .directory → fs'.find? l = some .directory

namespace KeepsDirectories

theorem trans {fs'' : FileSystem} (h : KeepsDirectories fs fs') (h' : KeepsDirectories fs' fs'') :
    KeepsDirectories fs fs'' :=
  ⟨h'.workingDirectory.trans h.workingDirectory, h'.guard.trans h.guard,
    fun l hl => h'.directory l (h.directory l hl)⟩

theorem hasWorkingDirectory (h : KeepsDirectories fs fs') (hfs : fs.HasWorkingDirectory) :
    fs'.HasWorkingDirectory := by
  rw [HasWorkingDirectory, h.workingDirectory]
  exact h.directory _ hfs

theorem foldlM_follow (h : KeepsDirectories fs fs') {names : List String}
    (hl : names.foldlM fs.follow l = .ok l') : names.foldlM fs'.follow l = .ok l' := by
  induction names generalizing l with
  | nil => exact hl
  | cons name rest ih =>
    rw [List.foldlM_cons, bind_eq_ok_iff] at hl ⊢
    obtain ⟨next, hnext, hrest⟩ := hl
    obtain ⟨hdirectory, hcases⟩ := follow_eq_ok_iff.1 hnext
    exact ⟨next, follow_eq_ok_iff.2 ⟨h.directory l hdirectory, h.guard ▸ hcases⟩, ih hrest⟩

/-- A path that leads somewhere still leads there. -/
theorem resolve (h : KeepsDirectories fs fs') (hl : fs.resolve path = .ok l) :
    fs'.resolve path = .ok l := by
  rw [FileSystem.resolve] at hl ⊢
  split at hl
  · cases hl
  · rename_i hshort
    rw [if_neg hshort, origin, h.workingDirectory]
    exact h.foldlM_follow hl

end KeepsDirectories

/-- The location is passed on the way of a path, or is the one where it leads. -/
def OnWay (fs : FileSystem) (path : FilePath) (l : Location) : Prop :=
  ∃ names, names <+: path.names ∧ fs.resolve { path with names } = .ok l

theorem OnWay.of_resolve (h : fs.resolve path = .ok l) : fs.OnWay path l :=
  ⟨path.names, List.prefix_rfl, h⟩

theorem OnWay.of_parent (h : fs.OnWay path.parent l) : fs.OnWay path l := by
  obtain ⟨names, hprefix, hl⟩ := h
  exact ⟨names, hprefix.trans (List.dropLast_prefix path.names), hl⟩

theorem OnWay.of_keepsDirectories (h : fs.OnWay path l) (hkeeps : KeepsDirectories fs fs') :
    fs'.OnWay path l := by
  obtain ⟨names, hprefix, hl⟩ := h
  exact ⟨names, hprefix, hkeeps.resolve hl⟩

theorem resolve_eq_ok_iff :
    fs.resolve path = .ok l ↔ path.toString.utf8ByteSize ≤ pathLimit ∧
      path.names.foldlM fs.follow (fs.origin path) = .ok l := by
  rw [resolve]
  split
  · rename_i hlong
    simp [Nat.not_le.2 hlong]
  · rename_i hshort
    simp [Nat.not_lt.1 hshort]

/-- What is passed on the way to the last name of a path is a directory. -/
theorem find?_of_onWay_parent (h : fs.resolve path = .ok l) (hnames : path.names ≠ [])
    (hway : fs.OnWay path.parent l') : fs.find? l' = some .directory := by
  obtain ⟨names, hprefix, hl'⟩ := hway
  obtain ⟨more, hmore⟩ := hprefix
  have hsplit : path.names = names ++ (more ++ [path.names.getLast hnames]) := by
    rw [← List.append_assoc, hmore]
    exact (List.dropLast_concat_getLast hnames).symm
  obtain ⟨-, hfold⟩ := resolve_eq_ok_iff.1 h
  obtain ⟨-, hfold'⟩ := resolve_eq_ok_iff.1 hl'
  rw [hsplit, List.foldlM_append, bind_eq_ok_iff] at hfold
  obtain ⟨next, hnext, hrest⟩ := hfold
  obtain rfl : next = l' := Except.ok.inj (hnext.symm.trans hfold')
  cases hrests : more ++ [path.names.getLast hnames] with
  | nil => simp at hrests
  | cons name rest =>
    rw [hrests, List.foldlM_cons, bind_eq_ok_iff] at hrest
    obtain ⟨_, hfollow, -⟩ := hrest
    exact (follow_eq_ok_iff.1 hfollow).1

/-- Where a path leads to no directory, its last name is that of an entry of one. -/
theorem find?_parent_of_resolve (hfs : fs.HasWorkingDirectory) (h : fs.resolve path = .ok l)
    (hl : fs.find? l ≠ some .directory) :
    path.names ≠ [] ∧ fs.find? l.dropLast = some .directory := by
  have horigin : fs.find? (fs.origin path) = some .directory := by
    rw [origin]
    split
    · exact hfs
    · rfl
  obtain ⟨-, hfold⟩ := resolve_eq_ok_iff.1 h
  rcases List.eq_nil_or_concat path.names with hnil | ⟨init, last, hconcat⟩
  · rw [hnil] at hfold
    obtain rfl := Except.ok.inj hfold
    exact absurd horigin hl
  · rw [hconcat, List.concat_eq_append, List.foldlM_append, bind_eq_ok_iff] at hfold
    obtain ⟨next, -, hlast⟩ := hfold
    rw [List.foldlM_cons, bind_eq_ok_iff] at hlast
    obtain ⟨l', hfollow, hl'⟩ := hlast
    obtain rfl : l' = l := Except.ok.inj hl'
    obtain ⟨hdirectory, -, ⟨-, rfl⟩ | ⟨-, -, rfl⟩⟩ := follow_eq_ok_iff.1 hfollow
    · exact absurd (find?_dropLast hdirectory) hl
    · rw [hconcat, List.dropLast_concat]
      exact ⟨by simp, hdirectory⟩

end FileSystem

end LuauLayout
