import LuauLayout.FileSystem

/-! Which faults the operations on files have.  Most are refusals; a null character in a path is one of
its own, and so is a path with too many directories missing, which takes as many names.  The test for a
directory takes a path that leads nowhere as a no, and fails for one that cannot be followed for another
reason. -/

namespace LuauLayout

namespace FilePath

theorem hasNull_of_parent {path : FilePath} (h : path.parent.hasNull = true) :
    path.hasNull = true := by
  obtain ⟨name, hname, hnull⟩ := List.any_eq_true.1 h
  exact List.any_eq_true.2 ⟨name, (List.dropLast_sublist _).subset hname, hnull⟩

theorem splitSlash_of_not_mem {s : List Char} (h : '/' ∉ s) : splitSlash s = [s] := by
  induction s with
  | nil => rfl
  | cons c rest ih =>
    have hc : c ≠ '/' := fun heq => h (heq ▸ List.mem_cons_self)
    rw [splitSlash, if_neg hc, ih fun hmem => h (List.mem_cons_of_mem _ hmem)]

theorem rootSlashes_of_not_mem {s : List Char} (h : '/' ∉ s) : rootSlashes s = 0 := by
  have hnone : s.takeWhile (· == '/') = [] := by
    cases s with
    | nil => rfl
    | cons c rest =>
      have hc : c ≠ '/' := fun heq => h (heq ▸ List.mem_cons_self)
      exact List.takeWhile_cons_of_neg (by simpa using hc)
  rw [rootSlashes, hnone]
  rfl

/-- A text without a slash is a name by itself, unless it is empty or a dot. -/
theorem ofString_of_not_mem {s : String} (h : '/' ∉ s.toList) (hname : isName s.toList = true) :
    ofString s = { names := [s] } := by
  rw [ofString, rootSlashes_of_not_mem h, splitSlash_of_not_mem h, List.filter_cons_of_pos hname,
    List.filter_nil, List.map_singleton, String.ofList_toList]

end FilePath

namespace FileSystem

variable {fs : FileSystem} {path : FilePath} {fault : Fault}

/-- The operation on some path is refused. -/
def Fault.IsRefused (fault : Fault) : Prop := ∃ reason path, fault = .refused reason path

theorem Fault.IsRefused.isRefusal (h : fault.IsRefused) : fault.isRefusal = true := by
  obtain ⟨reason, path, rfl⟩ := h
  rfl

/-- An operation that follows a path and may be refused then has no other fault than a null character
in the path. -/
theorem reach_bind_eq_error {α : Type} {next : Trail → Except Fault α}
    (hnext : ∀ t fault, next t = .error fault → fault.IsRefused)
    (h : fs.reach path >>= next = .error fault) :
    fault = .nullCharacter ∧ path.hasNull = true ∨ fault.IsRefused := by
  rw [reach] at h
  split at h
  · rename_i hnull
    exact Or.inl ⟨(Except.error.inj h).symm, hnull⟩
  · cases hlocate : fs.locate path with
    | error reason =>
      rw [hlocate] at h
      obtain rfl := Except.error.inj h
      exact Or.inr ⟨_, _, rfl⟩
    | ok t =>
      rw [hlocate] at h
      exact Or.inr (hnext t fault h)

theorem reach_of_hasNull (h : path.hasNull = true) : fs.reach path = .error .nullCharacter := by
  rw [reach, if_pos h]

/-! ### Files -/

theorem openRead_eq_error (h : fs.openRead path = .error fault) :
    fault = .nullCharacter ∧ path.hasNull = true ∨ fault.IsRefused := by
  refine reach_bind_eq_error (fun t fault h => ?_) h
  split at h <;> cases h
  all_goals exact ⟨_, _, rfl⟩

theorem fetch_eq_error (h : fs.fetch path = .error fault) :
    fault = .nullCharacter ∧ path.hasNull = true ∨ fault.isRefusal = true := by
  rw [fetch] at h
  cases hopen : fs.openRead path with
  | error e =>
    rw [hopen] at h
    obtain rfl := Except.error.inj h
    exact (openRead_eq_error hopen).imp_right Fault.IsRefused.isRefusal
  | ok found =>
    rw [hopen] at h
    obtain ⟨l, n⟩ := found
    cases n with
    | directory nodes =>
      obtain rfl := Except.error.inj h
      exact Or.inr rfl
    | file content =>
      dsimp only [bind, Except.bind] at h
      split at h
      · obtain rfl := Except.error.inj h
        exact Or.inr rfl
      · cases h

theorem fetch_of_hasNull (h : path.hasNull = true) : fs.fetch path = .error .nullCharacter := by
  rw [fetch, openRead, reach_of_hasNull h]
  rfl

theorem openWrite_eq_error (h : fs.openWrite path = .error fault) :
    fault = .nullCharacter ∧ path.hasNull = true ∨ fault.IsRefused := by
  refine reach_bind_eq_error (fun t fault h => ?_) h
  split at h <;> cases h
  all_goals exact ⟨_, _, rfl⟩

theorem openWrite_of_hasNull (h : path.hasNull = true) :
    fs.openWrite path = .error .nullCharacter := by
  rw [openWrite, reach_of_hasNull h]
  rfl

/-! ### Directories -/

theorem makeDirectory_eq_error (h : fs.makeDirectory path = .error fault) :
    fault = .nullCharacter ∧ path.hasNull = true ∨ fault.IsRefused := by
  refine reach_bind_eq_error (fun t fault h => ?_) h
  split at h <;> cases h
  all_goals exact ⟨_, _, rfl⟩

theorem makeDirectory_of_hasNull (h : path.hasNull = true) :
    fs.makeDirectory path = .error .nullCharacter := by
  rw [makeDirectory, reach_of_hasNull h]
  rfl

theorem stat_eq_error_iff {reason : Reason} (h : reason.leadsNowhere = false) :
    fs.stat path = .error reason ↔ fs.locate path = .error reason := by
  rw [stat]
  cases fs.locate path with
  | error other => simp [bind, Except.bind]
  | ok t =>
    have hne : Reason.noEntry ≠ reason := by
      rintro rfl
      cases h
    simp only [bind, Except.bind, reduceCtorEq, iff_false]
    cases Trail.node? fs t <;> simp [pure, Except.pure, hne]

/-- A name beyond the limit cannot be looked up in the directory where its path begins. -/
theorem locate_of_nameLimit_lt {name : String} {nodes : List (String × Node)}
    (hlong : nameLimit < name.utf8ByteSize)
    (hstart : Trail.node? fs (fs.start { names := [name] }) = some (.directory nodes))
    (hsearch : fs.guard.search (fs.start { names := [name] }).location name = none) :
    fs.locate { names := [name] } = .error .nameTooLong := by
  have hne : name ≠ ".." := by
    rintro rfl
    exact absurd hlong (by decide)
  rw [locate]
  split
  · rfl
  · rw [List.foldlM_cons, Trail.enter, hstart]
    simp [hsearch, hne, hlong, bind, Except.bind]

/-- The test for a directory fails for a path that cannot be followed, unless that means that it leads
nowhere. -/
theorem isDirectory_eq_error_iff :
    fs.isDirectory path = .error fault ↔ path.hasNull = false ∧ ∃ reason,
      fs.locate path = .error reason ∧ reason.leadsNowhere = false ∧
        fault = .refused reason path := by
  rw [isDirectory]
  split
  · rename_i hnull
    simp [hnull]
  · rename_i hnull
    rw [Bool.not_eq_true] at hnull
    simp only [hnull, true_and]
    constructor
    · intro h
      split at h
      · cases h
      · cases h
      · rename_i reason hstat
        split at h
        · cases h
        · rename_i hreason
          rw [Bool.not_eq_true] at hreason
          cases h
          exact ⟨reason, (stat_eq_error_iff hreason).1 hstat, hreason, rfl⟩
    · rintro ⟨reason, hlocate, hreason, rfl⟩
      rw [(stat_eq_error_iff hreason).2 hlocate]
      simp [hreason]

theorem acceptExisting_eq_error {fault' : Fault} (h : fs.acceptExisting path fault = .error fault') :
    fault' = fault ∨ fault'.IsRefused := by
  rw [acceptExisting] at h
  split at h
  · cases hd : fs.isDirectory path with
    | error e =>
      rw [hd] at h
      obtain rfl := Except.error.inj h
      obtain ⟨-, reason, -, -, rfl⟩ := isDirectory_eq_error_iff.1 hd
      exact Or.inr ⟨_, _, rfl⟩
    | ok isThere =>
      rw [hd] at h
      cases isThere with
      | true => cases h
      | false => exact Or.inl (Except.error.inj h).symm
  · exact Or.inl (Except.error.inj h).symm

/-- What may go wrong with the directories of a path: a refusal, a null character in it, or too many
names. -/
def IsFaultOf (limit : Nat) (path : FilePath) (fault : Fault) : Prop :=
  fault.IsRefused ∨ fault = .nullCharacter ∧ path.hasNull = true ∨
    fault = .tooManyMissing ∧ limit ≤ path.names.length

theorem isFaultOf_acceptExisting {limit : Nat} {fault' : Fault}
    (hmake : fs.makeDirectory path = .error fault) {fs' : FileSystem}
    (h : fs'.acceptExisting path fault = .error fault') : IsFaultOf limit path fault' := by
  rcases acceptExisting_eq_error h with rfl | hrefused
  · exact (makeDirectory_eq_error hmake).elim (fun hnull => Or.inr (Or.inl hnull)) Or.inl
  · exact Or.inl hrefused

/-- Each directory that is missing takes one name off the path, so that many names must be there. -/
theorem isFaultOf_ensureDirectory {limit : Nat}
    (h : (fs.ensureDirectory limit path).2 = .error fault) : IsFaultOf limit path fault := by
  induction limit generalizing path with
  | zero =>
    obtain rfl := Except.error.inj h
    exact Or.inr (Or.inr ⟨rfl, Nat.zero_le _⟩)
  | succ limit ih =>
    rw [ensureDirectory] at h
    split at h
    · cases h
    · rename_i hmake
      split at h
      · split at h
        · obtain rfl := Except.error.inj h
          exact (makeDirectory_eq_error hmake).elim (fun hnull => Or.inr (Or.inl hnull)) Or.inl
        · rename_i hnames
          cases hparent : fs.ensureDirectory limit path.parent with
          | mk fs' result =>
            rw [hparent] at h
            cases result with
            | ok u =>
              cases u
              dsimp only at h
              rw [ensureLast] at h
              split at h
              · cases h
              · rename_i hlast
                exact isFaultOf_acceptExisting hlast h
            | error e =>
              obtain rfl := Except.error.inj h
              have hfault : IsFaultOf limit path.parent e := ih (by rw [hparent])
              rcases hfault with hrefused | ⟨rfl, hnull⟩ | ⟨rfl, hlimit⟩
              · exact Or.inl hrefused
              · exact Or.inr (Or.inl ⟨rfl, FilePath.hasNull_of_parent hnull⟩)
              · have hlength : path.parent.names.length = path.names.length - 1 :=
                  List.length_dropLast
                have hpos := List.length_pos_iff.2 hnames
                exact Or.inr (Or.inr ⟨rfl, by omega⟩)
      · exact isFaultOf_acceptExisting hmake h

theorem ensureDirectory_of_hasNull {limit : Nat} (h : path.hasNull = true) :
    fs.ensureDirectory (limit + 1) path = (fs, .error .nullCharacter) := by
  rw [ensureDirectory, makeDirectory_of_hasNull h]
  rfl

theorem ensureDirectory_eq_null_iff {limit : Nat} :
    (fs.ensureDirectory limit path).2 = .error .nullCharacter ↔
      0 < limit ∧ path.hasNull = true := by
  constructor
  · intro h
    cases limit with
    | zero => cases h
    | succ limit =>
      rcases isFaultOf_ensureDirectory h with ⟨_, _, h⟩ | ⟨-, hnull⟩ | ⟨h, -⟩
      · cases h
      · exact ⟨Nat.succ_pos limit, hnull⟩
      · cases h
  · rintro ⟨hlimit, h⟩
    obtain ⟨limit, rfl⟩ := Nat.exists_eq_add_one.2 hlimit
    rw [ensureDirectory_of_hasNull h]

end FileSystem

end LuauLayout
