import LuauLayout.Proofs.PathResolution

/-! What the operations on files change.  A node without anything below it changes the entry of its
location and no other, so making a directory adds one on the way of its path, and making all that are
missing adds some on the way.  Writing a file changes the entry where its path leads, and the path leads
there afterwards; so does writing that stops, which leaves a beginning of the content. -/

namespace LuauLayout.FileSystem

variable {fs fs' : FileSystem} {path : FilePath} {l l' : Location} {n : Node}

/-! ### Insertion -/

theorem root_insert (n : Node) (hl : l ≠ []) : (fs.insert l n).root = fs.root.insert l n := by
  cases l with
  | nil => exact absurd rfl hl
  | cons name rest => rfl

theorem ne_nil_of_find?_ne (h : fs.find? l ≠ some .directory) : l ≠ [] := by
  rintro rfl
  exact h rfl

theorem find?_insert_self (n : Node) (h : fs.find? l ≠ some .directory) :
    (fs.insert l n).find? l = some n.toEntry := by
  rw [find?, root_insert n (ne_nil_of_find?_ne h), Node.find?_insert_self]
  rfl

/-- Only what was no directory is replaced. -/
theorem keepsDirectories_insert (n : Node) (h : fs.find? l ≠ some .directory) :
    KeepsDirectories fs (fs.insert l n) := by
  refine ⟨rfl, rfl, fun d hd => ?_⟩
  by_cases hbelow : l <+: d
  · obtain ⟨t, rfl⟩ := hbelow
    by_cases ht : t = []
    · subst ht
      exact absurd (List.append_nil l ▸ hd) h
    · exact absurd (find?_eq_directory_of_append ht (by simp [hd])) h
  · by_cases habove : d <+: l
    · obtain ⟨t, rfl⟩ := habove
      have ht : t ≠ [] := by
        rintro rfl
        exact hbelow (by simp)
      exact find?_eq_directory_of_append ht (by simp [find?_insert_self n h])
    · rw [find?, root_insert n (ne_nil_of_find?_ne h),
        Node.find?_insert_of_not_prefix _ _ hbelow habove]
      exact hd

/-- A node with nothing below it, put into a directory, changes no other entry. -/
theorem find?_insert_of_ne (hleaf : ∀ t, t ≠ [] → n.find? t = none)
    (hparent : fs.find? l.dropLast = some .directory) (h : fs.find? l ≠ some .directory)
    (hne : l' ≠ l) : (fs.insert l n).find? l' = fs.find? l' := by
  by_cases hbelow : l <+: l'
  · obtain ⟨t, rfl⟩ := hbelow
    have ht : t ≠ [] := by
      rintro rfl
      exact hne (List.append_nil l)
    have hbefore : fs.find? (l ++ t) = none :=
      not_not.1 fun hsome => h (find?_eq_directory_of_append ht hsome)
    rw [hbefore, find?_eq_none_iff, root_insert n (ne_nil_of_find?_ne h), Node.find?_append,
      Node.find?_insert_self]
    exact hleaf t ht
  · by_cases habove : l' <+: l
    · have hprefix : l' <+: l.dropLast := by
        refine List.prefix_of_prefix_length_le habove (List.dropLast_prefix l) ?_
        have hlt : l'.length < l.length :=
          Nat.lt_of_le_of_ne habove.length_le fun heq => hne (habove.eq_of_length heq)
        rw [List.length_dropLast]
        omega
      obtain ⟨t, ht⟩ := hprefix
      have hbefore : fs.find? l' = some .directory := by
        by_cases hnil : t = []
        · rw [hnil, List.append_nil] at ht
          rwa [ht]
        · exact find?_eq_directory_of_append hnil (by simp [ht, hparent])
      rw [hbefore, (keepsDirectories_insert n h).directory l' hbefore]
    · rw [find?, root_insert n (ne_nil_of_find?_ne h),
        Node.find?_insert_of_not_prefix _ _ hbelow habove]
      rfl

/-! ### Making directories -/

/-- Directories on the way of a path are made, and nothing else differs. -/
structure MakesWay (path : FilePath) (fs fs' : FileSystem) : Prop where
  workingDirectory : fs'.workingDirectory = fs.workingDirectory
  guard : fs'.guard = fs.guard
  entry : ∀ l, fs'.find? l = fs.find? l ∨
    fs.find? l = none ∧ fs'.find? l = some .directory ∧ fs'.OnWay path l

namespace MakesWay

theorem refl (path : FilePath) (fs : FileSystem) : MakesWay path fs fs :=
  ⟨rfl, rfl, fun _ => Or.inl rfl⟩

theorem keepsDirectories (h : MakesWay path fs fs') : KeepsDirectories fs fs' := by
  refine ⟨h.workingDirectory, h.guard, fun l hl => ?_⟩
  rcases h.entry l with heq | ⟨hnone, -, -⟩
  · rw [heq, hl]
  · rw [hl] at hnone
    cases hnone

theorem trans {fs'' : FileSystem} (h : MakesWay path fs fs') (h' : MakesWay path fs' fs'') :
    MakesWay path fs fs'' := by
  refine ⟨h'.workingDirectory.trans h.workingDirectory, h'.guard.trans h.guard, fun l => ?_⟩
  rcases h.entry l with heq | ⟨hnone, hmade, hway⟩
  · rw [← heq]
    exact h'.entry l
  · exact Or.inr ⟨hnone, h'.keepsDirectories.directory l hmade,
      hway.of_keepsDirectories h'.keepsDirectories⟩

theorem of_parent (h : MakesWay path.parent fs fs') : MakesWay path fs fs' :=
  ⟨h.workingDirectory, h.guard, fun l => (h.entry l).imp_right fun ⟨hnone, hmade, hway⟩ =>
    ⟨hnone, hmade, hway.of_parent⟩⟩

end MakesWay

theorem makesWay_makeDirectory (hfs : fs.HasWorkingDirectory) (h : fs.makeDirectory path = .ok fs') :
    MakesWay path fs fs' := by
  obtain ⟨-, l, hl, hnone, -, rfl⟩ := makeDirectory_eq_ok_iff.1 h
  have hne : fs.find? l ≠ some .directory := by simp [hnone]
  obtain ⟨-, hparent⟩ := find?_parent_of_resolve hfs hl hne
  refine ⟨rfl, rfl, fun l' => ?_⟩
  by_cases heq : l' = l
  · subst heq
    have hway := OnWay.of_resolve ((keepsDirectories_insert (.directory []) hne).resolve hl)
    exact Or.inr ⟨hnone, find?_insert_self _ hne, hway⟩
  · exact Or.inl (find?_insert_of_ne (fun _ => Node.find?_empty) hparent hne heq)

theorem makesWay_ensureLast (hfs : fs.HasWorkingDirectory) :
    MakesWay path fs (fs.ensureLast path).1 := by
  rw [ensureLast]
  split
  · rename_i hmake
    exact makesWay_makeDirectory hfs hmake
  · exact .refl path fs

/-- The directories that are made, up to a fault if there is one, lie on the way of the path. -/
theorem makesWay_ensureDirectory (hfs : fs.HasWorkingDirectory) (limit : Nat) (path : FilePath) :
    MakesWay path fs (fs.ensureDirectory limit path).1 := by
  induction limit generalizing path with
  | zero => exact .refl path fs
  | succ limit ih =>
    rw [ensureDirectory]
    split
    · rename_i hmake
      exact makesWay_makeDirectory hfs hmake
    · split
      · split
        · exact .refl path fs
        · have hparent := ih path.parent
          split
          · rename_i fs' hmade
            rw [hmade] at hparent
            have hfs' := hparent.keepsDirectories.hasWorkingDirectory hfs
            exact hparent.of_parent.trans (makesWay_ensureLast hfs')
          · exact hparent.of_parent
      · exact .refl path fs

/-! ### Writing a file -/

/-- A file can be put where a path leads that can be opened for writing.  It lies in a directory, and no
other entry differs. -/
theorem find?_of_openWrite (hfs : fs.HasWorkingDirectory) (h : fs.openWrite path = .ok l)
    (content : ByteArray) :
    let fs' := fs.insert l (.file content)
    path.names ≠ [] ∧ KeepsDirectories fs fs' ∧ fs'.resolve path = .ok l ∧
      fs.find? l ≠ some .directory ∧ fs'.find? l = some (.file content) ∧
      ∀ l', l' ≠ l → fs'.find? l' = fs.find? l' := by
  obtain ⟨-, hl, hne, -⟩ := openWrite_eq_ok_iff.1 h
  obtain ⟨hnames, hparent⟩ := find?_parent_of_resolve hfs hl hne
  have hkeeps := keepsDirectories_insert (.file content) hne
  exact ⟨hnames, hkeeps, hkeeps.resolve hl, hne, find?_insert_self _ hne, fun l' hne' =>
    find?_insert_of_ne (fun _ => Node.find?_file) hparent hne hne'⟩

section Save

variable {text : Except Text.EncodingFault ByteArray} {content : ByteArray}

theorem save_eq_ok_iff : fs.save path text = (fs', .ok ()) ↔ ∃ l content,
    fs.openWrite path = .ok l ∧ text = .ok content ∧ fs.guard.write l content = none ∧
      fs' = fs.insert l (.file content) := by
  rw [save]
  cases fs.openWrite path with
  | error fault => simp
  | ok l =>
    cases text with
    | error f => simp
    | ok content =>
      cases hwrite : fs.guard.write l content with
      | some stop => simp [hwrite]
      | none => simp [hwrite, eq_comm]

/-- Why a text is not written to an open file. -/
inductive IsLate (text : Except Text.EncodingFault ByteArray) : Fault → Prop
  | stopped (reason : Reason) : IsLate text (.stopped reason)
  | unencodable {f : Text.EncodingFault} (hf : text = .error f) : IsLate text (.unencodable f)

/-- What an open file is left with: a beginning of the bytes of a text, nothing if it has none. -/
def IsBeginning (written : ByteArray) : Except Text.EncodingFault ByteArray → Prop
  | .ok content => ∃ taken, written = content.extract 0 taken
  | .error _ => written = .empty

/-- A file that is not saved is as it was if it could not be opened, and has a beginning of the text
otherwise. -/
theorem save_of_error {fault : Fault} (h : (fs.save path text).2 = .error fault) :
    fs.openWrite path = .error fault ∧ (fs.save path text).1 = fs ∨
      IsLate text fault ∧ ∃ l written, fs.openWrite path = .ok l ∧ IsBeginning written text ∧
        (fs.save path text).1 = fs.insert l (.file written) := by
  rw [save] at h ⊢
  cases hopen : fs.openWrite path with
  | error e =>
    rw [hopen] at h
    obtain rfl := Except.error.inj h
    exact Or.inl ⟨rfl, rfl⟩
  | ok l =>
    rw [hopen] at h
    cases text with
    | error f =>
      obtain rfl := Except.error.inj h
      exact Or.inr ⟨.unencodable rfl, l, .empty, rfl, rfl, rfl⟩
    | ok content =>
      dsimp only at h ⊢
      cases hwrite : fs.guard.write l content with
      | some stop =>
        rw [hwrite] at h
        obtain rfl := Except.error.inj h
        exact Or.inr ⟨.stopped _, l, _, rfl, ⟨stop.1, rfl⟩, rfl⟩
      | none =>
        rw [hwrite] at h
        cases h

/-- What was written is the content of the file at the same path. -/
theorem read_of_save (h : fs.save path (.ok content) = (fs', .ok ())) :
    fs'.read path = .ok content := by
  obtain ⟨l, bytes, hopen, hbytes, -, rfl⟩ := save_eq_ok_iff.1 h
  obtain rfl := Except.ok.inj hbytes
  obtain ⟨hnull, hl, hne, -⟩ := openWrite_eq_ok_iff.1 hopen
  exact read_eq_ok_iff.2 ⟨hnull, l, (keepsDirectories_insert _ hne).resolve hl,
    find?_insert_self _ hne⟩

end Save

end LuauLayout.FileSystem
