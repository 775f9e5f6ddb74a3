import LuauLayout.Proofs.ScriptText

/-! What a run of the export command leaves behind.  A run without an export changes no file and prints
nothing, and one without a destination changes no file.  A run with a destination makes the directories
on the way to it and writes that one file, or it fails.  Then it has made some of these directories at
most, unless it fails when the file is open: the file is emptied before the script is written to it, and
what was written of the script stays there. -/

namespace LuauLayout.ExportCommand

variable {fs fs' : FileSystem} {path : FilePath} {limit : Nat} {host : Host}
  {script : Except Text.EncodingFault ByteArray} {request : Arguments.Request} {result : Export}

/-! ### Delivering a script -/

/-- A file is written where a path leads.  What lies on the way to it is a directory afterwards, and
was one before or was missing; all other entries are as before. -/
structure Saves (path : FilePath) (content : ByteArray) (fs fs' : FileSystem) (l : Location) :
    Prop where
  leads : fs'.resolve path = .ok l
  replaced : fs.find? l ≠ some .directory
  written : fs'.find? l = some (.file content)
  way : ∀ l', fs'.OnWay path.parent l' →
    fs'.find? l' = some .directory ∧ (fs.find? l' = none ∨ fs.find? l' = some .directory)
  others : ∀ l', l' ≠ l → ¬fs'.OnWay path.parent l' → fs'.find? l' = fs.find? l'

/-- A file that can be opened is saved, whatever is written, if what was done before is making its
way. -/
theorem saves_of_openWrite {l : Location} (hfs : fs.HasWorkingDirectory)
    (hway : FileSystem.MakesWay path.parent fs fs') (h : fs'.openWrite path = .ok l)
    (content : ByteArray) : Saves path content fs (fs'.insert l (.file content)) l := by
  have hfs' := hway.keepsDirectories.hasWorkingDirectory hfs
  obtain ⟨hnames, hkeeps, hl, hne, hfile, hothers⟩ := FileSystem.find?_of_openWrite hfs' h content
  generalize fs'.insert l (.file content) = fs'' at hkeeps hl hfile hothers ⊢
  have hdirectory : ∀ l', fs''.OnWay path.parent l' → fs''.find? l' = some .directory :=
    fun l' hl' => FileSystem.find?_of_onWay_parent hl hnames hl'
  refine ⟨hl, fun hbefore => hne (hway.keepsDirectories.directory l hbefore), hfile,
    fun l' hl' => ⟨hdirectory l' hl', ?_⟩, fun l' hne' hl' => ?_⟩
  · have hne' : l' ≠ l := by
      rintro rfl
      rw [hdirectory l' hl'] at hfile
      cases hfile
    rcases hway.entry l' with heq | ⟨hnone, -, -⟩
    · rw [← heq, ← hothers l' hne']
      exact Or.inr (hdirectory l' hl')
    · exact Or.inl hnone
  · rw [hothers l' hne']
    rcases hway.entry l' with heq | ⟨-, -, hmade⟩
    · exact heq
    · exact absurd (hmade.of_keepsDirectories hkeeps) hl'

/-- A script is delivered by making its directory and then saving it there. -/
theorem exists_save_of_deliver (h : deliver limit fs path script = (fs', .ok ())) :
    ∃ fs₁, fs.ensureDirectory limit path.parent = (fs₁, .ok ()) ∧
      fs₁.save path script = (fs', .ok ()) := by
  rw [deliver] at h
  split at h
  · rename_i fs₁ hmade
    exact ⟨fs₁, hmade, h⟩
  · rename_i hfailed
    exact (hfailed fs' h).elim

theorem exists_saves_of_deliver (hfs : fs.HasWorkingDirectory)
    (h : deliver limit fs path script = (fs', .ok ())) : ∃ l content, script = .ok content ∧
      FileSystem.KeepsDirectories fs fs' ∧ Saves path content fs fs' l := by
  obtain ⟨fs₁, hmade, hsave⟩ := exists_save_of_deliver h
  obtain ⟨l, content, hopen, hcontent, -, rfl⟩ := FileSystem.save_eq_ok_iff.1 hsave
  have hway := FileSystem.makesWay_ensureDirectory hfs limit path.parent
  rw [hmade] at hway
  obtain ⟨-, -, hne, -⟩ := FileSystem.openWrite_eq_ok_iff.1 hopen
  exact ⟨l, content, hcontent,
    hway.keepsDirectories.trans (FileSystem.keepsDirectories_insert _ hne),
    saves_of_openWrite hfs hway hopen content⟩

theorem deliver_of_ok (h : (deliver limit fs path script).2 = .ok ()) :
    deliver limit fs path script = ((deliver limit fs path script).1, .ok ()) :=
  Prod.ext rfl h

/-- The file of a delivered script holds its bytes. -/
theorem read_of_deliver (h : deliver limit fs path script = (fs', .ok ())) :
    ∃ content, script = .ok content ∧ fs'.read path = .ok content := by
  obtain ⟨fs₁, -, hsave⟩ := exists_save_of_deliver h
  obtain ⟨-, content, -, hcontent, -⟩ := FileSystem.save_eq_ok_iff.1 hsave
  exact ⟨content, hcontent, FileSystem.read_of_save (hcontent ▸ hsave)⟩

/-- The file that an output argument asks for: the default file of a directory, or the path itself. -/
def outputFile (path : FilePath) (isThere : Bool) : FilePath :=
  if isThere then path.child defaultFileName else path

theorem destination_path_iff {s : String} {target : FilePath} :
    destination host (some (.path s)) = .ok (some target) ↔ ∃ isThere,
      host.files.isDirectory (.ofString s) = .ok isThere ∧
        target = outputFile (.ofString s) isThere := by
  refine bind_eq_ok_iff.trans (exists_congr fun isThere => and_congr mapError_eq_ok_iff ?_)
  rw [outputFile]
  exact ⟨fun h => (Option.some.inj (Except.ok.inj h)).symm, fun h => h ▸ rfl⟩

theorem destination_of_isDirectory {s : String} {isThere : Bool} (hpath : FilePath.ofString s = path)
    (hthere : host.files.isDirectory path = .ok isThere) :
    destination host (some (.path s)) = .ok (some (outputFile path isThere)) :=
  destination_path_iff.2 ⟨isThere, hpath ▸ hthere, hpath ▸ rfl⟩

/-! ### Runs -/

theorem publish_of_path (result : Export) (h : destination host request.output = .ok (some path)) :
    (publish host request result).files = (delivery host request result path).1 ∧
      (publish host request result).output = "" := by
  simp only [publish, h]
  cases delivery host request result path with
  | mk files delivered =>
    cases delivered with
    | ok u => exact ⟨rfl, rfl⟩
    | error fault =>
      dsimp only
      split <;> exact ⟨rfl, rfl⟩

/-- A run that delivers its script leaves the files of the delivery, and ends as its strictness
demands. -/
theorem run_of_deliver (hresult : Exports host request result)
    (hpath : destination host request.output = .ok (some path))
    (h : (delivery host request result path).2 = .ok ()) :
    (run host request).ending = (conclude request.strict result).2 ∧
      (run host request).files = (delivery host request result path).1 := by
  rw [run_of_exports hresult]
  exact ⟨ending_publish_of_delivered hpath h, (publish_of_path result hpath).1⟩

end LuauLayout.ExportCommand
