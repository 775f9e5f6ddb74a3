import LuauLayout.Proofs.DeliveredScript

/-! Runs that are made once more.  Making a directory that is there and writing a file again change
nothing, and what a run leaves behind leads it to the same destination.  So a run that has delivered its
script to a file other than its source comes to the same end when it is repeated, down to the last entry
of the file system. -/

namespace LuauLayout

namespace Node

theorem setChild_setChild (n first second : Node) (name : String) :
    (n.setChild name first).setChild name second = n.setChild name second := by
  simp [setChild, children]

/-- A node that is there already may be put there again. -/
theorem insert_insert (n : Node) (l : Location) (new : Node) :
    (n.insert l new).insert l new = n.insert l new := by
  induction l generalizing n with
  | nil => rfl
  | cons name rest ih =>
    rw [insert, insert, child?_setChild_self, Option.getD_some, ih, setChild_setChild]

end Node

namespace FileSystem

variable {fs fs' : FileSystem} {path : FilePath} {l : Location} {limit : Nat}

/-! ### Files -/

theorem insert_insert (fs : FileSystem) (l : Location) (n : Node) :
    (fs.insert l n).insert l n = fs.insert l n := by
  cases l with
  | nil => rfl
  | cons name rest =>
    rw [insert, root_insert n (List.cons_ne_nil name rest), Node.insert_insert]
    rfl

theorem keepsDirectories_save {text : Except Text.EncodingFault ByteArray}
    (h : fs.save path text = (fs', .ok ())) : KeepsDirectories fs fs' := by
  obtain ⟨l, content, hopen, -, -, rfl⟩ := save_eq_ok_iff.1 h
  obtain ⟨-, -, hne, -⟩ := openWrite_eq_ok_iff.1 hopen
  exact keepsDirectories_insert _ hne

/-- Saving a file once more changes nothing. -/
theorem save_save {text : Except Text.EncodingFault ByteArray}
    (h : fs.save path text = (fs', .ok ())) : fs'.save path text = (fs', .ok ()) := by
  obtain ⟨l, content, hopen, htext, hwrite, rfl⟩ := save_eq_ok_iff.1 h
  obtain ⟨hnull, hl, hne, hguard⟩ := openWrite_eq_ok_iff.1 hopen
  have hopen' : (fs.insert l (.file content)).openWrite path = .ok l := by
    refine openWrite_eq_ok_iff.2 ⟨hnull, (keepsDirectories_insert _ hne).resolve hl, ?_, hguard⟩
    rw [find?_insert_self _ hne]
    exact fun h => Entry.noConfusion (Option.some.inj h)
  exact save_eq_ok_iff.2 ⟨l, content, hopen', htext, hwrite, (insert_insert fs l _).symm⟩

/-! ### Directories -/

theorem isDirectory_eq_true_iff :
    fs.isDirectory path = .ok true ↔ path.hasNull = false ∧
      ∃ l, fs.resolve path = .ok l ∧ fs.find? l = some .directory := by
  have hstat : (∃ nodes, fs.stat path = .ok (.directory nodes)) ↔
      ∃ l, fs.resolve path = .ok l ∧ fs.find? l = some .directory := by
    simp only [stat_eq_ok_iff, find?_eq_directory_iff]
    exact ⟨fun ⟨nodes, l, hl, hn⟩ => ⟨l, hl, nodes, hn⟩, fun ⟨l, hl, nodes, hn⟩ => ⟨nodes, l, hl, hn⟩⟩
  rw [isDirectory, ← hstat]
  split
  · rename_i hnull
    simp [hnull]
  · rename_i hnull
    rw [Bool.not_eq_true] at hnull
    cases fs.stat path with
    | error reason => cases hreason : reason.leadsNowhere <;> simp [hreason]
    | ok n => cases n <;> simp [hnull]

/-- A file is no directory. -/
theorem isDirectory_of_read {content : ByteArray} (h : fs.read path = .ok content) :
    fs.isDirectory path = .ok false := by
  obtain ⟨hnull, l, hl, hfile⟩ := read_eq_ok_iff.1 h
  have hstat := stat_eq_ok_iff.2 ⟨l, hl, find?_eq_file_iff.1 hfile⟩
  rw [isDirectory, hnull, hstat]
  rfl

theorem KeepsDirectories.isDirectory (hkeeps : KeepsDirectories fs fs')
    (h : fs.isDirectory path = .ok true) : fs'.isDirectory path = .ok true := by
  obtain ⟨hnull, l, hl, hdirectory⟩ := isDirectory_eq_true_iff.1 h
  exact isDirectory_eq_true_iff.2 ⟨hnull, l, hkeeps.resolve hl, hkeeps.directory l hdirectory⟩

theorem isDirectory_of_makeDirectory (h : fs.makeDirectory path = .ok fs') :
    fs'.isDirectory path = .ok true := by
  obtain ⟨hnull, l, hl, hnone, -, rfl⟩ := makeDirectory_eq_ok_iff.1 h
  have hne : fs.find? l ≠ some .directory := by simp [hnone]
  exact isDirectory_eq_true_iff.2 ⟨hnull, l, (keepsDirectories_insert _ hne).resolve hl,
    find?_insert_self _ hne⟩

theorem isDirectory_of_acceptExisting {fault : Fault} (h : fs.acceptExisting path fault = .ok ()) :
    fs.isDirectory path = .ok true := by
  rw [acceptExisting] at h
  split at h
  · obtain ⟨isThere, hthere, h⟩ := bind_eq_ok_iff.1 h
    cases isThere with
    | true => exact hthere
    | false => cases h
  · cases h

theorem isDirectory_of_ensureLast (h : fs.ensureLast path = (fs', .ok ())) :
    fs'.isDirectory path = .ok true := by
  rw [ensureLast] at h
  split at h
  · rename_i hmake
    obtain ⟨rfl, -⟩ := Prod.mk.inj h
    exact isDirectory_of_makeDirectory hmake
  · obtain ⟨rfl, haccept⟩ := Prod.mk.inj h
    exact isDirectory_of_acceptExisting haccept

/-- A directory that was to be there is there. -/
theorem isDirectory_of_ensureDirectory (h : fs.ensureDirectory limit path = (fs', .ok ())) :
    fs'.isDirectory path = .ok true := by
  cases limit with
  | zero => cases h
  | succ limit =>
    rw [ensureDirectory] at h
    split at h
    · rename_i hmake
      obtain ⟨rfl, -⟩ := Prod.mk.inj h
      exact isDirectory_of_makeDirectory hmake
    · split at h
      · split at h
        · cases h
        · split at h
          · exact isDirectory_of_ensureLast h
          · rename_i hfailed
            exact (hfailed fs' h).elim
      · obtain ⟨rfl, haccept⟩ := Prod.mk.inj h
        exact isDirectory_of_acceptExisting haccept

/-- Making a directory that is there changes nothing. -/
theorem ensureDirectory_of_isDirectory (hlimit : 0 < limit) (h : fs.isDirectory path = .ok true) :
    fs.ensureDirectory limit path = (fs, .ok ()) := by
  obtain ⟨limit, rfl⟩ := Nat.exists_eq_add_one.2 hlimit
  obtain ⟨hnull, l, hl, hdirectory⟩ := isDirectory_eq_true_iff.1 h
  obtain ⟨nodes, hnode⟩ := find?_eq_directory_iff.1 hdirectory
  have hmake : fs.makeDirectory path = .error (.refused .alreadyThere path) := by
    rw [makeDirectory, reach, hnull, locate_eq, hl]
    simp [Except.map, Except.mapError, bind, Except.bind, Trail.node?_ofLocation, hnode]
  have haccept : fs.acceptExisting path (.refused .alreadyThere path) = .ok () := by
    rw [acceptExisting, h]
    rfl
  have hother : (Fault.refused .alreadyThere path).isMissing = false := rfl
  rw [ensureDirectory, hmake]
  simp only [hother, Bool.false_eq_true, if_false, haccept]

end FileSystem

namespace ExportCommand

variable {fs fs' : FileSystem} {path : FilePath} {limit : Nat} {host : Host}
  {script : Except Text.EncodingFault ByteArray} {request : Arguments.Request} {result : Export}

/-! ### Delivering a script again -/

theorem isDirectory_of_deliver (h : deliver limit fs path script = (fs', .ok ())) :
    fs'.isDirectory path.parent = .ok true := by
  obtain ⟨fs₁, hmade, hsave⟩ := exists_save_of_deliver h
  exact (FileSystem.keepsDirectories_save hsave).isDirectory
    (FileSystem.isDirectory_of_ensureDirectory hmade)

/-- A script that was delivered may be delivered again. -/
theorem deliver_deliver (h : deliver limit fs path script = (fs', .ok ())) :
    deliver limit fs' path script = (fs', .ok ()) := by
  obtain ⟨fs₁, hmade, hsave⟩ := exists_save_of_deliver h
  have hpos : 0 < limit := by
    cases limit with
    | zero => cases hmade
    | succ limit => exact Nat.succ_pos limit
  rw [deliver, FileSystem.ensureDirectory_of_isDirectory hpos (isDirectory_of_deliver h)]
  exact FileSystem.save_save hsave

/-- Another file than the one that is written can be read as before. -/
theorem fetch_of_deliver {source : FilePath} {bytes : ByteArray} (hfs : fs.HasWorkingDirectory)
    (h : deliver limit fs path script = (fs', .ok ())) (hread : fs.fetch source = .ok bytes)
    (hother : fs'.resolve source ≠ fs'.resolve path) : fs'.fetch source = .ok bytes := by
  obtain ⟨hnull, l, hl, hfile, hguard⟩ := FileSystem.fetch_eq_ok_iff.1 hread
  obtain ⟨l', content, -, hkeeps, hsaves⟩ := exists_saves_of_deliver hfs h
  have hne : l ≠ l' := by
    rintro rfl
    exact hother ((hkeeps.resolve hl).trans hsaves.leads.symm)
  have hbeside : ¬fs'.OnWay path.parent l := by
    intro hon
    rcases (hsaves.way l hon).2 with hnone | hdirectory
    · rw [hnone] at hfile
      cases hfile
    · rw [hdirectory] at hfile
      cases hfile
  exact FileSystem.fetch_eq_ok_iff.2 ⟨hnull, l, hkeeps.resolve hl,
    (hsaves.others l hne hbeside).trans hfile, hkeeps.guard ▸ hguard⟩

/-- The destination stays the same once the script is there. -/
theorem destination_of_deliver {output : Option Arguments.Target}
    (hfiles : host.files.HasWorkingDirectory)
    (hpath : destination host output = .ok (some path))
    (h : deliver limit host.files path script = (fs', .ok ())) :
    destination { host with files := fs' } output = .ok (some path) := by
  cases output with
  | some target =>
    cases target with
    | nothing => cases hpath
    | path s =>
      obtain ⟨isThere, hthere, rfl⟩ := destination_path_iff.1 hpath
      refine destination_path_iff.2 ⟨isThere, ?_, rfl⟩
      cases isThere with
      | true =>
        obtain ⟨-, -, -, hkeeps, -⟩ := exists_saves_of_deliver hfiles h
        exact hkeeps.isDirectory hthere
      | false =>
        obtain ⟨content, -, hread⟩ := read_of_deliver h
        exact FileSystem.isDirectory_of_read hread
  | none =>
    rw [destination.eq_def] at hpath ⊢
    dsimp only at hpath ⊢
    cases hdirectory : Setting.outputPath? host.environment with
    | none =>
      rw [hdirectory] at hpath
      cases hpath
    | some directory =>
      rw [hdirectory] at hpath
      obtain ⟨isThere, -, heq⟩ := bind_eq_ok_iff.1 hpath
      obtain rfl := Option.some.inj (Except.ok.inj heq)
      have hparent := isDirectory_of_deliver h
      rw [FilePath.parent_child] at hparent
      exact bind_eq_ok_iff.2 ⟨true, mapError_eq_ok_iff.2 hparent, rfl⟩

/-! ### Runs -/

/-- The path leads to the file that the layout is read from. -/
def IsSource (fs : FileSystem) (request : Arguments.Request) (path : FilePath) : Prop :=
  request.layout ≠ "-" ∧
    ∃ l, fs.resolve (.ofString request.layout) = .ok l ∧ fs.resolve path = .ok l

theorem sourceText_of_deliver {text : List Text.CodePoint} (hfiles : host.files.HasWorkingDirectory)
    (h : deliver limit host.files path script = (fs', .ok ())) (hother : ¬IsSource fs' request path)
    (htext : sourceText host request.layout = .ok text) :
    sourceText { host with files := fs' } request.layout = .ok text := by
  by_cases hsource : request.layout = "-"
  · rw [sourceText, if_pos hsource] at htext ⊢
    exact htext
  · rw [sourceText_of_file hsource] at htext ⊢
    obtain ⟨bytes, hbytes, hdecoded⟩ := bind_eq_ok_iff.1 htext
    refine bind_eq_ok_iff.2 ⟨bytes, ?_, hdecoded⟩
    refine fetch_of_deliver hfiles h hbytes fun heq => hother ⟨hsource, ?_⟩
    obtain ⟨-, l, hl, -⟩ := FileSystem.fetch_eq_ok_iff.1 hbytes
    obtain ⟨-, -, -, hkeeps, -⟩ := exists_saves_of_deliver hfiles h
    exact ⟨l, hkeeps.resolve hl, heq.symm.trans (hkeeps.resolve hl)⟩

theorem exists_text_of_readSource {source : String} {value : Value}
    (h : readSource host source = .ok value) : ∃ text, sourceText host source = .ok text := by
  rw [readSource] at h
  split at h
  · split at h <;> cases h
  · rename_i text htext
    exact ⟨text, htext⟩

/-- Two runs of one export that deliver alike come to the same end. -/
theorem publish_congr {host' : Host} (hpath : destination host request.output = .ok (some path))
    (hpath' : destination host' request.output = .ok (some path))
    (h : delivery host' request result path = delivery host request result path) :
    publish host' request result = publish host request result := by
  simp only [publish, hpath, hpath', h]

/-- A run that delivers its script to a file other than its source has the same destination when it is
repeated on the files that it leaves behind.  The second run has the same output, log and status, and
it leaves these files as they are. -/
theorem runWords_runWords {host : Host} {words : List String} {request : Arguments.Request}
    {path : FilePath} {n : Int} (hfiles : host.files.HasWorkingDirectory)
    (hrequest : Arguments.parse host.rules words = .ok request)
    (hstatus : (runWords host words).ending = .status n) (hfails : ¬Fails host request)
    (hpath : destination host request.output = .ok (some path))
    (hother : ¬IsSource (runWords host words).files request path) :
    let again : Host := { host with files := (runWords host words).files }
    destination again request.output = .ok (some path) ∧
      runWords again words = runWords host words := by
  simp only [runWords_of_parse hrequest] at hstatus hother ⊢
  obtain ⟨result, hresult, -⟩ := exists_exports_of_status hstatus hfails
  rw [run_of_exports hresult] at hstatus hother ⊢
  have hok := delivery_eq_ok_of_status hresult hpath hstatus hfails
  obtain ⟨fs', hdelivered⟩ : ∃ fs', delivery host request result path = (fs', .ok ()) :=
    ⟨_, Prod.ext rfl hok⟩
  have hafter : (publish host request result).files = fs' := by
    rw [(publish_of_path result hpath).1, hdelivered]
  rw [hafter] at hother ⊢
  have ⟨_, hvalue, _⟩ := hresult
  obtain ⟨text, htext⟩ := exists_text_of_readSource hvalue
  let again : Host := { host with files := fs' }
  have hsame : SameExport host request again request :=
    { layout := rfl
      text := (sourceText_of_deliver hfiles hdelivered hother htext).trans htext.symm
      nesting := rfl
      uniqueNames := rfl
      safeText := rfl
      settings := fun _ _ => rfl }
  have hpath' : destination again request.output = .ok (some path) :=
    destination_of_deliver hfiles hpath hdelivered
  have hdelivered' : delivery again request result path = (fs', .ok ()) := by
    rw [delivery, hsame.scriptBytes_eq]
    exact deliver_deliver hdelivered
  have hrun : runWords again words = run again request := runWords_of_parse hrequest
  rw [hrun, run_of_exports (hsame.exports hresult)]
  exact ⟨hpath', publish_congr hpath hpath' (hdelivered'.trans hdelivered.symm)⟩

/-- A run that makes the directory of its destination may be repeated. -/
theorem runWords_runWords_made :
    let host : Host :=
      { files :=
          { top := [("w", .directory [("l.json", .file "\x7b\x7d".toUTF8)])]
            workingDirectory := ["w"] } }
    let words := ["l.json", "-o", "ui/x.lua"]
    let again : Host := { host with files := (runWords host words).files }
    host.files.find? ["w", "ui"] = none ∧ again.files.find? ["w", "ui"] = some .directory ∧
      runWords again words = runWords host words := by
  intro host words again
  let request : Arguments.Request := { layout := "l.json", output := some (.path "ui/x.lua") }
  let result := Layout.toScript {} {}
  let path : FilePath := { names := ["ui", "x.lua"] }
  have hfiles : host.files.HasWorkingDirectory := rfl
  have hrequest : Arguments.parse host.rules words = .ok request :=
    Arguments.parse_argument_output (Arguments.classify_of_head?_ne (by decide)) (by decide)
      (by decide)
  have hread : readLayout? host request.layout = some {} := by decide +kernel
  have hnumbered : readLayout? host request.layout .numbered = some {} := by decide +kernel
  have hresult : Exports host request result := exists_export_of_readLayout? hread rfl rfl
  have hnames : FilePath.ofString "ui/x.lua" = path := by decide +kernel
  have hthere : host.files.isDirectory path = .ok false := by decide +kernel
  have hpath : destination host request.output = .ok (some path) :=
    destination_of_isDirectory hnames hthere
  have hdelivery := delivery_of_readLayout? hresult hread hnumbered path
  have hdelivered : (delivery host request result path).2 = .ok () := by
    rw [hdelivery]
    decide +kernel
  have hrun : runWords host words = publish host request result := by
    rw [runWords_of_parse hrequest, run_of_exports hresult]
  have hstatus : (runWords host words).ending = .status 0 := by
    rw [hrun, ending_publish_of_delivered hpath hdelivered]
    rfl
  have hafter : (runWords host words).files =
      (deliver host.limits.missing host.files path (.ok result.script.toUTF8)).1 := by
    rw [hrun, (publish_of_path result hpath).1, hdelivery]
  have hother : ¬IsSource (runWords host words).files request path := by
    rw [hafter]
    have hsource : (deliver host.limits.missing host.files path
        (.ok result.script.toUTF8)).1.resolve (.ofString "l.json") = .ok ["w", "l.json"] := by
      decide +kernel
    have hscript : (deliver host.limits.missing host.files path
        (.ok result.script.toUTF8)).1.resolve path = .ok ["w", "ui", "x.lua"] := by decide +kernel
    rintro ⟨-, l, hl, hl'⟩
    have heq := (hsource.symm.trans hl).trans (hl'.symm.trans hscript)
    exact absurd (Except.ok.inj heq) (by decide)
  have hfound : (runWords host words).files.find? ["w", "ui"] = some .directory := by
    rw [hafter]
    decide +kernel
  have hagain : ∀ fs : FileSystem, ({ host with files := fs } : Host).files = fs := fun _ => rfl
  have hmade : again.files.find? ["w", "ui"] = some .directory :=
    (congrArg (·.find? ["w", "ui"]) (hagain _)).trans hfound
  have hfails := not_fails_of_delivery hresult hpath hdelivered
  exact ⟨rfl, hmade, (runWords_runWords hfiles hrequest hstatus hfails hpath hother).2⟩

end ExportCommand

end LuauLayout
