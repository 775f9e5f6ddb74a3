import LuauLayout.Proofs.RepeatedRun

/-! Output arguments with a slash behind them.  Reading a path drops the slash, so that such an argument
means what it means without: the default file of a directory that is there, or else a file at the path
itself.  A run therefore leaves its script inside the directory exactly if the directory was there
before, and a missing one is not made. -/

namespace LuauLayout

/-! ### Reading a path -/

namespace FilePath

theorem splitSlash_ne_nil (s : List Char) : splitSlash s ≠ [] := by
  cases s with
  | nil => exact List.cons_ne_nil _ _
  | cons c rest =>
    rw [splitSlash]
    split
    · exact List.cons_ne_nil _ _
    · split <;> exact List.cons_ne_nil _ _

/-- A slash at the end has an empty part behind it. -/
theorem splitSlash_concat (s : List Char) : splitSlash (s ++ ['/']) = splitSlash s ++ [[]] := by
  induction s with
  | nil => rfl
  | cons c rest ih =>
    rw [List.cons_append, splitSlash, splitSlash, ih]
    split
    · rfl
    · cases hrest : splitSlash rest with
      | nil => exact absurd hrest (splitSlash_ne_nil rest)
      | cons part parts => rfl

theorem rootSlashes_concat {s : List Char} (h : ∃ c ∈ s, c ≠ '/') :
    rootSlashes (s ++ ['/']) = rootSlashes s := by
  obtain ⟨c, hc, hne⟩ := h
  have hshort : ¬(s.takeWhile (· == '/')).length = s.length := by
    intro hlength
    have hall : s.takeWhile (· == '/') = s := (List.takeWhile_prefix _).eq_of_length hlength
    rw [← hall] at hc
    have hslash := List.mem_takeWhile_imp hc
    exact hne (beq_iff_eq.1 hslash)
  rw [rootSlashes, List.takeWhile_append, if_neg hshort]
  rfl

/-- The slash at the end of a text is lost in its path, unless the text holds slashes only. -/
theorem ofString_slash {s : String} (h : ∃ c ∈ s.toList, c ≠ '/') :
    ofString (s ++ "/") = ofString s := by
  have hchars : (s ++ "/").toList = s.toList ++ ['/'] := String.toList_append
  have hempty : ¬isName [] = true := Bool.false_ne_true
  rw [ofString, ofString, hchars, rootSlashes_concat h, splitSlash_concat, List.filter_append,
    List.filter_cons_of_neg hempty, List.filter_nil, List.append_nil]

end FilePath

namespace FileSystem

variable {fs : FileSystem} {path : FilePath} {l l' : Location} {name : String}

/-- The path leads to a directory. -/
def HoldsDirectory (fs : FileSystem) (path : FilePath) : Prop :=
  ∃ l, fs.resolve path = .ok l ∧ fs.find? l = some .directory

/-- A path can only be followed further by a name where it leads to a directory. -/
theorem resolve_child (hname : name ≠ "..") (hl : fs.resolve path = .ok l)
    (hl' : fs.resolve (path.child name) = .ok l') :
    fs.find? l = some .directory ∧ l' = l ++ [name] := by
  obtain ⟨-, hfold⟩ := resolve_eq_ok_iff.1 hl
  obtain ⟨-, hfold'⟩ := resolve_eq_ok_iff.1 hl'
  rw [FilePath.child, List.foldlM_append, bind_eq_ok_iff] at hfold'
  obtain ⟨next, hnext, hlast⟩ := hfold'
  obtain rfl : next = l := Except.ok.inj (hnext.symm.trans hfold)
  rw [List.foldlM_cons, bind_eq_ok_iff] at hlast
  obtain ⟨last, hfollow, hlast⟩ := hlast
  obtain rfl : last = l' := Except.ok.inj hlast
  obtain ⟨hdirectory, -, ⟨hdots, -⟩ | ⟨-, -, rfl⟩⟩ := follow_eq_ok_iff.1 hfollow
  · exact absurd hdots hname
  · exact ⟨hdirectory, rfl⟩

/-- Nothing can be read below a file. -/
theorem read_child_of_file {content content' : ByteArray} (hname : name ≠ "..")
    (hl : fs.resolve path = .ok l) (hfile : fs.find? l = some (.file content)) :
    fs.read (path.child name) ≠ .ok content' := by
  intro hread
  obtain ⟨-, l', hl', -⟩ := read_eq_ok_iff.1 hread
  obtain ⟨hdirectory, -⟩ := resolve_child hname hl hl'
  rw [hfile] at hdirectory
  cases hdirectory

end FileSystem

namespace ExportCommand

variable {host : Host} {request : Arguments.Request} {s : String}

theorem defaultFileName_ne_dots : defaultFileName ≠ ".." := by decide

/-! ### Where the script goes -/

/-- The slash at the end of the output argument has no part in a run. -/
theorem run_of_slash (hs : ∃ c ∈ s.toList, c ≠ '/')
    (houtput : request.output = some (.path (s ++ "/"))) :
    run host { request with output := some (.path s) } = run host request := by
  have hdestination : destination host (some (.path s)) = destination host request.output := by
    rw [houtput]
    simp only [destination, FilePath.ofString_slash hs]
  have hoptions : options host { request with output := some (.path s) } = options host request :=
    rfl
  have htext : scriptText host { request with output := some (.path s) } = scriptText host request :=
    rfl
  have hdelivery : delivery host { request with output := some (.path s) } = delivery host request :=
    rfl
  simp only [run, hoptions, publish, hdestination, htext, hdelivery]

/-- A run with an output argument that ends with a status and does not fail saves its script in the
file that the argument asks for. -/
theorem exists_saves_of_status {n : Int} (hfiles : host.files.HasWorkingDirectory)
    (houtput : request.output = some (.path s)) (hstatus : (run host request).ending = .status n)
    (hfails : ¬Fails host request) :
    ∃ result isThere l, Exports host request result ∧
      host.files.isDirectory (.ofString s) = .ok isThere ∧
      FileSystem.KeepsDirectories host.files (run host request).files ∧
      (run host request).files.read (outputFile (.ofString s) isThere) =
        .ok result.script.toUTF8 ∧
      Saves (outputFile (.ofString s) isThere) result.script.toUTF8 host.files
        (run host request).files l := by
  obtain ⟨result, hresult, -⟩ := exists_exports_of_status hstatus hfails
  rw [run_of_exports hresult] at hstatus ⊢
  cases hdestination : destination host request.output with
  | error e =>
    rw [ending_publish_of_error hdestination] at hstatus
    cases hstatus
  | ok target =>
    have htarget : destination host (some (.path s)) = .ok target := houtput ▸ hdestination
    obtain ⟨path, rfl⟩ : ∃ path, target = some path := by
      obtain ⟨isThere, -, h⟩ := bind_eq_ok_iff.1 htarget
      exact ⟨_, (Except.ok.inj h).symm⟩
    obtain ⟨isThere, hthere, rfl⟩ := destination_path_iff.1 htarget
    have hok := delivery_eq_ok_of_status hresult hdestination hstatus hfails
    obtain ⟨l, content, hcontent, hkeeps, hsaves⟩ :=
      exists_saves_of_deliver hfiles (deliver_of_ok hok)
    obtain ⟨bytes, hbytes, hread⟩ := read_of_deliver (deliver_of_ok hok)
    obtain ⟨-, rfl⟩ := scriptBytes_eq_ok_iff.1 hcontent
    obtain ⟨-, rfl⟩ := scriptBytes_eq_ok_iff.1 hbytes
    rw [(publish_of_path result hdestination).1]
    exact ⟨result, isThere, l, hresult, hthere, hkeeps, hread, hsaves⟩

/-- Whether the path of an output argument is taken as a directory is told by where it leads. -/
theorem isThere_iff {isThere : Bool} {content : ByteArray} {path : FilePath} {after : FileSystem}
    (hthere : host.files.isDirectory path = .ok isThere)
    (hread : after.read (outputFile path isThere) = .ok content) :
    isThere = true ↔ host.files.HoldsDirectory path := by
  obtain ⟨hnull, -⟩ := FileSystem.read_eq_ok_iff.1 hread
  cases isThere with
  | true => exact iff_of_true rfl (FileSystem.isDirectory_eq_true_iff.1 hthere).2
  | false =>
    refine iff_of_false Bool.false_ne_true fun hholds => ?_
    have hdirectory : host.files.isDirectory path = .ok true :=
      FileSystem.isDirectory_eq_true_iff.2 ⟨hnull, hholds⟩
    rw [hthere] at hdirectory
    cases hdirectory

/-- A run that delivers its script under an output argument with a slash at its end leaves the script
in the default file of the directory there exactly if the directory was there before.  If it was, that
file alone is written, in the directory.  If it was not, no directory takes its place: the script is saved
in a file at the path itself, and nothing can be read below it.  Unless the argument is made of slashes
only, the run without the slash is the same. -/
theorem runWords_of_slash {host : Host} {words : List String} {request : Arguments.Request}
    {s : String} (hfiles : host.files.HasWorkingDirectory)
    (hrequest : Arguments.parse host.rules words = .ok request)
    (houtput : request.output = some (.path (s ++ "/")))
    (hsuccess : (runWords host words).ending = .status 0 ∨
      (runWords host words).ending = .status 1 ∧ ¬Fails host request) :
    let path := FilePath.ofString (s ++ "/")
    let after := (runWords host words).files
    ∃ result, Exports host request result ∧
      (after.read (path.child defaultFileName) = .ok result.script.toUTF8 ↔
        host.files.HoldsDirectory path) ∧
      (∀ d, host.files.resolve path = .ok d → host.files.find? d = some .directory →
        Saves (path.child defaultFileName) result.script.toUTF8 host.files after
          (d ++ [defaultFileName])) ∧
      (¬host.files.HoldsDirectory path →
        (∃ l, Saves path result.script.toUTF8 host.files after l) ∧
          ∀ content, after.read (path.child defaultFileName) ≠ .ok content) ∧
      ((∃ c ∈ s.toList, c ≠ '/') → ∀ words',
        Arguments.parse host.rules words' = .ok { request with output := some (.path s) } →
          runWords host words' = runWords host words) := by
  intro path after
  have hrun : runWords host words = run host request := runWords_of_parse hrequest
  obtain ⟨n, hstatus, hfails⟩ : ∃ n, (run host request).ending = .status n ∧
      ¬Fails host request := by
    rw [hrun] at hsuccess
    rcases hsuccess with hzero | ⟨hone, hfails⟩
    · refine ⟨0, hzero, fun hfails => ?_⟩
      rw [ending_of_fails hfails] at hzero
      cases hzero
    · exact ⟨1, hone, hfails⟩
  obtain ⟨result, isThere, l, hresult, hthere, hkeeps, hread, hsaves⟩ :=
    exists_saves_of_status hfiles houtput hstatus hfails
  have hholds := isThere_iff hthere hread
  have hslash : (∃ c ∈ s.toList, c ≠ '/') → ∀ words',
      Arguments.parse host.rules words' = .ok { request with output := some (.path s) } →
        runWords host words' = runWords host words := by
    intro hs words' hrequest'
    rw [runWords_of_parse hrequest', hrun]
    exact run_of_slash hs houtput
  rw [← hrun] at hkeeps hread hsaves
  cases isThere with
  | true =>
    have hdirectory : host.files.HoldsDirectory path := hholds.1 rfl
    refine ⟨result, hresult, iff_of_true hread hdirectory, fun d hd _ => ?_,
      fun hnone => absurd hdirectory hnone, hslash⟩
    obtain ⟨-, rfl⟩ :=
      FileSystem.resolve_child defaultFileName_ne_dots (hkeeps.resolve hd) hsaves.leads
    exact hsaves
  | false =>
    have hnone : ¬host.files.HoldsDirectory path := hholds.not.1 Bool.false_ne_true
    have hbelow : ∀ content, after.read (path.child defaultFileName) ≠ .ok content := fun _ =>
      FileSystem.read_child_of_file defaultFileName_ne_dots hsaves.leads hsaves.written
    exact ⟨result, hresult, iff_of_false (hbelow _) hnone,
      fun d hd hdirectory => absurd ⟨d, hd, hdirectory⟩ hnone, fun _ => ⟨⟨l, hsaves⟩, hbelow⟩,
      hslash⟩

/-- The default file is written into a directory that is there. -/
theorem runWords_of_slash_there :
    let host : Host :=
      { input := "\x7b\x7d".toUTF8
        files := { top := [("w", .directory [("ui", .directory [])])], workingDirectory := ["w"] } }
    let request : Arguments.Request := { layout := "-", output := some (.path "ui/") }
    let words := ["-", "-o", "ui/"]
    Arguments.parse host.rules words = .ok request ∧ (runWords host words).ending = .status 0 ∧
      ∃ result, Exports host request result ∧
        Saves { names := ["ui", "Generated_UI.lua"] } result.script.toUTF8 host.files
          (runWords host words).files ["w", "ui", "Generated_UI.lua"] := by
  intro host request words
  let path : FilePath := { names := ["ui"] }
  have hfiles : host.files.HasWorkingDirectory := rfl
  have hrequest : Arguments.parse host.rules words = .ok request := Arguments.parse_output (by decide)
  have houtput : request.output = some (.path ("ui" ++ "/")) := by decide +kernel
  have hread : readLayout? host request.layout = some {} := by decide +kernel
  have hnumbered : readLayout? host request.layout .numbered = some {} := by decide +kernel
  have hresult : Exports host request (Layout.toScript {} {}) :=
    exists_export_of_readLayout? hread rfl rfl
  have hnames : FilePath.ofString ("ui" ++ "/") = path := by decide +kernel
  have hthere : host.files.isDirectory path = .ok true := by decide +kernel
  have hpath : destination host request.output = .ok (some (path.child defaultFileName)) := by
    rw [houtput]
    exact destination_of_isDirectory hnames hthere
  have hdelivered : (delivery host request (Layout.toScript {} {})
      (path.child defaultFileName)).2 = .ok () := by
    rw [delivery_of_readLayout? hresult hread hnumbered]
    decide +kernel
  have hzero : (runWords host words).ending = .status 0 := by
    rw [runWords_of_parse hrequest]
    exact (run_of_deliver hresult hpath hdelivered).1
  obtain ⟨result, hresult', -, hinside, -⟩ :=
    runWords_of_slash hfiles hrequest houtput (Or.inl hzero)
  rw [hnames] at hinside
  exact ⟨hrequest, hzero, result, hresult', hinside ["w", "ui"] (by decide +kernel) rfl⟩

/-- A directory that is missing is not made: a file takes its name, and nothing lies below it. -/
theorem file_of_missing_directory :
    let host : Host :=
      { files :=
          { top := [("w", .directory [("l.json", .file "\x7b\x7d".toUTF8)])]
            workingDirectory := ["w"] } }
    let request : Arguments.Request := { layout := "l.json", output := some (.path "ui/") }
    let words := ["l.json", "-o", "ui/"]
    let after := (runWords host words).files
    host.files.HasWorkingDirectory ∧ Arguments.parse host.rules words = .ok request ∧
      host.files.find? ["w", "ui"] = none ∧ (runWords host words).ending = .status 0 ∧
      after.find? ["w", "ui"] = some (.file (Layout.toScript {} {}).script.toUTF8) ∧
      after.find? ["w", "ui", "Generated_UI.lua"] = none := by
  intro host request words after
  let path : FilePath := { names := ["ui"] }
  let script := (Layout.toScript {} {}).script
  have hrequest : Arguments.parse host.rules words = .ok request :=
    Arguments.parse_argument_output (Arguments.classify_of_head?_ne (by decide)) (by decide)
      (by decide)
  have hread : readLayout? host request.layout = some {} := by decide +kernel
  have hnumbered : readLayout? host request.layout .numbered = some {} := by decide +kernel
  have hresult : Exports host request (Layout.toScript {} {}) :=
    exists_export_of_readLayout? hread rfl rfl
  have hnames : FilePath.ofString "ui/" = path := by decide +kernel
  have hthere : host.files.isDirectory path = .ok false := by decide +kernel
  have hpath : destination host request.output = .ok (some path) :=
    destination_of_isDirectory hnames hthere
  have hdelivery := delivery_of_readLayout? hresult hread hnumbered path
  have hdelivered : (delivery host request (Layout.toScript {} {}) path).2 = .ok () := by
    rw [hdelivery]
    decide +kernel
  have hrun : runWords host words = run host request := runWords_of_parse hrequest
  obtain ⟨hzero, hfiles⟩ := run_of_deliver hresult hpath hdelivered
  have hafter : after = (deliver host.limits.missing host.files path (.ok script.toUTF8)).1 :=
    (congrArg Outcome.files hrun).trans (hfiles.trans (congrArg Prod.fst hdelivery))
  refine ⟨rfl, hrequest, rfl, (congrArg Outcome.ending hrun).trans hzero, ?_, ?_⟩
  · -- The content is not evaluated: it is what was written where the path leads.
    obtain ⟨content, hcontent, hafterRead⟩ :=
      read_of_deliver (deliver_of_ok ((congrArg Prod.snd hdelivery).symm.trans hdelivered))
    obtain rfl := Except.ok.inj hcontent
    obtain ⟨-, l, hl, hfile⟩ := FileSystem.read_eq_ok_iff.1 hafterRead
    have hplace : (deliver host.limits.missing host.files path
        (.ok script.toUTF8)).1.resolve path = .ok ["w", "ui"] := by decide +kernel
    obtain rfl := Except.ok.inj (hplace.symm.trans hl)
    rw [hafter]
    exact hfile
  · rw [hafter]
    decide +kernel

end ExportCommand

end LuauLayout
