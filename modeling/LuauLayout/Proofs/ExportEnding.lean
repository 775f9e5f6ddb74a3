import LuauLayout.Command.Program
import LuauLayout.Proofs.FileChanges

/-! How a run of the export command ends.  Refusals to read the source or to write the script and texts
that are no JSON are logged, and the status is one; a run that delivers its script has the status zero,
or one if it is strict.  All other faults escape, and `Escapes` lists them: it tells from the arguments,
the environment, the files and the streams which runs end without a status. -/

namespace LuauLayout

namespace Arguments

theorem classify_of_head?_ne {s : String} (h : s.toList.head? ≠ some '-') :
    classify s = .ok (.argument s) := by
  rw [classify]
  cases hs : s.toList with
  | nil => rfl
  | cons c rest =>
    rw [hs] at h
    have hc : c ≠ '-' := fun heq => h (congrArg some heq)
    split
    · rename_i heq
      exact absurd (List.cons.inj heq).1 hc
    · rfl

/-- An argument and the flag for the output with a path that does not look like a flag are a request. -/
theorem parse_argument_output {rules : Rules} {source s : String}
    (hsource : classify source = .ok (.argument source)) (hdashes : source ≠ "--")
    (h : s.toList.head? ≠ some '-') :
    parse rules [source, "-o", s] = .ok { layout := source, output := some (.path s) } := by
  have hs : s ≠ "--" := by
    rintro rfl
    exact h rfl
  have hflag : classify "-o" = .ok (.flag .output true none) := by decide
  have hsplit : splitDashes [source, "-o", s] = ([source, "-o", s], none) := by
    simp [splitDashes, hdashes, hs]
  have htarget : Target.ofString rules s = .path s := by simp [Target.ofString, hs]
  rw [parse, hsplit]
  simp [hsource, hflag, classify_of_head?_ne h, bind, Except.bind, pure, Except.pure, Except.mapError,
    walk, flagsOf, cluster, Flag.takesValue, State.addArgument, State.setOutput, finish,
    State.toRequest, htarget]

/-- So are the standard input and such a path. -/
theorem parse_output {rules : Rules} {s : String} (h : s.toList.head? ≠ some '-') :
    parse rules ["-", "-o", s] = .ok { layout := "-", output := some (.path s) } :=
  parse_argument_output rfl (by decide) h

end Arguments

namespace ExportCommand

open Log (Severity)

variable {host : Host} {request : Arguments.Request} {source : String} {e : Escape}

/-! ### Escapes -/

/-- Why the source of a layout is not read, and nothing is logged about it. -/
inductive SourceEscapes (host : Host) (source : String) : Escape → Prop
  | nullCharacter (hsource : source ≠ "-") (hnull : (FilePath.ofString source).hasNull = true) :
    SourceEscapes host source (.file .nullCharacter)
  | undecodable {bytes : ByteArray} {f : Text.DecodingFault} (hsource : source ≠ "-")
    (hbytes : host.files.fetch (.ofString source) = .ok bytes) (hf : Utf8.decode bytes = .error f) :
    SourceEscapes host source (.file (.undecodable f))
  | input {fault : FileSystem.Fault} (hsource : source = "-")
    (hfault : host.streams.read host.input = .error fault) (hother : fault.isRefusal = false) :
    SourceEscapes host source (.file fault)
  | overlong {text : List Text.CodePoint} {e : Number.Overlong}
    (htext : sourceText host source = .ok text)
    (hread : Json.read .replacement (host.limits.nesting source) text = .error (.overlong e)) :
    SourceEscapes host source (.overlong e)
  | tooDeep {text : List Text.CodePoint} {c : Json.Container}
    (htext : sourceText host source = .ok text)
    (hread : Json.read .replacement (host.limits.nesting source) text = .error (.tooDeep c)) :
    SourceEscapes host source (.tooDeep c)

/-- The source is read, and its layout has an export. -/
def Exports (host : Host) (request : Arguments.Request) (result : Export) : Prop :=
  ∃ value, readSource host request.layout = .ok value ∧
    Export.ofValue value (options host request) = .ok result

/-- The layout that is read from a source, if there is one. -/
def readLayout? (host : Host) (source : String) (σ : Text.StandIn := .replacement) : Option Layout :=
  (readSource host source σ).toOption.bind fun value => (Layout.ofValue value).toOption

/-- The path that is asked for, or else the one of the environment. -/
def targetPath? (host : Host) (output : Option Arguments.Target) : Option FilePath :=
  match output with
  | some (.path s) => some (.ofString s)
  | some .nothing => none
  | none => Setting.outputPath? host.environment

/-- Why a run ends without a status: its source, a layout without an export, a destination that is no
path, that cannot be followed, that holds a null character or that too many directories are missing for,
or a script that has no bytes for its file or that the standard output does not take. -/
inductive Escapes (host : Host) (request : Arguments.Request) : Escape → Prop
  | source {e : Escape} (h : SourceEscapes host request.layout e) : Escapes host request e
  | noExport {value : Value} {fault : Export.Fault}
    (hvalue : readSource host request.layout = .ok value)
    (hfault : Export.ofValue value (options host request) = .error fault) :
    Escapes host request (.ofExport fault)
  | noPath {result : Export} (hresult : Exports host request result)
    (houtput : request.output = some .nothing) : Escapes host request .noPath
  | unfollowed {result : Export} {path : FilePath} {reason : FileSystem.Reason}
    (hresult : Exports host request result) (hpath : targetPath? host request.output = some path)
    (hnull : path.hasNull = false) (hlocate : host.files.locate path = .error reason)
    (hreason : reason.leadsNowhere = false) : Escapes host request (.file (.refused reason path))
  | unprinted {result : Export} {taken : Nat} {fault : FileSystem.Fault}
    (hresult : Exports host request result) (hpath : destination host request.output = .ok none)
    (hrefuse : host.streams.refuse? (scriptText host request result) = some (taken, fault)) :
    Escapes host request (.file fault)
  | nullCharacter {result : Export} {path : FilePath} (hresult : Exports host request result)
    (hpath : destination host request.output = .ok (some path))
    (hnull : 0 < host.limits.missing ∧ path.parent.hasNull = true ∨ path.hasNull = true ∧
      (host.files.ensureDirectory host.limits.missing path.parent).2 = .ok ()) :
    Escapes host request (.file .nullCharacter)
  | tooManyMissing {result : Export} {path : FilePath} (hresult : Exports host request result)
    (hpath : destination host request.output = .ok (some path))
    (hnames : host.limits.missing ≤ path.parent.names.length)
    (hmissing : (host.files.ensureDirectory host.limits.missing path.parent).2 =
      .error .tooManyMissing) : Escapes host request (.file .tooManyMissing)
  | unencodable {result : Export} {path : FilePath} {l : Location} {f : Text.EncodingFault}
    (hresult : Exports host request result)
    (hpath : destination host request.output = .ok (some path))
    (hmade : (host.files.ensureDirectory host.limits.missing path.parent).2 = .ok ())
    (hopen : (host.files.ensureDirectory host.limits.missing path.parent).1.openWrite path = .ok l)
    (hf : scriptBytes host request result = .error f) :
    Escapes host request (.file (.unencodable f))

/-! ### Reading the source -/

theorem exists_of_readLayout? {σ : Text.StandIn} {layout : Layout}
    (h : readLayout? host source σ = some layout) :
    ∃ value, readSource host source σ = .ok value ∧ Layout.ofValue value = .ok layout := by
  have hok : ∀ {ε α : Type} {x : Except ε α} {a : α}, x.toOption = some a → x = .ok a := by
    intro ε α x a hx
    cases x with
    | error e => cases hx
    | ok b => exact congrArg Except.ok (Option.some.inj hx)
  obtain ⟨value, hvalue, hlayout⟩ := Option.bind_eq_some_iff.1 h
  exact ⟨value, hok hvalue, hok hlayout⟩

/-- A layout that is read has an export if its script has no number of too many digits. -/
theorem exists_export_of_readLayout? {σ : Text.StandIn} {layout : Layout} {switches : ExportOptions}
    (h : readLayout? host request.layout σ = some layout) (hswitches : options host request = switches)
    (hnumbers : ((layout.statements switches).flatMap (·.numbers)).any (·.isOverlong) = false) :
    ∃ value, readSource host request.layout σ = .ok value ∧
      Export.ofValue value (options host request) = .ok (layout.toScript switches) := by
  obtain ⟨value, hvalue, hlayout⟩ := exists_of_readLayout? h
  refine ⟨value, hvalue, ?_⟩
  rw [hswitches, Export.ofValue, hlayout]
  simp only [Layout.toExport, hnumbers]
  rfl

theorem readUtf8_eq_error_iff {bytes : ByteArray} {fault : FileSystem.Fault} :
    readUtf8 bytes = .error fault ↔ ∃ f, Utf8.decode bytes = .error f ∧ fault = .undecodable f := by
  rw [readUtf8, Utf8.readText]
  cases Utf8.decode bytes <;> simp [Except.map, Except.mapError, eq_comm]

theorem sourceText_of_file (hsource : source ≠ "-") :
    sourceText host source = host.files.fetch (.ofString source) >>= readUtf8 := by
  rw [sourceText, if_neg hsource]

/-- A source that has no text, without being refused. -/
theorem sourceEscapes_of_sourceText {fault : FileSystem.Fault}
    (h : sourceText host source = .error fault) (hother : fault.isRefusal = false) :
    SourceEscapes host source (.file fault) := by
  by_cases hsource : source = "-"
  · rw [sourceText, if_pos hsource] at h
    exact .input hsource h hother
  · rw [sourceText_of_file hsource] at h
    cases hbytes : host.files.fetch (.ofString source) with
    | error fault' =>
      rw [hbytes] at h
      obtain rfl := Except.error.inj h
      rcases FileSystem.fetch_eq_error hbytes with ⟨rfl, hnull⟩ | hrefusal
      · exact .nullCharacter hsource hnull
      · rw [hrefusal] at hother
        cases hother
    | ok bytes =>
      rw [hbytes] at h
      obtain ⟨f, hf, rfl⟩ := readUtf8_eq_error_iff.1 h
      exact .undecodable hsource hbytes hf

theorem readSource_of_fault {fault : FileSystem.Fault} (h : sourceText host source = .error fault)
    (hother : fault.isRefusal = false) :
    readSource host source = .error (.escaped (.file fault)) := by
  simp only [readSource, h, hother, Bool.false_eq_true, if_false]

theorem readSource_eq_escaped_iff :
    readSource host source = .error (.escaped e) ↔ SourceEscapes host source e := by
  constructor
  · intro h
    rw [readSource] at h
    split at h
    · rename_i fault htext
      split at h
      · cases h
      · rename_i hother
        cases h
        exact sourceEscapes_of_sourceText htext (Bool.not_eq_true _ ▸ hother)
    · rename_i text htext
      split at h
      · cases h
      · rename_i e hread
        cases h
        exact .overlong htext hread
      · rename_i c hread
        cases h
        exact .tooDeep htext hread
      · cases h
  · intro h
    cases h with
    | nullCharacter hsource hnull =>
      refine readSource_of_fault ?_ rfl
      rw [sourceText_of_file hsource, FileSystem.fetch_of_hasNull hnull]
      rfl
    | undecodable hsource hbytes hf =>
      refine readSource_of_fault ?_ rfl
      rw [sourceText_of_file hsource, hbytes]
      exact readUtf8_eq_error_iff.2 ⟨_, hf, rfl⟩
    | input hsource hfault hother =>
      refine readSource_of_fault ?_ hother
      rw [sourceText, if_pos hsource]
      exact hfault
    | overlong htext hread => simp only [readSource, htext, hread]
    | tooDeep htext hread => simp only [readSource, htext, hread]

/-! ### Writing the script -/

/-- Asking whether a path is a directory escapes for one that cannot be followed, and for no other. -/
theorem isDirectory_bind_eq_error_iff {path : FilePath} {next : Bool → Option FilePath} :
    ((host.files.isDirectory path).mapError Escape.file).bind (fun isThere => .ok (next isThere)) =
        .error e ↔
      path.hasNull = false ∧ ∃ reason, host.files.locate path = .error reason ∧
        reason.leadsNowhere = false ∧ e = .file (.refused reason path) := by
  cases hd : host.files.isDirectory path with
  | ok isThere =>
    simp only [Except.mapError, Except.bind, reduceCtorEq, false_iff]
    rintro ⟨hnull, reason, hlocate, hreason, -⟩
    rw [FileSystem.isDirectory_eq_error_iff.2 ⟨hnull, reason, hlocate, hreason, rfl⟩] at hd
    cases hd
  | error fault =>
    obtain ⟨hnull, reason, hlocate, hreason, rfl⟩ := FileSystem.isDirectory_eq_error_iff.1 hd
    constructor
    · intro h
      obtain rfl := Except.error.inj h
      exact ⟨hnull, reason, hlocate, hreason, rfl⟩
    · rintro ⟨-, reason', hlocate', -, rfl⟩
      obtain rfl := Except.error.inj (hlocate.symm.trans hlocate')
      rfl

theorem destination_eq_error_iff {output : Option Arguments.Target} :
    destination host output = .error e ↔
      output = some .nothing ∧ e = .noPath ∨
      ∃ path, targetPath? host output = some path ∧ path.hasNull = false ∧ ∃ reason,
        host.files.locate path = .error reason ∧ reason.leadsNowhere = false ∧
          e = .file (.refused reason path) := by
  cases output with
  | some target =>
    cases target with
    | path s =>
      simp only [targetPath?, Option.some.injEq, exists_eq_left', reduceCtorEq, false_and, false_or]
      exact isDirectory_bind_eq_error_iff
    | nothing =>
      constructor
      · intro h
        obtain rfl := Except.error.inj h
        exact Or.inl ⟨rfl, rfl⟩
      · rintro (⟨-, rfl⟩ | ⟨path, h, -⟩)
        · rfl
        · cases h
  | none =>
    rw [destination.eq_def, targetPath?]
    cases Setting.outputPath? host.environment with
    | none => simp
    | some path =>
      simp only [Option.some.injEq, exists_eq_left', reduceCtorEq, false_and, false_or]
      exact isDirectory_bind_eq_error_iff

/-- A script is not delivered if its directory is not made, or if it is not saved there. -/
theorem deliver_eq_error_iff {limit : Nat} {fs : FileSystem} {path : FilePath}
    {script : Except Text.EncodingFault ByteArray} {fault : FileSystem.Fault} :
    (deliver limit fs path script).2 = .error fault ↔
      (fs.ensureDirectory limit path.parent).2 = .error fault ∨
        (fs.ensureDirectory limit path.parent).2 = .ok () ∧
          ((fs.ensureDirectory limit path.parent).1.save path script).2 = .error fault := by
  rw [deliver]
  cases fs.ensureDirectory limit path.parent with
  | mk fs' made =>
    cases made with
    | ok u => simp
    | error fault' => simp

/-- Why a script is not delivered, without being refused. -/
theorem escapes_of_delivery {result : Export} {path : FilePath} {fault : FileSystem.Fault}
    (hresult : Exports host request result) (hpath : destination host request.output = .ok (some path))
    (hother : fault.isRefusal = false) (h : (delivery host request result path).2 = .error fault) :
    Escapes host request (.file fault) := by
  have hnot : ¬fault.IsRefused := fun hrefused => by
    rw [hrefused.isRefusal] at hother
    cases hother
  rcases deliver_eq_error_iff.1 h with hmissing | ⟨hmade, hsave⟩
  · rcases FileSystem.isFaultOf_ensureDirectory hmissing with hrefused | ⟨rfl, -⟩ | ⟨rfl, hnames⟩
    · exact absurd hrefused hnot
    · exact .nullCharacter hresult hpath (Or.inl (FileSystem.ensureDirectory_eq_null_iff.1 hmissing))
    · exact .tooManyMissing hresult hpath hnames hmissing
  · rcases FileSystem.save_of_error hsave with ⟨hopen, -⟩ | ⟨hlate, l, -, hopen, -⟩
    · rcases FileSystem.openWrite_eq_error hopen with ⟨rfl, hnull⟩ | hrefused
      · exact .nullCharacter hresult hpath (Or.inr ⟨hnull, hmade⟩)
      · exact absurd hrefused hnot
    · cases hlate with
      | stopped reason => cases hother
      | unencodable hf => exact .unencodable hresult hpath hmade hopen hf

/-! ### Runs -/

theorem ending_conclude (strict : Bool) (result : Export) :
    (conclude strict result).2 = .status 0 ∨ (conclude strict result).2 = .status 1 := by
  rw [conclude]
  split
  · exact Or.inr rfl
  · exact Or.inl rfl

section Publish

variable {result : Export} {path : FilePath} {fault : FileSystem.Fault}

theorem ending_publish_of_error (h : destination host request.output = .error e) :
    (publish host request result).ending = .escaped e := by
  simp only [publish, h]

theorem ending_publish_of_printed (h : destination host request.output = .ok none)
    (hprinted : host.streams.refuse? (scriptText host request result) = none) :
    (publish host request result).ending = (conclude request.strict result).2 := by
  simp only [publish, h, hprinted]

theorem ending_publish_of_unprinted (h : destination host request.output = .ok none) {taken : Nat}
    (hrefuse : host.streams.refuse? (scriptText host request result) = some (taken, fault)) :
    (publish host request result).ending = .escaped (.file fault) := by
  simp only [publish, h, hrefuse]

theorem ending_publish_of_delivered (h : destination host request.output = .ok (some path))
    (hd : (delivery host request result path).2 = .ok ()) :
    (publish host request result).ending = (conclude request.strict result).2 := by
  obtain ⟨files, hfiles⟩ : ∃ files, delivery host request result path = (files, .ok ()) :=
    ⟨_, Prod.ext rfl hd⟩
  simp only [publish, h, hfiles]

theorem publish_of_refusal (h : destination host request.output = .ok (some path))
    (hd : (delivery host request result path).2 = .error fault) (hrefusal : fault.isRefusal = true) :
    (publish host request result).ending = .status 1 ∧
      (publish host request result).notices =
        exportNotices result ++ [log .error ("Cannot write script: " ++ fault.message)] := by
  obtain ⟨files, hfiles⟩ : ∃ files, delivery host request result path = (files, .error fault) :=
    ⟨_, Prod.ext rfl hd⟩
  simp only [publish, h, hfiles, hrefusal, if_true, and_self]

theorem ending_publish_of_fault (h : destination host request.output = .ok (some path))
    (hd : (delivery host request result path).2 = .error fault) (hother : fault.isRefusal = false) :
    (publish host request result).ending = .escaped (.file fault) := by
  obtain ⟨files, hfiles⟩ : ∃ files, delivery host request result path = (files, .error fault) :=
    ⟨_, Prod.ext rfl hd⟩
  simp only [publish, h, hfiles, hother, Bool.false_eq_true, if_false]

/-- A run that has an export ends with a status unless something escapes it. -/
theorem ending_publish (hresult : Exports host request result) :
    ((publish host request result).ending = .status 0 ∨
      (publish host request result).ending = .status 1) ∨
    ∃ e, (publish host request result).ending = .escaped e ∧ Escapes host request e := by
  cases h : destination host request.output with
  | error e =>
    refine Or.inr ⟨e, ending_publish_of_error h, ?_⟩
    rcases destination_eq_error_iff.1 h with
      ⟨houtput, rfl⟩ | ⟨path, hpath, hnull, reason, hlocate, hreason, rfl⟩
    · exact .noPath hresult houtput
    · exact .unfollowed hresult hpath hnull hlocate hreason
  | ok target =>
    cases target with
    | none =>
      cases hprint : host.streams.refuse? (scriptText host request result) with
      | none =>
        rw [ending_publish_of_printed h hprint]
        exact Or.inl (ending_conclude _ _)
      | some stop =>
        exact Or.inr ⟨_, ending_publish_of_unprinted h hprint, .unprinted hresult h hprint⟩
    | some path =>
      cases hd : (delivery host request result path).2 with
      | ok u =>
        rw [ending_publish_of_delivered h hd]
        exact Or.inl (ending_conclude _ _)
      | error fault =>
        cases hrefusal : fault.isRefusal with
        | true => exact Or.inl (Or.inr (publish_of_refusal h hd hrefusal).1)
        | false =>
          exact Or.inr ⟨_, ending_publish_of_fault h hd hrefusal,
            escapes_of_delivery hresult h hrefusal hd⟩

end Publish

theorem run_of_exports {result : Export} (h : Exports host request result) :
    run host request = publish host request result := by
  obtain ⟨value, hvalue, hexport⟩ := h
  simp only [run, hvalue, hexport]

/-- A run ends with the status zero or one unless something escapes it. -/
theorem ending_run (host : Host) (request : Arguments.Request) :
    ((run host request).ending = .status 0 ∨ (run host request).ending = .status 1) ∨
      ∃ e, (run host request).ending = .escaped e ∧ Escapes host request e := by
  rw [run]
  cases hsource : readSource host request.layout with
  | error fault =>
    cases fault with
    | reported message => exact Or.inl (Or.inr rfl)
    | escaped e => exact Or.inr ⟨e, rfl, .source (readSource_eq_escaped_iff.1 hsource)⟩
  | ok value =>
    dsimp only
    cases hexport : Export.ofValue value (options host request) with
    | error fault => exact Or.inr ⟨_, rfl, .noExport hsource hexport⟩
    | ok result => exact ending_publish ⟨value, hsource, hexport⟩

theorem ending_run_of_escapes (h : Escapes host request e) : (run host request).ending = .escaped e := by
  cases h with
  | source h =>
    have hsource := readSource_eq_escaped_iff.2 h
    simp only [run, hsource]
  | noExport hvalue hfault => simp only [run, hvalue, hfault]
  | noPath hresult houtput =>
    rw [run_of_exports hresult]
    exact ending_publish_of_error (destination_eq_error_iff.2 (Or.inl ⟨houtput, rfl⟩))
  | unfollowed hresult hpath hnull hlocate hreason =>
    rw [run_of_exports hresult]
    exact ending_publish_of_error
      (destination_eq_error_iff.2 (Or.inr ⟨_, hpath, hnull, _, hlocate, hreason, rfl⟩))
  | unprinted hresult hpath hrefuse =>
    rw [run_of_exports hresult]
    exact ending_publish_of_unprinted hpath hrefuse
  | nullCharacter hresult hpath hnull =>
    rw [run_of_exports hresult]
    refine ending_publish_of_fault hpath (deliver_eq_error_iff.2 ?_) rfl
    rcases hnull with hparent | ⟨hnull, hmade⟩
    · exact Or.inl (FileSystem.ensureDirectory_eq_null_iff.2 hparent)
    · refine Or.inr ⟨hmade, ?_⟩
      rw [FileSystem.save, FileSystem.openWrite_of_hasNull hnull]
  | tooManyMissing hresult hpath hnames hmissing =>
    rw [run_of_exports hresult]
    exact ending_publish_of_fault hpath (deliver_eq_error_iff.2 (Or.inl hmissing)) rfl
  | unencodable hresult hpath hmade hopen hf =>
    rw [run_of_exports hresult]
    refine ending_publish_of_fault hpath (deliver_eq_error_iff.2 (Or.inr ⟨hmade, ?_⟩)) rfl
    rw [FileSystem.save, hopen, hf]

theorem runWords_of_parse {words : List String} (h : Arguments.parse host.rules words = .ok request) :
    runWords host words = run host request := by
  have hne : words.isEmpty = false := by
    cases words with
    | nil => cases h
    | cons word rest => rfl
  simp only [runWords, hne, Bool.false_eq_true, if_false, h]

/-- A run whose words are a request ends without a status exactly if something escapes it, and with
the status zero or one otherwise.  A source that is refused, a text that is no JSON and a refusal to
write the script end it with a message in the log and the status one. -/
theorem ending_runWords {host : Host} {words : List String} {request : Arguments.Request}
    (h : Arguments.parse host.rules words = .ok request) :
    let outcome := runWords host words
    (∀ e, outcome.ending = .escaped e ↔ Escapes host request e) ∧
    ((∀ e, ¬Escapes host request e) →
      outcome.ending = .status 0 ∨ outcome.ending = .status 1) ∧
    (∀ fault, sourceText host request.layout = .error fault → fault.isRefusal = true →
      outcome.ending = .status 1 ∧
        outcome.notices = [log .error ("Cannot read layout: " ++ fault.message)]) ∧
    (∀ text fault position, sourceText host request.layout = .ok text →
      Json.read .replacement (host.limits.nesting request.layout) text =
        .error (.malformed fault position) →
      outcome.ending = .status 1 ∧ outcome.notices =
        [log .error ("Invalid layout JSON: " ++ Json.Error.message (.malformed fault position))]) ∧
    ∀ result path fault, Exports host request result →
      destination host request.output = .ok (some path) →
      (delivery host request result path).2 = .error fault → fault.isRefusal = true →
      outcome.ending = .status 1 ∧ outcome.notices =
        exportNotices result ++ [log .error ("Cannot write script: " ++ fault.message)] := by
  intro outcome
  have hrun : outcome = run host request := runWords_of_parse h
  have hiff : ∀ e, outcome.ending = .escaped e ↔ Escapes host request e := by
    intro e
    rw [hrun]
    refine ⟨fun hending => ?_, ending_run_of_escapes⟩
    rcases ending_run host request with (hzero | hone) | ⟨e', hending', hescapes⟩
    · rw [hzero] at hending
      cases hending
    · rw [hone] at hending
      cases hending
    · rw [hending'] at hending
      cases hending
      exact hescapes
  refine ⟨hiff, fun hnone => ?_, fun fault htext hrefusal => ?_,
    fun text fault position htext hread => ?_,
    fun result path fault hresult hpath hd hrefusal => ?_⟩
  · rw [hrun]
    rcases ending_run host request with hstatus | ⟨e, -, hescapes⟩
    · exact hstatus
    · exact absurd hescapes (hnone e)
  · simp only [hrun, run, readSource, htext, hrefusal, if_true, and_self]
  · simp only [hrun, run, readSource, htext, hread, and_self]
  · rw [hrun, run_of_exports hresult]
    exact publish_of_refusal hpath hd hrefusal

/-- A missing layout is reported. -/
theorem ending_runWords_missing :
    let request : Arguments.Request := { layout := "l.json" }
    Arguments.parse {} ["l.json"] = .ok request ∧
      (runWords {} ["l.json"]).ending = .status 1 ∧ (runWords {} ["l.json"]).notices =
        [log .error "Cannot read layout: [Errno 2] No such file or directory: 'l.json'"] := by
  intro request
  have hparse : Arguments.parse ({} : Host).rules ["l.json"] = .ok request := by decide +kernel
  have htext : sourceText {} "l.json" = .error (.refused .noEntry (.ofString "l.json")) := by
    rw [sourceText_of_file (by decide)]
    rfl
  have hmessage : FileSystem.Fault.message (.refused .noEntry (.ofString "l.json")) =
      "[Errno 2] No such file or directory: 'l.json'" := by decide +kernel
  obtain ⟨hending, hnotices⟩ := (ending_runWords hparse).2.2.1 _ htext rfl
  rw [hmessage] at hnotices
  exact ⟨hparse, hending, hnotices⟩

/-- A destination whose name is one byte longer than the limit ends the run without a status. -/
theorem escaped_of_long_name :
    let name := String.ofList (List.replicate 256 'x')
    let host : Host := { input := "{}".toUTF8 }
    let request : Arguments.Request := { layout := "-", output := some (.path name) }
    Arguments.parse host.rules ["-", "-o", name] = .ok request ∧
      (runWords host ["-", "-o", name]).ending =
        .escaped (.file (.refused .nameTooLong { names := [name] })) := by
  intro name host request
  have hchars : name.toList = List.replicate 256 'x' := String.toList_ofList
  have hparse : Arguments.parse host.rules ["-", "-o", name] = .ok request :=
    Arguments.parse_output (by rw [hchars]; decide)
  have hread : readLayout? host request.layout = some {} := by decide +kernel
  have hname : FilePath.isName name.toList = true := by
    rw [hchars]
    rfl
  have hslash : '/' ∉ name.toList := by
    rw [hchars, List.mem_replicate]
    decide
  have hpath : FilePath.ofString name = { names := [name] } :=
    FilePath.ofString_of_not_mem hslash hname
  have hnull : ({ names := [name] } : FilePath).hasNull = false := by
    refine Bool.eq_false_iff.2 fun h => ?_
    rw [FilePath.hasNull, List.any_cons, List.any_nil, Bool.or_false, hchars, List.contains_iff_mem,
      List.mem_replicate] at h
    exact absurd h.2 (by decide)
  have hlong : FileSystem.nameLimit < name.utf8ByteSize := by decide +kernel
  have hlocate : host.files.locate { names := [name] } = .error .nameTooLong :=
    FileSystem.locate_of_nameLimit_lt hlong rfl rfl
  have hresult : Exports host request (Layout.toScript {} {}) :=
    exists_export_of_readLayout? hread rfl rfl
  refine ⟨hparse, ?_⟩
  rw [runWords_of_parse hparse]
  exact ending_run_of_escapes
    (.unfollowed hresult (congrArg some hpath) hnull hlocate rfl)

end ExportCommand

end LuauLayout
