import LuauLayout.Proofs.ExportEffects
import LuauLayout.Proofs.StrictRequest

/-! Which script a run of the export command delivers.  It is the export of what the source holds, under
the switches that are asked for or that the environment turns on.  Neither the destination nor strictness
has a part in it, and a strict run differs from another in its status and its log only. -/

namespace LuauLayout

namespace Setting

/-- A switch that is off by default is on exactly if its text says so. -/
theorem isOn_iff {s : Setting} {env : Environment} (hkind : s.kind = .switch)
    (hdefault : s.default? = some (.switch false)) :
    s.isOn env = true ↔ ∃ text, s.rawText? env = some text ∧ switch? text = some true := by
  rw [isOn, value?, hkind, hdefault]
  cases s.rawText? env with
  | none => simp
  | some text =>
    rw [Option.bind_some, Kind.read?]
    cases hswitch : switch? text with
    | none => simp [hswitch]
    | some b => cases b <;> simp [hswitch]

theorem isOn_congr {s : Setting} {env env' : Environment} (h : s.rawText? env' = s.rawText? env) :
    s.isOn env' = s.isOn env := by
  rw [isOn, isOn, value?, value?, h]

end Setting

namespace ExportCommand

variable {host host' : Host} {request request' : Arguments.Request} {result : Export}
  {path : FilePath} {script : String}

/-! ### The switches -/

theorem options_eq (host : Host) (request : Arguments.Request) :
    options host request =
      { uniqueNames := request.uniqueNames || Setting.uniqueNames.isOn host.environment
        safeText := request.safeText || Setting.safeText.isOn host.environment } := by
  have hasked : ∀ flag b : Bool, (if flag then some true else none).getD b = (flag || b) := by
    decide
  simp only [options, ExportOptions.resolve, hasked]

/-- A switch is on exactly if its flag is given or the environment turns it on. -/
def IsSwitchedOn (flag : Bool) (s : Setting) (env : Environment) : Prop :=
  flag = true ∨ ∃ text, s.rawText? env = some text ∧ Setting.switch? text = some true

theorem uniqueNames_options_iff :
    (options host request).uniqueNames = true ↔
      IsSwitchedOn request.uniqueNames .uniqueNames host.environment := by
  rw [options_eq, Bool.or_eq_true, IsSwitchedOn, Setting.isOn_iff rfl rfl]

theorem safeText_options_iff :
    (options host request).safeText = true ↔
      IsSwitchedOn request.safeText .safeText host.environment := by
  rw [options_eq, Bool.or_eq_true, IsSwitchedOn, Setting.isOn_iff rfl rfl]

/-! ### Two runs of one export -/

/-- Two runs read the same text, as deep as each other, under the same switches.  Where they write and
whether they are strict is left open. -/
structure SameExport (host : Host) (request : Arguments.Request) (host' : Host)
    (request' : Arguments.Request) : Prop where
  layout : request'.layout = request.layout
  text : sourceText host' request'.layout = sourceText host request.layout
  nesting : host'.limits.nesting request'.layout = host.limits.nesting request.layout
  uniqueNames : request'.uniqueNames = request.uniqueNames
  safeText : request'.safeText = request.safeText
  settings : ∀ s : Setting, s.kind = .switch →
    s.rawText? host'.environment = s.rawText? host.environment

namespace SameExport

theorem readSource_eq (h : SameExport host request host' request') (σ : Text.StandIn) :
    readSource host' request'.layout σ = readSource host request.layout σ := by
  rw [readSource, h.text, h.nesting]
  rfl

theorem options_eq (h : SameExport host request host' request') :
    options host' request' = options host request := by
  rw [ExportCommand.options_eq, ExportCommand.options_eq, h.uniqueNames, h.safeText,
    Setting.isOn_congr (h.settings .uniqueNames rfl), Setting.isOn_congr (h.settings .safeText rfl)]

theorem exports (h : SameExport host request host' request') (hresult : Exports host request result) :
    Exports host' request' result := by
  obtain ⟨value, hvalue, hexport⟩ := hresult
  exact ⟨value, (h.readSource_eq .replacement).trans hvalue, h.options_eq ▸ hexport⟩

theorem scriptBytes_eq (h : SameExport host request host' request') (result : Export) :
    scriptBytes host' request' result = scriptBytes host request result := by
  have htext : scriptText host' request' result = scriptText host request result := by
    rw [scriptText, scriptText, h.readSource_eq, h.options_eq]
  rw [scriptBytes, scriptBytes, htext]

end SameExport

theorem Exports.unique {result' : Export} (h : Exports host request result)
    (h' : Exports host request result') : result' = result := by
  obtain ⟨value, hvalue, hexport⟩ := h
  obtain ⟨value', hvalue', hexport'⟩ := h'
  obtain rfl := Except.ok.inj (hvalue.symm.trans hvalue')
  exact Except.ok.inj (hexport'.symm.trans hexport)

/-! ### What is delivered -/

/-- The script that a run has delivered: on the standard output, less the line feed behind it, or as the
content of the file that the destination leads to. -/
def Delivers (host : Host) (request : Arguments.Request) (outcome : Outcome) (script : String) :
    Prop :=
  match destination host request.output with
  | .ok none => outcome.output = script ++ "\n"
  | .ok (some path) => outcome.files.read path = .ok script.toUTF8
  | .error _ => False

/-- Why a run that ends with a status delivers nothing: its source is refused, or the text of the source
is no JSON, or the script is refused where it goes. -/
inductive Fails (host : Host) (request : Arguments.Request) : Prop
  | reading {fault : FileSystem.Fault} (htext : sourceText host request.layout = .error fault)
    (hrefusal : fault.isRefusal = true) : Fails host request
  | parsing {text : List Text.CodePoint} {fault : Json.Fault} {position : Json.Position}
    (htext : sourceText host request.layout = .ok text)
    (hread : Json.read .replacement (host.limits.nesting request.layout) text =
      .error (.malformed fault position)) : Fails host request
  | writing {result : Export} {path : FilePath} {fault : FileSystem.Fault}
    (hresult : Exports host request result)
    (hpath : destination host request.output = .ok (some path))
    (hdelivery : (delivery host request result path).2 = .error fault)
    (hrefusal : fault.isRefusal = true) : Fails host request

theorem fails_of_reported {message : String}
    (h : readSource host request.layout = .error (.reported message)) : Fails host request := by
  rw [readSource] at h
  split at h
  · rename_i fault htext
    split at h
    · rename_i hrefusal
      exact .reading htext hrefusal
    · cases h
  · rename_i text htext
    split at h
    · cases h
    · cases h
    · cases h
    · rename_i fault hoverlong hdeep hread
      cases fault with
      | malformed fault position => exact .parsing htext hread
      | overlong e => exact absurd rfl (hoverlong e)
      | tooDeep c => exact absurd rfl (hdeep c)

/-- A run that fails has the status one. -/
theorem ending_of_fails (h : Fails host request) : (run host request).ending = .status 1 := by
  cases h with
  | reading htext hrefusal => simp only [run, readSource, htext, hrefusal, if_true]
  | parsing htext hread => simp only [run, readSource, htext, hread]
  | writing hresult hpath hdelivery hrefusal =>
    rw [run_of_exports hresult]
    exact (publish_of_refusal hpath hdelivery hrefusal).1

/-- A run that delivers its script does not fail. -/
theorem not_fails_of_delivery (hresult : Exports host request result)
    (hpath : destination host request.output = .ok (some path))
    (h : (delivery host request result path).2 = .ok ()) : ¬Fails host request := by
  have ⟨_, hvalue, _⟩ := hresult
  intro hfails
  cases hfails with
  | reading htext hrefusal =>
    simp only [readSource, htext, hrefusal, if_true] at hvalue
    cases hvalue
  | parsing htext hmalformed =>
    simp only [readSource, htext, hmalformed] at hvalue
    cases hvalue
  | writing hresult' hpath' hdelivery hrefusal =>
    obtain rfl := hresult.unique hresult'
    obtain rfl := Option.some.inj (Except.ok.inj (hpath.symm.trans hpath'))
    cases h.symm.trans hdelivery

theorem delivers_publish_iff (hnone : destination host request.output = .ok none)
    (hprinted : host.streams.refuse? (scriptText host request result) = none) :
    Delivers host request (publish host request result) script ↔ script = result.script := by
  simp only [Delivers, publish, hnone, hprinted]
  rw [String.append_left_inj, eq_comm]

theorem delivers_publish_iff_of_path (hpath : destination host request.output = .ok (some path))
    (hok : (delivery host request result path).2 = .ok ()) :
    Delivers host request (publish host request result) script ↔ script = result.script := by
  obtain ⟨content, hcontent, hread⟩ := read_of_deliver (deliver_of_ok hok)
  obtain ⟨-, rfl⟩ := scriptBytes_eq_ok_iff.1 hcontent
  simp only [Delivers, hpath]
  rw [(publish_of_path result hpath).1, delivery, hread, Except.ok.injEq]
  exact String.toByteArray_inj.trans eq_comm

/-- A run with a destination that ends with a status and does not fail delivers its script there. -/
theorem delivery_eq_ok_of_status {n : Int} (hresult : Exports host request result)
    (hpath : destination host request.output = .ok (some path))
    (hstatus : (publish host request result).ending = .status n) (hfails : ¬Fails host request) :
    (delivery host request result path).2 = .ok () := by
  cases hdelivery : (delivery host request result path).2 with
  | ok u => rfl
  | error fault =>
    cases hrefusal : fault.isRefusal with
    | true => exact absurd (.writing hresult hpath hdelivery hrefusal) hfails
    | false =>
      rw [ending_publish_of_fault hpath hdelivery hrefusal] at hstatus
      cases hstatus

/-- A run that ends with a status and does not fail has an export, delivers its script and nothing else,
and ends as its strictness demands. -/
theorem exists_exports_of_status {n : Int} (hstatus : (run host request).ending = .status n)
    (hfails : ¬Fails host request) : ∃ result, Exports host request result ∧
      (∀ script, Delivers host request (run host request) script ↔ script = result.script) ∧
      (run host request).ending = (conclude request.strict result).2 := by
  rw [run] at hstatus
  split at hstatus
  · rename_i hsource
    exact absurd (fails_of_reported hsource) hfails
  · cases hstatus
  · rename_i value hvalue
    split at hstatus
    · cases hstatus
    · rename_i result hexport
      have hresult : Exports host request result := ⟨value, hvalue, hexport⟩
      refine ⟨result, hresult, ?_⟩
      rw [run_of_exports hresult]
      cases hdestination : destination host request.output with
      | error e =>
        rw [ending_publish_of_error hdestination] at hstatus
        cases hstatus
      | ok target =>
        cases target with
        | none =>
          cases hprint : host.streams.refuse? (scriptText host request result) with
          | none =>
            exact ⟨fun _ => delivers_publish_iff hdestination hprint,
              ending_publish_of_printed hdestination hprint⟩
          | some stop =>
            rw [ending_publish_of_unprinted hdestination hprint] at hstatus
            cases hstatus
        | some path =>
          have hdelivered := delivery_eq_ok_of_status hresult hdestination hstatus hfails
          exact ⟨fun _ => delivers_publish_iff_of_path hdestination hdelivered,
            ending_publish_of_delivered hdestination hdelivered⟩

theorem conclude_eq_iff {strict : Bool} {n : Int} (h : (conclude strict result).2 = .status n) :
    (n = 0 ∨ n = 1) ∧ (n = 1 ↔ strict = true ∧ result.warnings ≠ []) := by
  have hwarnings : result.hasWarnings = true ↔ result.warnings ≠ [] := by
    rw [Export.hasWarnings, Bool.not_eq_true', List.isEmpty_eq_false_iff]
  rw [← hwarnings, ← Bool.and_eq_true]
  rw [conclude] at h
  split at h
  · rename_i hstrict
    obtain rfl := Ending.status.inj h
    simp [hstrict]
  · rename_i hstrict
    obtain rfl := Ending.status.inj h
    simp [hstrict]

/-- Strictness has no part in what is written. -/
theorem run_strict (host : Host) (request : Arguments.Request) (strict : Bool) :
    (run host { request with strict }).output = (run host request).output ∧
      (run host { request with strict }).files = (run host request).files := by
  have hpublish : ∀ result,
      (publish host { request with strict } result).output = (publish host request result).output ∧
      (publish host { request with strict } result).files = (publish host request result).files := by
    intro result
    have htext : scriptText host { request with strict } result = scriptText host request result :=
      rfl
    have hdelivery : delivery host { request with strict } result = delivery host request result :=
      rfl
    rw [publish, publish, htext, hdelivery]
    dsimp only
    split
    · exact ⟨rfl, rfl⟩
    · split <;> exact ⟨rfl, rfl⟩
    · split
      · exact ⟨rfl, rfl⟩
      · split <;> exact ⟨rfl, rfl⟩
  have hoptions : options host { request with strict } = options host request := rfl
  rw [run, run, hoptions]
  dsimp only
  split
  · exact ⟨rfl, rfl⟩
  · exact ⟨rfl, rfl⟩
  · split
    · exact ⟨rfl, rfl⟩
    · exact hpublish _

/-- A run that ends with a status, and fails neither at its source nor at its destination, delivers the
script of the export of what it reads, under the switches that are asked for or that the environment
turns on.  Its status is one exactly if it is strict and there are warnings.  Any other such run of the
same source and switches delivers the same script, wherever it writes and whether it is strict.  The flag for
strictness can be added to the words, and it changes neither the standard output nor a file. -/
theorem delivers_runWords {host : Host} {words : List String} {request : Arguments.Request} {n : Int}
    (hrequest : Arguments.parse host.rules words = .ok request)
    (hstatus : (runWords host words).ending = .status n) (hfails : ¬Fails host request) :
    ∃ value result switches, readSource host request.layout = .ok value ∧
      Export.ofValue value switches = .ok result ∧
      (switches.uniqueNames = true ↔
        IsSwitchedOn request.uniqueNames .uniqueNames host.environment) ∧
      (switches.safeText = true ↔ IsSwitchedOn request.safeText .safeText host.environment) ∧
      (∀ script, Delivers host request (runWords host words) script ↔ script = result.script) ∧
      (n = 0 ∨ n = 1) ∧ (n = 1 ↔ request.strict = true ∧ result.warnings ≠ []) ∧
      (∀ host' words' request' n', Arguments.parse host'.rules words' = .ok request' →
        SameExport host request host' request' →
        (runWords host' words').ending = .status n' → ¬Fails host' request' →
        ∀ script, Delivers host' request' (runWords host' words') script ↔
          script = result.script) ∧
      Arguments.parse host.rules ("--strict" :: words) = .ok { request with strict := true } ∧
      ∀ words', Arguments.parse host.rules words' = .ok { request with strict := true } →
        (runWords host words').output = (runWords host words).output ∧
          (runWords host words').files = (runWords host words).files := by
  rw [runWords_of_parse hrequest] at hstatus ⊢
  obtain ⟨result, hresult, hdelivers, hending⟩ := exists_exports_of_status hstatus hfails
  obtain ⟨value, hvalue, hexport⟩ := hresult
  obtain ⟨hrange, hone⟩ := conclude_eq_iff (hending.symm.trans hstatus)
  refine ⟨value, result, options host request, hvalue, hexport, uniqueNames_options_iff,
    safeText_options_iff, hdelivers, hrange, hone, ?_, Arguments.parse_strict hrequest, ?_⟩
  · intro host' words' request' n' hrequest' hsame hstatus' hfails'
    rw [runWords_of_parse hrequest'] at hstatus' ⊢
    obtain ⟨result', hresult', hdelivers', -⟩ := exists_exports_of_status hstatus' hfails'
    rwa [(hsame.exports ⟨value, hvalue, hexport⟩).unique hresult'] at hdelivers'
  · intro words' hstrict
    rw [runWords_of_parse hstrict]
    exact run_strict host request true

/-- A strict run whose layout holds a helper delivers its script, and its status is one. -/
theorem delivers_runWords_skipped :
    let host : Host := { input := "\x7b\"items\": [\x7b\"type\": \"Spacer\"\x7d]\x7d".toUTF8 }
    let request : Arguments.Request :=
      { layout := "-", output := some (.path "ui/x.lua"), strict := true }
    let words := ["--strict", "-", "-o", "ui/x.lua"]
    Arguments.parse host.rules words = .ok request ∧ (runWords host words).ending = .status 1 ∧
      ¬Fails host request ∧ ∃ result : Export, result.warnings ≠ [] ∧
        Delivers host request (runWords host words) result.script := by
  intro host request words
  let layout : Layout := { items := [{ type := "Spacer" }] }
  let result := layout.toScript {}
  let path : FilePath := { names := ["ui", "x.lua"] }
  have hrequest : Arguments.parse host.rules words = .ok request :=
    Arguments.parse_strict (Arguments.parse_output (by decide))
  have hread : readLayout? host request.layout = some layout := by decide +kernel
  have hnumbered : readLayout? host request.layout .numbered = some layout := by decide +kernel
  have hresult : Exports host request result :=
    exists_export_of_readLayout? hread rfl (by decide +kernel)
  have hnames : FilePath.ofString "ui/x.lua" = path := by decide +kernel
  have hthere : host.files.isDirectory path = .ok false := by decide +kernel
  have hpath : destination host request.output = .ok (some path) :=
    destination_of_isDirectory hnames hthere
  have hdelivered : (delivery host request result path).2 = .ok () := by
    rw [delivery_of_readLayout? hresult hread hnumbered]
    decide +kernel
  have hwarned : result.hasWarnings = true := by decide +kernel
  have hstatus : (runWords host words).ending = .status 1 := by
    rw [runWords_of_parse hrequest, run_of_exports hresult,
      ending_publish_of_delivered hpath hdelivered, conclude, hwarned]
    rfl
  have hfails := not_fails_of_delivery hresult hpath hdelivered
  obtain ⟨value, result, switches, -, -, -, -, hdelivers, -, hone, -⟩ :=
    delivers_runWords hrequest hstatus hfails
  exact ⟨hrequest, hstatus, hfails, result, (hone.1 rfl).2, (hdelivers _).2 rfl⟩

end ExportCommand

end LuauLayout
