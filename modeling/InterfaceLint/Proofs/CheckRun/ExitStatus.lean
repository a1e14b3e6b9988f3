import InterfaceLint.Command
import InterfaceLint.Proofs.CheckRun.Composition
import InterfaceLint.Proofs.Settings.Options

/-!
# The exit status of a check

Whether a check fails is said of the files it looks at and of its settings:
a file is no model, or a model violates a rule that is enabled and reported as
an error.  The report of a check can be too wide to be laid out; then the run
breaks off and has no exit status at all.
-/

set_option autoImplicit false

namespace InterfaceLint

/-! ## Violations -/

inductive Document.Violates (document : Document) (analyzeGenerated : Bool) :
    Rule → Location → Prop
  | call (call : Call) (target : Method) (type : TypeSymbol) (listed : call ∈ document.calls)
      (lookedAt : call.generated = false ∨ analyzeGenerated = true)
      (violation : CallSite.Violation document call target type) :
      Violates document analyzeGenerated .interfaceArgument call.location
  | declaration (method : Method) (location : Location) (fault : DeclarationFault)
      (listed : Symbol.method method ∈ document.symbols)
      (lookedAt : method.generated = false ∨ analyzeGenerated = true) (marked : method.Marked)
      (located : method.locations.head? = some location)
      (violation : Declaration.Violation document method fault) :
      Violates document analyzeGenerated .markerDeclaration location

namespace Model

theorem mem_analyze_iff {model : Model} (faithful : model.Faithful) (options : AnalysisOptions)
    (finding : Finding) :
    finding ∈ model.analyze options ↔
      (∃ call ∈ model.document.calls, CallSite.Due model.document options call finding) ∨
        ∃ symbol ∈ model.document.symbols,
          Declaration.Due model.document options symbol finding := by
  rw [(model.analyze_perm options).mem_iff, List.mem_append, List.mem_filterMap,
    List.mem_filterMap]
  simp only [callFinding?_eq_some_iff faithful, declarationFinding?_eq_some_iff faithful]

/-- The findings of a model, as far as rule, place and severity go. -/
theorem exists_mem_analyze_iff {model : Model} (faithful : model.Faithful)
    (options : AnalysisOptions) (holds : Rule → Place → Severity → Prop) :
    (∃ finding ∈ model.analyze options,
        holds finding.rule finding.place finding.severity) ↔
      ∃ rule location, model.document.Violates options.analyzeGenerated rule location ∧
        options.enabled rule = true ∧
        holds rule (.source location) (options.effectiveSeverity rule) := by
  simp only [mem_analyze_iff faithful]
  constructor
  · intro reported
    obtain ⟨finding, due, held⟩ := reported
    rcases due with ⟨call, listed, due⟩ | ⟨symbol, listed, due⟩
    · obtain ⟨enabled, lookedAt, target, type, violation, rfl⟩ := due
      exact ⟨_, _, .call call target type listed lookedAt violation, enabled, held⟩
    · obtain ⟨enabled, method, rfl, lookedAt, marked, location, fault, located, violation, rfl⟩ :=
        due
      exact ⟨_, _, .declaration method location fault listed lookedAt marked located violation,
        enabled, held⟩
  · intro due
    obtain ⟨rule, location, violates, enabled, held⟩ := due
    cases violates with
    | call call target type listed lookedAt violation =>
        exact ⟨_, .inl ⟨call, listed, enabled, lookedAt, target, type, violation, rfl⟩, held⟩
    | declaration method location fault listed lookedAt marked located violation =>
        exact ⟨_, .inr ⟨_, listed, enabled, method, rfl, lookedAt, marked, location, fault,
          located, violation, rfl⟩, held⟩

end Model

/-! ## What a check has to report -/

namespace CheckContext

/-- The rule is enabled and a model among the files of the check violates it. -/
inductive Violated (context : CheckContext) (disk : Disk) (selected : List Rule) (rule : Rule)
    (location : Location) : Prop
  | inFile (path : String) (document : Document) (selectedFile : path ∈ context.files)
      (found : document.In disk path) (distinct : (document.symbols.map Symbol.key).Nodup)
      (violates : document.Violates context.settings.analyzeGenerated rule location)
      (enabled : context.settings.Enables selected rule)

/-- The configured severity of a rule, or else an error. -/
def severityOf (context : CheckContext) (rule : Rule) : Severity :=
  (context.settings.override? rule).getD .error

inductive Fails (context : CheckContext) (disk : Disk) (selected : List Rule) : Prop
  | unloadable (path : String) (selectedFile : path ∈ context.files)
      (cause : Unloadable disk path)
  | violation (rule : Rule) (location : Location)
      (violated : context.Violated disk selected rule location)
      (asError : context.severityOf rule = .error)

theorem mem_modelFindings_iff {options : AnalysisOptions} {disk : Disk} {path : String}
    {finding : Finding} :
    finding ∈ modelFindings options path (disk.readText path) ↔
      ∃ model, Model.load disk path = .ok model ∧ finding ∈ model.analyze options := by
  unfold modelFindings
  rw [← Model.load_eq_ofContent]
  cases Model.load disk path with
  | ok model =>
      have sorted : finding ∈ model.analyze options ↔
          finding ∈ (model.rawFindings options).map options.adjust :=
        (Finding.sorted_perm _).mem_iff
      simp only [Except.ok.injEq, exists_eq_left', sorted]
  | error error => simp

theorem mem_failureFindings_iff {context : CheckContext} {disk : Disk} {path : String}
    {finding : Finding} :
    finding ∈ context.failureFindings path (disk.readText path) ↔
      ∃ error, Model.load disk path = .error error ∧
        finding = context.unreadable { path, error := error.message } := by
  unfold failureFindings
  rw [← Model.load_eq_ofContent]
  cases Model.load disk path with
  | ok model => simp
  | error error => simp

theorem mem_result_findings_iff {context : CheckContext} {options : AnalysisOptions} {disk : Disk}
    {finding : Finding} :
    finding ∈ (context.result options (loadModels disk context.files)).findings ↔
      (∃ path ∈ context.files, ∃ model, Model.load disk path = .ok model ∧
        finding ∈ model.analyze options) ∨
      ∃ path ∈ context.files, ∃ error, Model.load disk path = .error error ∧
        finding = context.unreadable { path, error := error.message } := by
  rw [result_findings, (Finding.sorted_perm _).mem_iff, rawFindings, List.mem_append,
    List.mem_flatMap, List.mem_flatMap]
  simp only [mem_modelFindings_iff, mem_failureFindings_iff]

theorem options_effectiveSeverity (context : CheckContext) (selected : List Rule) (rule : Rule) :
    (context.settings.options selected).effectiveSeverity rule = context.severityOf rule := by
  rw [AnalysisOptions.effectiveSeverity, Settings.options_severity?, severityOf]

/-- The findings of a check, as far as rule, place and severity go. -/
theorem exists_mem_findings_iff (context : CheckContext) (disk : Disk) (selected : List Rule)
    (holds : Rule → Place → Severity → Prop) :
    (∃ finding ∈ (context.result (context.settings.options selected)
        (loadModels disk context.files)).findings,
        holds finding.rule finding.place finding.severity) ↔
      (∃ path ∈ context.files, Unloadable disk path ∧
        holds .unreadableModel (.file (context.displayPath path)) .error) ∨
      ∃ rule location, context.Violated disk selected rule location ∧
        holds rule (.source location) (context.severityOf rule) := by
  simp only [mem_result_findings_iff]
  constructor
  · intro present
    obtain ⟨finding, reported, held⟩ := present
    rcases reported with ⟨path, selectedFile, model, loaded, inModel⟩ |
      ⟨path, selectedFile, error, failed, rfl⟩
    · obtain ⟨document, found, built⟩ := Model.load_eq_ok_iff.mp loaded
      obtain ⟨rule, location, violates, enabled, held⟩ :=
        (Model.exists_mem_analyze_iff (Model.ofDocument_faithful built) _ holds).mp
          ⟨finding, inModel, held⟩
      rw [Model.ofDocument_document built, Settings.options_analyzeGenerated] at violates
      rw [options_effectiveSeverity] at held
      have distinct := Model.ofDocument_isOk_iff_nodup.mp ⟨model, built⟩
      exact .inr ⟨rule, location, .inFile path document selectedFile found distinct violates
        (Settings.options_enabled_iff.mp enabled), held⟩
    · exact .inl ⟨path, selectedFile, Model.load_isError_iff.mp ⟨error, failed⟩, held⟩
  · intro reported
    rcases reported with ⟨path, selectedFile, cause, held⟩ | ⟨rule, location, violated, held⟩
    · obtain ⟨error, failed⟩ := Model.load_isError_iff.mpr cause
      exact ⟨_, .inr ⟨path, selectedFile, error, failed, rfl⟩, held⟩
    · obtain ⟨path, document, selectedFile, found, distinct, violates, enabled⟩ := violated
      obtain ⟨model, built⟩ := Model.ofDocument_isOk_iff_nodup.mpr distinct
      have loaded := Model.load_eq_ok_iff.mpr ⟨document, found, built⟩
      rw [← Model.ofDocument_document built,
        ← Settings.options_analyzeGenerated context.settings selected] at violates
      rw [← options_effectiveSeverity context selected] at held
      obtain ⟨finding, inModel, held⟩ :=
        (Model.exists_mem_analyze_iff (Model.ofDocument_faithful built) _ holds).mpr
          ⟨rule, location, violates, Settings.options_enabled_iff.mpr enabled, held⟩
      exact ⟨finding, .inl ⟨path, selectedFile, model, loaded, inModel⟩, held⟩

end CheckContext

/-! ## The exit code -/

/-- The caret stands farther to the right than a report can be laid out. -/
def Location.Overlong (location : Location) : Prop :=
  ∃ line, location.sourceLine = some line ∧
    Report.greatestOffset < Report.caretOffset location line

def Place.Overlong : Place → Prop
  | .source location => location.Overlong
  | .file _ => False

/-- The exit code of a check.  There is none when the report cannot be laid out:
the run breaks off. -/
def exitCode? (disk : Disk) (request : CheckRequest) : Option UInt32 :=
  if (Command.check request).fits disk then some (runCheck disk request).status.code else none

theorem Report.fits_iff {finding : Finding} :
    fits finding = true ↔ ¬ finding.place.Overlong := by
  unfold fits
  cases finding.place with
  | file path => simp [Place.Overlong]
  | source location =>
      cases known : location.sourceLine with
      | none => simp [Place.Overlong, Location.Overlong, known]
      | some line => simp [Place.Overlong, Location.Overlong, known]

theorem Command.check_fits_iff {disk : Disk} {request : CheckRequest} {result : CheckResult}
    {emitted : List Notice} (checked : InterfaceLint.check disk request = .ok (result, emitted)) :
    (Command.check request).fits disk = true ↔
      ¬ (request.format = .text ∧ ∃ finding ∈ result.findings, finding.place.Overlong) := by
  simp only [fits, checked, Bool.or_eq_true, decide_eq_true_eq, List.all_eq_true, Report.fits_iff]
  cases request.format with
  | text => simp
  | json => simp

theorem CheckResult.exitStatus_code (result : CheckResult) :
    (result.exitStatus.code = 1 ↔ ∃ finding ∈ result.findings, finding.severity = .error) ∧
      (result.exitStatus.code = 0 ↔ ¬ ∃ finding ∈ result.findings, finding.severity = .error) := by
  have counted : 0 < result.errorCount ↔
      ∃ finding ∈ result.findings, finding.severity = .error := by
    simp [errorCount, Finding.countOf, List.countP_pos_iff]
  rw [← counted, exitStatus]
  by_cases failing : 0 < result.errorCount
  · simp [failing, ExitStatus.code]
  · simp [failing, ExitStatus.code]

/-- Two checks come to the same findings of as many files or to the same error, and
with them to the same report and the same exit. -/
structure SameOutcome (disk : Disk) (left right : CheckRequest) : Prop where
  result : (check disk left).map Prod.fst = (check disk right).map Prod.fst
  stdout : (runCheck disk left).stdout = (runCheck disk right).stdout
  status : (runCheck disk left).status = (runCheck disk right).status
  exitCode : exitCode? disk left = exitCode? disk right

/-- The result of a check is made from its context and from the rules asked for. -/
theorem map_check (disk : Disk) (request : CheckRequest) :
    (check disk request).map Prod.fst =
      ((CheckContext.prepare disk request).map Prod.fst).map fun context =>
        context.result (context.settings.options request.rules)
          (loadModels disk context.files) := by
  unfold check
  cases CheckContext.prepare disk request <;> rfl

theorem runCheck_stdout (disk : Disk) (request : CheckRequest) :
    (runCheck disk request).stdout =
      match (check disk request).map Prod.fst with
      | .ok result => result.report request.format
      | .error error => error.transcript.stdout := by
  unfold runCheck
  cases check disk request <;> rfl

theorem runCheck_status (disk : Disk) (request : CheckRequest) :
    (runCheck disk request).status =
      match (check disk request).map Prod.fst with
      | .ok result => result.exitStatus
      | .error error => error.transcript.status := by
  unfold runCheck
  cases check disk request <;> rfl

theorem Command.fits_check (disk : Disk) (request : CheckRequest) :
    (Command.check request).fits disk =
      match (InterfaceLint.check disk request).map Prod.fst with
      | .ok result => request.format = .json || result.findings.all Report.fits
      | .error _ => true := by
  simp only [fits]
  cases InterfaceLint.check disk request <;> rfl

/-- All but the notices is told by the result and the format. -/
theorem sameOutcome_of_result {disk : Disk} {left right : CheckRequest}
    (format : left.format = right.format)
    (result : (check disk left).map Prod.fst = (check disk right).map Prod.fst) :
    SameOutcome disk left right := by
  have status : (runCheck disk left).status = (runCheck disk right).status := by
    rw [runCheck_status, runCheck_status, result]
  refine ⟨result, ?_, status, ?_⟩
  · rw [runCheck_stdout, runCheck_stdout, result, format]
  · rw [exitCode?, exitCode?, Command.fits_check, Command.fits_check, result, format, status]

def CheckContext.BreaksOff (context : CheckContext) (disk : Disk) (request : CheckRequest) : Prop :=
  request.format = .text ∧
    ∃ rule location, context.Violated disk request.rules rule location ∧ location.Overlong

namespace CheckContext

variable (context : CheckContext) (disk : Disk) (selected : List Rule)

theorem fails_iff :
    (∃ finding ∈ (context.result (context.settings.options selected)
        (loadModels disk context.files)).findings, finding.severity = .error) ↔
      context.Fails disk selected := by
  rw [context.exists_mem_findings_iff disk selected fun _ _ severity => severity = .error]
  constructor
  · intro failing
    rcases failing with ⟨path, selectedFile, cause, _⟩ | ⟨rule, location, violated, asError⟩
    · exact .unloadable path selectedFile cause
    · exact .violation rule location violated asError
  · intro fails
    cases fails with
    | unloadable path selectedFile cause => exact .inl ⟨path, selectedFile, cause, rfl⟩
    | violation rule location violated asError => exact .inr ⟨rule, location, violated, asError⟩

theorem overlong_iff :
    (∃ finding ∈ (context.result (context.settings.options selected)
        (loadModels disk context.files)).findings, finding.place.Overlong) ↔
      ∃ rule location, context.Violated disk selected rule location ∧ location.Overlong := by
  rw [context.exists_mem_findings_iff disk selected fun _ place _ => place.Overlong]
  simp [Place.Overlong]

end CheckContext

structure ExitContract (disk : Disk) (request : CheckRequest) (context : CheckContext) : Prop where
  carriedOut : ∃ result emitted, check disk request = .ok (result, emitted)
  /-- The code is decided without regard to the report, -/
  failing : (runCheck disk request).status.code = 1 ↔ context.Fails disk request.rules
  passing : (runCheck disk request).status.code = 0 ↔ ¬ context.Fails disk request.rules
  /-- which can prevent the run from ending with it. -/
  brokenOff : exitCode? disk request = none ↔ context.BreaksOff disk request
  failure : exitCode? disk request = some 1 ↔
    ¬ context.BreaksOff disk request ∧ context.Fails disk request.rules
  success : exitCode? disk request = some 0 ↔
    ¬ context.BreaksOff disk request ∧ ¬ context.Fails disk request.rules
  /-- Neither settings nor a selection can hide a file that is no model. -/
  unloadable : (∃ path ∈ context.files, Unloadable disk path) → exitCode? disk request ≠ some 0

/-- A check that is prepared is carried out, and its exit code tells whether a
file is no model or violates a rule that is reported as an error. -/
theorem check_exitContract (disk : Disk) (request : CheckRequest) (context : CheckContext)
    (notices : List Notice)
    (prepared : CheckContext.prepare disk request = .ok (context, notices)) :
    ExitContract disk request context := by
  obtain ⟨emitted, checked⟩ := check_of_prepared prepared
  have status : (runCheck disk request).status =
      (context.result (context.settings.options request.rules)
        (loadModels disk context.files)).exitStatus := by
    rw [runCheck, checked]
    rfl
  have fits : (Command.check request).fits disk = true ↔ ¬ context.BreaksOff disk request := by
    rw [Command.check_fits_iff checked, context.overlong_iff disk request.rules]
    rfl
  obtain ⟨failing, passing⟩ := CheckResult.exitStatus_code
    (context.result (context.settings.options request.rules) (loadModels disk context.files))
  rw [← status, context.fails_iff disk request.rules] at failing passing
  have success : exitCode? disk request = some 0 ↔
      ¬ context.BreaksOff disk request ∧ ¬ context.Fails disk request.rules := by
    rw [exitCode?, Option.ite_none_right_eq_some, fits, Option.some.injEq, passing]
  exact {
    carriedOut := ⟨_, emitted, checked⟩
    failing
    passing
    brokenOff := by
      have cutShort : exitCode? disk request = none ↔
          ¬ (Command.check request).fits disk = true := by
        simp [exitCode?]
      rw [cutShort, fits, not_not]
    failure := by
      rw [exitCode?, Option.ite_none_right_eq_some, fits, Option.some.injEq, failing]
    success
    unloadable := by
      intro present zero
      obtain ⟨path, selectedFile, cause⟩ := present
      exact (success.mp zero).2 (.unloadable path selectedFile cause) }

theorem check_exitContract_mixedDisk :
    CheckContext.prepare mixedDisk {} = .ok (mixedContext, []) ∧
      ExitContract mixedDisk {} mixedContext :=
  ⟨rfl, check_exitContract mixedDisk {} mixedContext [] rfl⟩

end InterfaceLint
