import InterfaceLint.CheckRun
import InterfaceLint.Proofs.Analysis.Exactness
import InterfaceLint.Proofs.Disk.Replacement
import InterfaceLint.Proofs.ModelFile.Loading

/-!
# A check put together from its files

Each model file contributes to a check by itself: the findings in its model,
or one finding that it could not be loaded.  The result is one stable sort of
these contributions, although every model is sorted on its own before.  A
contribution is made from what the file reads as and from the options, so that
another content in one file leaves the contributions of the others alone.
-/

set_option autoImplicit false

namespace InterfaceLint

/-! ## Contributions -/

def Model.ofContent (path : String) (content : Except DiskFault String) :
    Except ModelError Model :=
  content.mapError (.unreadable path) >>= Model.parse

theorem Model.load_eq_ofContent (disk : Disk) (path : String) :
    Model.load disk path = Model.ofContent path (disk.readText path) := rfl

namespace CheckContext

/-- The findings in a file as its rules give them, calls before declarations and
each in document order, with their severities. -/
def modelFindings (options : AnalysisOptions) (path : String)
    (content : Except DiskFault String) : List Finding :=
  match Model.ofContent path content with
  | .ok model => (model.rawFindings options).map options.adjust
  | .error _ => []

def failureFindings (context : CheckContext) (path : String)
    (content : Except DiskFault String) : List Finding :=
  match Model.ofContent path content with
  | .ok _ => []
  | .error error => [context.unreadable { path, error := error.message }]

/-- All findings of a check as they arise: those in models, file by file, then
the files that could not be loaded. -/
def rawFindings (context : CheckContext) (options : AnalysisOptions) (disk : Disk) :
    List Finding :=
  context.files.flatMap (fun path => modelFindings options path (disk.readText path)) ++
    context.files.flatMap fun path => context.failureFindings path (disk.readText path)

/-- What a file contributes: the findings of its model, in the order of calls and
then of symbols, and nothing else, or the one finding that it could not be
loaded and nothing else. -/
inductive Contributes (context : CheckContext) (options : AnalysisOptions) (disk : Disk)
    (path : String) : Prop
  | model (model : Model) (loaded : Model.load disk path = .ok model)
      (findings : modelFindings options path (disk.readText path) =
        model.document.calls.filterMap (model.callFinding? options) ++
          model.document.symbols.filterMap (model.declarationFinding? options))
      (readable : ∀ finding ∈ modelFindings options path (disk.readText path),
        finding.isUnreadable = false)
      (noFailure : context.failureFindings path (disk.readText path) = [])
  | failure (error : ModelError) (failed : Model.load disk path = .error error)
      (noFindings : modelFindings options path (disk.readText path) = [])
      (failure : context.failureFindings path (disk.readText path) =
        [context.unreadable { path, error := error.message }])

theorem isUnreadable_adjust (options : AnalysisOptions) (finding : Finding) :
    (options.adjust finding).isUnreadable = finding.isUnreadable := by
  unfold AnalysisOptions.adjust
  split
  · cases finding <;> rfl
  · rfl

theorem modelFindings_readable {options : AnalysisOptions} {path : String}
    {content : Except DiskFault String} {finding : Finding}
    (member : finding ∈ modelFindings options path content) : finding.isUnreadable = false := by
  unfold modelFindings at member
  split at member
  · rename_i model _
    obtain ⟨raw, rawMember, rfl⟩ := List.mem_map.mp member
    rw [isUnreadable_adjust]
    rcases List.mem_append.mp rawMember with atCall | atDeclaration
    · split at atCall
      · obtain ⟨_, _, rfl⟩ := List.mem_map.mp atCall
        rfl
      · cases atCall
    · split at atDeclaration
      · obtain ⟨_, _, rfl⟩ := List.mem_map.mp atDeclaration
        rfl
      · cases atDeclaration
  · cases member

theorem contributes (context : CheckContext) (options : AnalysisOptions) (disk : Disk)
    (path : String) : Contributes context options disk path := by
  cases outcome : Model.load disk path with
  | ok model =>
      rw [Model.load_eq_ofContent] at outcome
      refine .model model outcome ?_ (fun finding member => modelFindings_readable member)
        (by simp [failureFindings, outcome])
      rw [← model.rawFindings_map_adjust options]
      simp [modelFindings, outcome]
  | error error =>
      rw [Model.load_eq_ofContent] at outcome
      exact .failure error outcome (by simp [modelFindings, outcome])
        (by simp [failureFindings, outcome])

/-! ## The result of a check -/

theorem failureFindings_flatMap (context : CheckContext) (disk : Disk) (files : List String) :
    files.flatMap (fun path => context.failureFindings path (disk.readText path)) =
      (loadModels disk files).failures.map context.unreadable :=
  (loadModels_failures_map disk context.unreadable files).symm

/-- Sorting each model on its own first makes no difference. -/
theorem result_findings (context : CheckContext) (options : AnalysisOptions) (disk : Disk) :
    (context.result options (loadModels disk context.files)).findings =
      Finding.sorted (context.rawFindings options disk) := by
  have models := loadModels_models_flatMap disk
    (fun model => (model.rawFindings options).map options.adjust) context.files
  simp only [result, CheckResult.ofFindings, Model.analyze]
  rw [Finding.sorted_flatMap_sorted_append, models, ← failureFindings_flatMap]
  rfl

theorem result_unreadableCount (context : CheckContext) (options : AnalysisOptions) (disk : Disk) :
    (context.result options (loadModels disk context.files)).unreadableCount =
      (loadModels disk context.files).failures.length := by
  have inModels : (context.files.flatMap fun path =>
      modelFindings options path (disk.readText path)).countP Finding.isUnreadable = 0 := by
    rw [List.countP_eq_zero]
    intro finding member
    obtain ⟨path, _, found⟩ := List.mem_flatMap.mp member
    simp [modelFindings_readable found]
  have inFailures : ((loadModels disk context.files).failures.map context.unreadable).countP
      Finding.isUnreadable = (loadModels disk context.files).failures.length := by
    rw [List.countP_map]
    exact List.countP_eq_length.mpr fun failure _ => rfl
  rw [CheckResult.unreadableCount, result_findings, (Finding.sorted_perm _).countP_eq, rawFindings,
    List.countP_append, inModels, failureFindings_flatMap, inFailures, Nat.zero_add]

/-- What a preparation that succeeds has looked up and found. -/
theorem prepare_eq_ok_iff {disk : Disk} {request : CheckRequest} {context : CheckContext}
    {notices : List Notice} :
    prepare disk request = .ok (context, notices) ↔
      ∃ root configured fromFile, rootOf request = .ok root ∧
        Settings.load disk root = .ok (configured, fromFile) ∧
        context = {
          settings := withPaths configured request.paths, root,
          files := (scan disk root (withPaths configured request.paths).includes
            (withPaths configured request.paths).ignores).files } ∧
        notices = CheckContext.notices request root fromFile
          (scan disk root (withPaths configured request.paths).includes
            (withPaths configured request.paths).ignores) := by
  simp only [prepare, bind_eq_ok_iff, mapError_eq_ok_iff, Prod.exists]
  constructor
  · intro steps
    obtain ⟨root, isRoot, configured, fromFile, loaded, result⟩ := steps
    cases result
    exact ⟨root, configured, fromFile, isRoot, loaded, rfl, rfl⟩
  · intro steps
    obtain ⟨root, configured, fromFile, isRoot, loaded, rfl, rfl⟩ := steps
    exact ⟨root, isRoot, configured, fromFile, loaded, rfl⟩

/-- Another content in a file leaves what is looked up alone, if it is not the
settings file. -/
theorem prepare_put {disk : Disk} {request : CheckRequest} {context : CheckContext}
    {notices : List Notice} (prepared : prepare disk request = .ok (context, notices))
    {place : List String} {old : ByteArray} (file : disk.entry? place = some (.file old))
    (content : ByteArray)
    (notSettings : ∀ path, Settings.find? disk context.root = some path →
      disk.resolve path ≠ .ok ⟨place, 0⟩) :
    ∃ otherNotices,
      prepare (disk.put place (.file content)) request = .ok (context, otherNotices) := by
  obtain ⟨root, configured, fromFile, isRoot, loaded, rfl, _⟩ := prepare_eq_ok_iff.mp prepared
  refine ⟨_, prepare_eq_ok_iff.mpr ⟨root, configured, fromFile, isRoot, ?_, ?_, rfl⟩⟩
  · rw [(Disk.sameExceptAt_put file content).settings_load_eq notSettings, loaded]
  · rw [Disk.scan_files_put file content]

end CheckContext

theorem check_of_prepared {disk : Disk} {request : CheckRequest} {context : CheckContext}
    {notices : List Notice}
    (prepared : CheckContext.prepare disk request = .ok (context, notices)) :
    ∃ emitted, check disk request =
      .ok (context.result (context.settings.options request.rules)
        (loadModels disk context.files), emitted) := by
  simp only [check, prepared]
  exact ⟨_, rfl⟩

structure Composed (disk : Disk) (request : CheckRequest) (context : CheckContext)
    (result : CheckResult) : Prop where
  pathOrder : context.files.Pairwise (· < ·)
  contributions : ∀ path ∈ context.files,
    context.Contributes (context.settings.options request.rules) disk path
  modelCount : result.modelCount = context.files.length
  accounted : result.modelCount =
    (loadModels disk context.files).models.length + result.unreadableCount
  /-- One sort of all findings as they arise, -/
  findings : result.findings =
    Finding.sorted (context.rawFindings (context.settings.options request.rules) disk)
  /-- which keeps those that compare equal as they arose. -/
  stable : Finding.StableSort
    (context.rawFindings (context.settings.options request.rules) disk) result.findings
  /-- Another content in one file changes no contribution of a file elsewhere. -/
  independent : ∀ (place : List String) (old content : ByteArray),
    disk.entry? place = some (.file old) →
      ∀ path ∈ context.files, disk.resolve path ≠ .ok ⟨place, 0⟩ →
        let changed := disk.put place (.file content)
        CheckContext.modelFindings (context.settings.options request.rules) path
            (changed.readText path) =
          CheckContext.modelFindings (context.settings.options request.rules) path
            (disk.readText path) ∧
        context.failureFindings path (changed.readText path) =
          context.failureFindings path (disk.readText path)
  /-- The check of the changed disk has the same files and options, unless it is
  the settings file that was changed. -/
  sameRun : ∀ (place : List String) (old content : ByteArray),
    disk.entry? place = some (.file old) →
      (∀ path, Settings.find? disk context.root = some path →
        disk.resolve path ≠ .ok ⟨place, 0⟩) →
      ∃ notices, CheckContext.prepare (disk.put place (.file content)) request =
        .ok (context, notices)

/-- A check that is prepared is carried out, and its result is composed of the
contributions of its files. -/
theorem check_composed (disk : Disk) (request : CheckRequest) (context : CheckContext)
    (notices : List Notice)
    (prepared : CheckContext.prepare disk request = .ok (context, notices)) :
    ∃ result emitted, check disk request = .ok (result, emitted) ∧
      Composed disk request context result := by
  let options := context.settings.options request.rules
  let loaded := loadModels disk context.files
  obtain ⟨emitted, checked⟩ := check_of_prepared prepared
  refine ⟨context.result options loaded, emitted, checked, ?_⟩
  have findings := context.result_findings options disk
  exact {
    pathOrder := by
      obtain ⟨root, configured, fromFile, _, _, rfl, _⟩ :=
        CheckContext.prepare_eq_ok_iff.mp prepared
      exact scan_files_ascending _ _ _ _
    contributions := fun path _ => context.contributes options disk path
    modelCount := rfl
    accounted := by
      rw [context.result_unreadableCount options disk, loadModels_length]
      rfl
    findings
    stable := findings ▸ Finding.sorted_stableSort _
    independent := by
      intro place old content file path _ elsewhere
      have same := (Disk.sameExceptAt_put file content).readText_eq elsewhere
      exact ⟨by rw [same], by rw [same]⟩
    sameRun := fun place old content file notSettings =>
      CheckContext.prepare_put prepared file content notSettings }

def mixedDisk : Disk where
  entries := [(["w"], .directory), (["w", "b.icg.json"], .file "[".toUTF8),
    (["w", "models"], .directory), (["w", "models", "a.icg.json"], .file "\x7b\x7d".toUTF8),
    (["w", "note.txt"], .file "x".toUTF8)]
  cwd := ⟨["w"], 0⟩

def mixedContext : CheckContext where
  settings := {}
  root := "."
  files := ["./b.icg.json", "./models/a.icg.json"]

theorem check_composed_mixedDisk :
    CheckContext.prepare mixedDisk {} = .ok (mixedContext, []) ∧
      ∃ result emitted, check mixedDisk {} = .ok (result, emitted) ∧
        Composed mixedDisk {} mixedContext result :=
  ⟨rfl, check_composed mixedDisk {} mixedContext [] rfl⟩

end InterfaceLint
