import InterfaceLint.Proofs.CheckRun.ExitStatus

/-!
# Paths that lead nowhere

A check passes over those of its paths that do not exist, without a word unless
asked for details: it comes to what it would come to without them.  When no
path is left it checks nothing and passes.  So it ends with zero although a
path is missing, whenever the settings can be used and the paths that are there
give no error.
-/

set_option autoImplicit false

namespace InterfaceLint

open Text (Word)

/-! ## Scanning past missing includes -/

namespace Scan

variable {disk : Disk} {base : String} {includes : List String}

def present (disk : Disk) (base : String) (includes : List String) : List String :=
  includes.filter fun entry => disk.contains (includePath base entry)

theorem roots_eq_map_present (given : includes ≠ []) :
    roots disk base includes = (present disk base includes).map (includePath base) := by
  simp [roots, present, given, List.filter_map, Function.comp_def]

theorem roots_present (left : present disk base includes ≠ []) :
    roots disk base (present disk base includes) = roots disk base includes := by
  have given : includes ≠ [] := by
    rintro rfl
    exact left rfl
  have again : present disk base (present disk base includes) = present disk base includes := by
    simp [present]
  rw [roots_eq_map_present left, roots_eq_map_present given, again]

end Scan

theorem scan_files_present {disk : Disk} {base : String} {includes : List String}
    (left : Scan.present disk base includes ≠ []) (ignores : List String) :
    (scan disk base (Scan.present disk base includes) ignores).files =
      (scan disk base includes ignores).files := by
  simp only [scan, Scan.roots_present left]

theorem scan_files_of_none_present {disk : Disk} {base : String} {includes : List String}
    (given : includes ≠ []) (none : Scan.present disk base includes = []) (ignores : List String) :
    (scan disk base includes ignores).files = [] := by
  have noRoots : Scan.roots disk base includes = [] := by
    rw [Scan.roots_eq_map_present given, none, List.map_nil]
  simp only [scan, noRoots, List.flatMap_nil, List.foldr_nil]

/-! ## Checking past missing paths -/

def CheckRequest.presentPaths (request : CheckRequest) (disk : Disk) (root : String) : List Word :=
  request.paths.filter fun word => disk.contains (Scan.includePath root word.lossy)

namespace CheckContext

theorem withPaths_includes {settings : Settings} {paths : List Word} (given : paths ≠ []) :
    (withPaths settings paths).includes = paths.map Word.lossy := by
  simp [withPaths, given]

theorem withPaths_ignores (settings : Settings) (paths : List Word) :
    (withPaths settings paths).ignores = settings.ignores := by
  unfold withPaths
  split <;> rfl

theorem withPaths_options (settings : Settings) (paths : List Word) (rules : List Rule) :
    (withPaths settings paths).options rules = settings.options rules := by
  unfold withPaths
  split <;> rfl

theorem present_lossy (request : CheckRequest) (disk : Disk) (root : String) :
    Scan.present disk root (request.paths.map Word.lossy) =
      (request.presentPaths disk root).map Word.lossy := by
  simp [Scan.present, CheckRequest.presentPaths, List.filter_map, Function.comp_def]

/-- The result of a check is told by its root, its files and the options. -/
theorem result_congr {left right : CheckContext} (root : left.root = right.root)
    (files : left.files = right.files) (options : AnalysisOptions) (loaded : LoadedModels) :
    left.result options loaded = right.result options loaded := by
  have shown : left.unreadable = right.unreadable := by
    funext failure
    simp [unreadable, displayPath, root]
  simp [result, shown, files]

end CheckContext

theorem map_check_of_prepared {disk : Disk} {request : CheckRequest} {context : CheckContext}
    {notices : List Notice}
    (prepared : CheckContext.prepare disk request = .ok (context, notices)) :
    (check disk request).map Prod.fst =
      .ok (context.result (context.settings.options request.rules)
        (loadModels disk context.files)) := by
  rw [map_check, prepared]
  rfl

section

variable {disk : Disk} {request : CheckRequest} {context : CheckContext} {notices : List Notice}
  (given : request.paths ≠ [])
  (prepared : CheckContext.prepare disk request = .ok (context, notices))
include given prepared

theorem check_of_none_present (none : request.presentPaths disk context.root = []) :
    (check disk request).map Prod.fst = .ok ⟨[], 0⟩ := by
  have result := map_check_of_prepared prepared
  obtain ⟨root, configured, _, _, _, rfl, _⟩ := CheckContext.prepare_eq_ok_iff.mp prepared
  have includes := CheckContext.present_lossy request disk root
  rw [none, List.map_nil] at includes
  have files := scan_files_of_none_present (by simpa using given) includes configured.ignores
  rw [result]
  simp [CheckContext.withPaths_includes given, CheckContext.withPaths_ignores, files,
    CheckContext.result, CheckResult.ofFindings, loadModels, Finding.sorted]

theorem sameOutcome_present (left : request.presentPaths disk context.root ≠ []) :
    SameOutcome disk request
      { request with paths := request.presentPaths disk context.root } := by
  have result := map_check_of_prepared prepared
  obtain ⟨root, configured, fromFile, isRoot, loaded, rfl, _⟩ :=
    CheckContext.prepare_eq_ok_iff.mp prepared
  have reduced := map_check_of_prepared (CheckContext.prepare_eq_ok_iff.mpr
    ⟨root, configured, fromFile, isRoot, loaded, rfl, rfl⟩ :
      CheckContext.prepare disk { request with paths := request.presentPaths disk root } = _)
  have includes := CheckContext.present_lossy request disk root
  have files := scan_files_present (by simpa [includes] using left :
    Scan.present disk root (request.paths.map Word.lossy) ≠ []) configured.ignores
  rw [includes] at files
  -- The two contexts differ in their includes, which the result does not show.
  refine sameOutcome_of_result rfl ?_
  rw [result, reduced]
  simp only [CheckContext.withPaths_includes given, CheckContext.withPaths_includes left,
    CheckContext.withPaths_ignores, CheckContext.withPaths_options, files]
  exact congrArg Except.ok (CheckContext.result_congr rfl rfl _ _)

end

/-- A check adds details to the notices of its preparation on request only. -/
theorem emitted_of_prepared {disk : Disk} {request : CheckRequest} {context : CheckContext}
    {notices emitted : List Notice} {result : CheckResult}
    (prepared : CheckContext.prepare disk request = .ok (context, notices))
    (checked : check disk request = .ok (result, emitted)) :
    ∃ details, emitted = notices ++ if request.verbose then details else [] := by
  simp only [check, prepared] at checked
  cases checked
  exact ⟨_, rfl⟩

structure PassesOverMissing (disk : Disk) (request : CheckRequest) (context : CheckContext) :
    Prop where
  /-- It passes when no path is left, -/
  noneLeft : request.presentPaths disk context.root = [] →
    (check disk request).map Prod.fst = .ok ⟨[], 0⟩ ∧ exitCode? disk request = some 0
  /-- else it comes to the same without them. -/
  someLeft : request.presentPaths disk context.root ≠ [] →
    SameOutcome disk request { request with paths := request.presentPaths disk context.root }
  /-- They are told of on request only. -/
  untold : request.verbose = false → ∀ result emitted,
    check disk request = .ok (result, emitted) → ∀ path, .missingInclude path ∉ emitted
  told : request.verbose = true → ∀ result emitted, check disk request = .ok (result, emitted) →
    ∀ word ∈ request.paths, disk.contains (Scan.includePath context.root word.lossy) = false →
      .missingInclude (Scan.includePath context.root word.lossy) ∈ emitted

theorem passesOverMissing {disk : Disk} {request : CheckRequest} {context : CheckContext}
    {notices : List Notice} (given : request.paths ≠ [])
    (prepared : CheckContext.prepare disk request = .ok (context, notices)) :
    PassesOverMissing disk request context where
  noneLeft := by
    intro none
    have result := check_of_none_present given prepared none
    refine ⟨result, ?_⟩
    rw [exitCode?, Command.fits_check, runCheck_status, result]
    simp [CheckResult.exitStatus, CheckResult.errorCount, Finding.countOf, ExitStatus.code]
  someLeft := sameOutcome_present given prepared
  untold := by
    intro quiet result emitted checked path
    obtain ⟨details, rfl⟩ := emitted_of_prepared prepared checked
    obtain ⟨root, _, _, _, _, _, rfl⟩ := CheckContext.prepare_eq_ok_iff.mp prepared
    simp [CheckContext.notices, quiet]
  told := by
    intro verbose result emitted checked word listed missing
    obtain ⟨details, rfl⟩ := emitted_of_prepared prepared checked
    obtain ⟨root, _, _, _, _, rfl, rfl⟩ := CheckContext.prepare_eq_ok_iff.mp prepared
    have noticed : Notice.missingInclude (Scan.includePath root word.lossy) ∈
        Scan.missing disk root (request.paths.map Word.lossy) := by
      simp only [Scan.missing, List.mem_map, List.mem_filter]
      exact ⟨_, ⟨⟨_, ⟨word, listed, rfl⟩, rfl⟩, by simpa using missing⟩, rfl⟩
    simp [CheckContext.notices, verbose, scan, CheckContext.withPaths_includes given, noticed]

/-- A check of given paths passes over the missing ones.  It ends with zero just
when it is prepared and either no path is left or the check of those left ends
with zero. -/
theorem check_passes_over_missing_paths (disk : Disk) (request : CheckRequest)
    (given : request.paths ≠ []) :
    (∀ error, CheckContext.prepare disk request = .error error →
      exitCode? disk request = some 2) ∧
      (∀ context notices, CheckContext.prepare disk request = .ok (context, notices) →
        PassesOverMissing disk request context) ∧
      (exitCode? disk request = some 0 ↔
        ∃ context notices, CheckContext.prepare disk request = .ok (context, notices) ∧
          (request.presentPaths disk context.root = [] ∨
            exitCode? disk { request with paths := request.presentPaths disk context.root } =
              some 0)) := by
  have refused : ∀ error, CheckContext.prepare disk request = .error error →
      exitCode? disk request = some 2 := by
    intro error failed
    have checked : check disk request = .error error := by
      simp only [check, failed]
      rfl
    rw [exitCode?, Command.fits_check, runCheck_status, checked]
    rfl
  refine ⟨refused, fun _ _ prepared => passesOverMissing given prepared, ?_⟩
  cases prepared : CheckContext.prepare disk request with
  | error error => simp [refused error prepared]
  | ok outcome =>
      obtain ⟨context, notices⟩ := outcome
      have passes := passesOverMissing given prepared
      by_cases none : request.presentPaths disk context.root = []
      · simp [(passes.noneLeft none).2, none]
      · simp [(passes.someLeft none).exitCode, none]

def mistypedRequest : CheckRequest where
  paths := [Word.ofString "models", Word.ofString "modles"]

theorem check_passes_over_missing_paths_mixedDisk :
    mistypedRequest.paths ≠ [] ∧
      mixedDisk.contains (Scan.includePath "." "modles") = false ∧
      exitCode? mixedDisk mistypedRequest = some 0 := by
  have given : mistypedRequest.paths ≠ [] := by decide
  have left : exitCode? mixedDisk
      { mistypedRequest with paths := mistypedRequest.presentPaths mixedDisk "." } = some 0 := by
    decide +kernel
  obtain ⟨_, _, zero⟩ := check_passes_over_missing_paths mixedDisk mistypedRequest given
  exact ⟨given, by decide, zero.mpr ⟨_, _, rfl, .inr left⟩⟩

end InterfaceLint
