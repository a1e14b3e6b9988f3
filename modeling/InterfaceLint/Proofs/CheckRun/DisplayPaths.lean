import InterfaceLint.Proofs.CheckRun.ExitStatus
import InterfaceLint.Proofs.Disk.Components
import InterfaceLint.Proofs.Disk.Spelling
import InterfaceLint.Proofs.Scan.Walk

/-!
# How a check names files that cannot be read

A file is shown by what is left of its path after the root, or by its whole path
if that does not start with the root.  Whatever a scan selects lies below the
root or is absolute, so what is shown, joined to the root, leads to the file
again.  Only a file that is itself the root has nothing left to be shown by.
-/

set_option autoImplicit false

namespace InterfaceLint

/-! ## What a scan selects -/

namespace Path

/-- The path has the components of the root in front, or stands for itself. -/
def Within (root path : String) : Prop :=
  components root <+: components path ∨ isAbsolute path = true

theorem join_of_isAbsolute {rest : String} (absolute : isAbsolute rest = true) (base : String) :
    join base rest = rest :=
  if_pos absolute

theorem Within.join {root base : String} (within : Within root base) (rest : String) :
    Within root (join base rest) := by
  by_cases absolute : isAbsolute rest = true
  · rw [join_of_isAbsolute absolute]
    exact .inr absolute
  · rw [Bool.not_eq_true] at absolute
    rcases within with below | baseAbsolute
    · exact .inl (below.trans (components_isPrefix_join base absolute))
    · exact .inr ((isAbsolute_join base absolute).trans baseAbsolute)

theorem Within.textBelow {root : String} : ∀ {names : List String} {base : String},
    Within root base → Within root (Disk.textBelow base names) := by
  intro names
  induction names with
  | nil => intro base within; exact within
  | cons name names induction => intro base within; exact induction (within.join name)

end Path

theorem Scan.within_of_mem_roots {disk : Disk} {base root : String} {includes : List String}
    (isRoot : root ∈ Scan.roots disk base includes) : Path.Within base root := by
  have itself : Path.Within base base := .inl (List.prefix_refl _)
  unfold Scan.roots at isRoot
  split at isRoot
  · cases List.mem_singleton.mp isRoot
    exact itself
  · obtain ⟨entry, _, rfl⟩ := List.mem_map.mp (List.mem_filter.mp isRoot).1
    unfold Scan.includePath
    split
    · exact itself
    · exact itself.join entry

theorem within_of_mem_scan_files {disk : Disk} {base path : String}
    {includes ignores : List String} (selected : path ∈ (scan disk base includes ignores).files) :
    Path.Within base path := by
  obtain ⟨root, isRoot, contributed⟩ := mem_scan_files_iff.mp selected
  have within := Scan.within_of_mem_roots isRoot
  rcases Scan.mem_filesAt_iff.mp contributed with ⟨_, rfl⟩ | ⟨_, _, _, _, _, _, meets⟩
  · exact within
  · rw [meets.text]
    exact within.textBelow

/-! ## What is shown -/

structure ShownAs (disk : Disk) (root path shown : String) : Prop where
  components : Path.components (Path.join root shown) = Path.components path
  empty_iff : shown = "" ↔ Path.components path = Path.components root
  located : ∀ place, shown ≠ "" → (Path.join root shown).utf8ByteSize ≤ Disk.maxPathSize →
    disk.LeadsToFile path place → disk.LeadsToFile (Path.join root shown) place

theorem ShownAs.of_isRest {disk : Disk} {root path rest : String}
    (isRest : Path.IsRest path root rest) : ShownAs disk root path rest where
  components := isRest.components
  empty_iff := isRest.empty_iff
  located := by
    intro place nonempty fits leads
    have isFile := Disk.exists_leadsToFile_iff.mp ⟨place, leads⟩
    have filled := isRest.endsFilled (Disk.endsFilled_of_isFile isFile) nonempty
    exact ⟨Disk.resolve_eq_of_components_eq isRest.components.symm filled fits leads.1, leads.2⟩

/-- An absolute path is shown as it is. -/
theorem ShownAs.of_isAbsolute {disk : Disk} {root path : String}
    (absolute : Path.isAbsolute path = true)
    (apart : ¬ Path.components root <+: Path.components path) : ShownAs disk root path path where
  components := by rw [Path.join_of_isAbsolute absolute]
  empty_iff := by
    refine iff_of_false ?_ fun same => apart (same ▸ List.prefix_refl _)
    rintro rfl
    cases absolute
  located := by
    intro place _ _ leads
    rwa [Path.join_of_isAbsolute absolute]

/-- Only a file at the root is shown by nothing. -/
theorem ShownAs.ne_empty_of_directory {disk : Disk} {root path shown : String}
    (shownAs : ShownAs disk root path shown) (directory : disk.find root = .ok .directory)
    (isFile : disk.isFile path = true) : shown ≠ "" := by
  intro empty
  obtain ⟨place, content, leads, file⟩ := Disk.isFile_iff.mp isFile
  obtain ⟨position, rootLeads, isDirectory⟩ := Disk.find_eq_ok_iff.mp directory
  obtain rfl := Disk.position_eq_of_components_eq (shownAs.empty_iff.mp empty) leads rootLeads
  rw [Disk.entryAt?_present, file] at isDirectory
  cases isDirectory

namespace CheckContext

theorem shownAs_displayPath {disk : Disk} {context : CheckContext} {path : String}
    (within : Path.Within context.root path) :
    ShownAs disk context.root path (context.displayPath path) := by
  unfold displayPath
  cases stripped : Path.strip? path context.root with
  | some rest => exact .of_isRest (Path.isRest_of_strip? stripped)
  | none =>
      have apart := Path.strip?_eq_none_iff.mp stripped
      exact .of_isAbsolute (within.resolve_left apart) apart

theorem files_of_prepared {disk : Disk} {request : CheckRequest} {context : CheckContext}
    {notices : List Notice} (prepared : prepare disk request = .ok (context, notices)) :
    context.files =
      (scan disk context.root context.settings.includes context.settings.ignores).files := by
  obtain ⟨root, configured, fromFile, _, _, rfl, _⟩ := prepare_eq_ok_iff.mp prepared
  rfl

theorem unreadable_mem_findings_iff {context : CheckContext} {options : AnalysisOptions}
    {disk : Disk} {model : UnreadableModel} :
    .unreadable model ∈ (context.result options (loadModels disk context.files)).findings ↔
      ∃ path ∈ context.files, ∃ error, Model.load disk path = .error error ∧
        model = { path := context.displayPath path, error := error.message } := by
  have notInModels : .unreadable model ∉ context.files.flatMap fun path =>
      modelFindings options path (disk.readText path) := by
    intro member
    obtain ⟨path, _, found⟩ := List.mem_flatMap.mp member
    cases modelFindings_readable found
  rw [result_findings, (Finding.sorted_perm _).mem_iff, rawFindings, List.mem_append,
    or_iff_right notInModels, List.mem_flatMap]
  simp only [mem_failureFindings_iff, unreadable, Finding.unreadable.injEq]

structure NamesFiles (context : CheckContext) (disk : Disk) (result : CheckResult) : Prop where
  shown : ∀ path ∈ context.files, ShownAs disk context.root path (context.displayPath path)
  reported : ∀ model, .unreadable model ∈ result.findings ↔
    ∃ path ∈ context.files, ∃ error, Model.load disk path = .error error ∧
      model = { path := context.displayPath path, error := error.message }
  named : disk.IsTree → disk.find context.root = .ok .directory →
    ∀ path ∈ context.files, context.displayPath path ≠ ""
  /-- A root that is a file is selected for itself and shown by nothing. -/
  unnamed : disk.isFile context.root = true →
    (context.settings.includes = [] ∨ "." ∈ context.settings.includes) →
      context.root ∈ context.files ∧ context.displayPath context.root = ""

end CheckContext

/-- A check shows every file by a path that leads to it from the root, unless the
file is the root itself. -/
theorem check_names_unreadable_files (disk : Disk) (request : CheckRequest)
    (context : CheckContext) (notices : List Notice)
    (prepared : CheckContext.prepare disk request = .ok (context, notices)) :
    ∃ result emitted, check disk request = .ok (result, emitted) ∧
      context.NamesFiles disk result := by
  obtain ⟨emitted, checked⟩ := check_of_prepared prepared
  have files := CheckContext.files_of_prepared prepared
  have shown : ∀ path, Path.Within context.root path →
      ShownAs disk context.root path (context.displayPath path) :=
    fun path => CheckContext.shownAs_displayPath
  refine ⟨_, emitted, checked, ?_⟩
  exact {
    shown := by
      intro path selected
      rw [files] at selected
      exact shown path (within_of_mem_scan_files selected)
    reported := fun model => CheckContext.unreadable_mem_findings_iff
    named := by
      intro tree directory path selected
      rw [files] at selected
      exact (shown path (within_of_mem_scan_files selected)).ne_empty_of_directory directory
        (isFile_of_mem_scan_files tree selected)
    unnamed := by
      intro isFile included
      have atRoot := shown context.root (.inl (List.prefix_refl _))
      refine ⟨?_, atRoot.empty_iff.mpr rfl⟩
      obtain ⟨place, _, leads, _⟩ := Disk.isFile_iff.mp isFile
      have present : disk.contains context.root = true := Disk.contains_iff.mpr ⟨_, leads⟩
      have isRoot : Scan.IsRoot context.root context.settings.includes context.root :=
        included.elim .base .dot
      rw [files]
      exact mem_scan_files_iff.mpr ⟨context.root, (Scan.mem_roots_iff present).mpr isRoot,
        Scan.mem_filesAt_iff.mpr (.inl ⟨isFile, rfl⟩)⟩ }

theorem check_names_unreadable_files_mixedDisk :
    CheckContext.prepare mixedDisk {} = .ok (mixedContext, []) ∧
      ∃ result emitted, check mixedDisk {} = .ok (result, emitted) ∧
        mixedContext.NamesFiles mixedDisk result :=
  ⟨rfl, check_names_unreadable_files mixedDisk {} mixedContext [] rfl⟩

def brokenDisk : Disk where
  entries := [(["w"], .directory), (["w", "m.icg.json"], .file "[".toUTF8)]
  cwd := ⟨["w"], 0⟩

def brokenRequest : CheckRequest where
  root := some (Text.Word.ofString "m.icg.json")

def brokenContext : CheckContext where
  settings := {}
  root := "m.icg.json"
  files := ["m.icg.json"]

/-- The file is reported under the empty path. -/
theorem brokenDisk_unnamed :
    CheckContext.prepare brokenDisk brokenRequest = .ok (brokenContext, []) ∧
      ∃ result emitted error, check brokenDisk brokenRequest = .ok (result, emitted) ∧
        .unreadable { path := "", error } ∈ result.findings := by
  have prepared : CheckContext.prepare brokenDisk brokenRequest = .ok (brokenContext, []) := rfl
  obtain ⟨emitted, checked⟩ := check_of_prepared prepared
  have isRead : brokenDisk.readText "m.icg.json" = .ok "[" := Disk.readText_of_find_eq_ok rfl
  have failed : ∃ error, Model.load brokenDisk "m.icg.json" = .error error := by
    rw [Model.load_eq_ofContent, isRead]
    exact ⟨_, rfl⟩
  obtain ⟨error, failed⟩ := failed
  refine ⟨prepared, _, emitted, error.message, checked, ?_⟩
  exact CheckContext.unreadable_mem_findings_iff.mpr
    ⟨"m.icg.json", List.mem_singleton_self _, error, failed, rfl⟩

end InterfaceLint
