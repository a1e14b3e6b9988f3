import InterfaceLint.Proofs.CheckRun.ExitStatus
import InterfaceLint.Proofs.Disk.Addition
import InterfaceLint.Proofs.Scan.Walk
import InterfaceLint.Proofs.Settings.Discovery

/-!
# Setting up changes no check

Setting up writes the default settings where there are none and leaves
everything else as it is.  The settings in force are the defaults before and
after, the new file is no model, and all models read as before, so that a
check of the working directory has the same outcome.
-/

set_option autoImplicit false

namespace InterfaceLint

/-! ## The working directory -/

/-- The working directory is at the place and has not been removed. -/
structure Disk.WorksIn (disk : Disk) (place : List String) : Prop where
  cwd : disk.cwd = ⟨place, 0⟩
  directory : disk.entry? place = some .directory

namespace Disk

variable {disk : Disk}

theorem follow_dot_eq_ok_iff {place : List String}
    (directory : disk.entry? place = some .directory) :
    disk.follow (Path.segments ".".toList) (disk.start ".") = .ok ⟨place, 0⟩ ↔
      disk.cwd = ⟨place, 0⟩ :=
  disk.follow_blanks_eq_ok_iff directory disk.cwd (by decide)

theorem WorksIn.resolve_dot {place : List String} (works : disk.WorksIn place) :
    disk.resolve "." = .ok ⟨place, 0⟩ :=
  resolve_eq_ok_iff.mpr ⟨by decide, (follow_dot_eq_ok_iff works.directory).mpr works.cwd⟩

theorem resolve_settings_eq_ok_iff {target : Position} :
    disk.resolve (Path.join "." settingsFileName) = .ok target ↔
      ∃ place, disk.WorksIn place ∧ disk.Lists place settingsFileName ∧
        target = ⟨place ++ [settingsFileName], 0⟩ := by
  have usable : pathFault? (Path.join "." settingsFileName) = none := by decide
  rw [resolve_join_eq_ok_iff isName_settingsFileName]
  constructor
  · intro leads
    obtain ⟨_, place, followed, directory, listed, same⟩ := leads
    exact ⟨place, ⟨(follow_dot_eq_ok_iff directory).mp followed, directory⟩, listed, same⟩
  · intro leads
    obtain ⟨place, works, listed, same⟩ := leads
    exact ⟨usable, place, (follow_dot_eq_ok_iff works.directory).mpr works.cwd, works.directory,
      listed, same⟩

theorem contains_settings_iff :
    disk.contains (Path.join "." settingsFileName) = true ↔
      ∃ place, disk.WorksIn place ∧ disk.Lists place settingsFileName := by
  simp [contains_iff, resolve_settings_eq_ok_iff]

/-- A text is written to the settings file if the working directory is there and
the name is not taken by a directory. -/
theorem writeText_settings_eq_ok_iff {text : String} {changed : Disk} :
    disk.writeText (Path.join "." settingsFileName) text = .ok changed ↔
      ∃ place, disk.WorksIn place ∧
        disk.entry? (place ++ [settingsFileName]) ≠ some .directory ∧
        changed = disk.put (place ++ [settingsFileName]) (.file text.toUTF8) := by
  have written : disk.writeText (Path.join "." settingsFileName) text =
      disk.follow [['.'], []] disk.cwd >>= fun directory =>
        disk.putFile directory settingsFileName.toList text.toUTF8 := rfl
  -- A segment after the working directory asks for it to be a directory.
  have followed : ∀ directory, disk.follow [['.'], []] disk.cwd = .ok directory ↔
      disk.entryAt? disk.cwd = some .directory ∧ disk.cwd = directory := by
    intro directory
    simp only [follow]
    split <;> simp_all [Path.isBlank]
  rw [written, bind_eq_ok_iff]
  simp only [followed, putFile_eq_ok_iff isName_settingsFileName.segment, String.ofList_toList]
  constructor
  · intro steps
    obtain ⟨_, ⟨directory, rfl⟩, place, cwd, _, notTaken, same⟩ := steps
    rw [cwd] at directory
    exact ⟨place, ⟨cwd, directory⟩, notTaken, same⟩
  · intro steps
    obtain ⟨place, works, notTaken, same⟩ := steps
    refine ⟨_, ⟨?_, rfl⟩, place, works.cwd, isName_settingsFileName.fits, notTaken, same⟩
    rw [works.cwd]
    exact works.directory

end Disk

/-! ## What setting up does -/

/-- How setting up can end: settings that are there are kept, else the defaults
are written, unless the working directory is gone. -/
inductive SetsUp (disk : Disk) : Disk × Transcript → Prop
  | kept (place : List String) (works : disk.WorksIn place)
      (there : disk.Lists place settingsFileName) :
      SetsUp disk (disk, SetupResult.alreadyThere.transcript)
  | created (place : List String) (works : disk.WorksIn place)
      (absent : disk.entry? (place ++ [settingsFileName]) = none) :
      SetsUp disk (disk.put (place ++ [settingsFileName]) (.file Settings.defaultText.toUTF8),
        SetupResult.created.transcript)
  | failed (fault : DiskFault) (nowhere : ∀ place, ¬ disk.WorksIn place) :
      SetsUp disk (disk, (RunError.unwritable (Path.join "." settingsFileName) fault).transcript)

theorem runSetup_setsUp (disk : Disk) : SetsUp disk (runSetup disk) := by
  unfold runSetup setup
  by_cases there : disk.contains (Path.join "." settingsFileName) = true
  · obtain ⟨place, works, listed⟩ := Disk.contains_settings_iff.mp there
    simp only [there, if_true]
    exact .kept place works listed
  · have absent : ∀ place, disk.WorksIn place →
        disk.entry? (place ++ [settingsFileName]) = none := by
      intro place works
      by_contra listed
      exact there (Disk.contains_settings_iff.mpr
        ⟨place, works, Option.isSome_iff_ne_none.mpr listed⟩)
    simp only [there, if_false, Bool.false_eq_true]
    cases written : disk.writeText (Path.join "." settingsFileName) Settings.defaultText with
    | ok changed =>
        obtain ⟨place, works, _, rfl⟩ := Disk.writeText_settings_eq_ok_iff.mp written
        exact .created place works (absent place works)
    | error fault =>
        refine .failed fault fun place works => ?_
        have notTaken : disk.entry? (place ++ [settingsFileName]) ≠ some .directory := by
          simp [absent place works]
        have succeeds : ∃ changed, disk.writeText (Path.join "." settingsFileName)
            Settings.defaultText = .ok changed :=
          ⟨_, Disk.writeText_settings_eq_ok_iff.mpr ⟨place, works, notTaken, rfl⟩⟩
        simp [written] at succeeds

/-! ## The default settings -/

namespace Settings

theorem parse_defaultText : parse defaultText = .ok {} :=
  toOption_eq_some_iff.mp (by decide +kernel)

theorem validate_default : ({} : Settings).validate = .ok () := rfl

/-- Settings with the default text are the defaults. -/
theorem read_default {disk : Disk} {path : String}
    (found : disk.find path = .ok (.file defaultText.toUTF8)) : read disk path = .ok {} := by
  simp only [read, bind_eq_ok_iff, mapError_eq_ok_iff]
  exact ⟨defaultText, Disk.readText_of_find_eq_ok found, {}, parse_defaultText, (),
    validate_default, rfl⟩

theorem load_of_find?_eq_none {disk : Disk} {start : String} (absent : find? disk start = none) :
    load disk start = .ok ({}, false) := by
  rw [load, absent]

theorem find?_dot_of_contains {disk : Disk}
    (there : disk.contains (Path.join "." settingsFileName) = true) :
    find? disk "." = some (Path.join "." settingsFileName) := by
  have parents : Path.ancestors "." = [".", ""] := by decide
  rw [find?, parents, findAmong, if_pos there]

end Settings

/-! ## Checks after an addition -/

namespace Scan

variable {disk changed : Disk} {top names : List String} {content : ByteArray} {root path : String}

/-- A file that is added and is no model changes nothing in what its root
contributes. -/
theorem at_eq_of_adds (adds : Disk.Adds (top ++ names) (.file content) disk changed)
    (below : names ≠ []) (resolved : disk.resolve root = .ok ⟨top, 0⟩)
    (directory : disk.entry? top = some .directory)
    (met : Disk.meet? root names (.file content) = some (path, .ok (.file content)))
    (noModel : isModelName path = false) (ignores : Ignores) :
    filesAt changed ignores root = filesAt disk ignores root ∧
      faultsAt changed root = faultsAt disk root := by
  have found : disk.find root = .ok .directory :=
    Disk.find_eq_ok_iff.mpr ⟨_, resolved, directory⟩
  have notFile : disk.isFile root = false := by simp [Disk.isFile, found]
  have changedNotFile : changed.isFile root = false := by
    simp [Disk.isFile, adds.find_of_eq_ok found]
  simp only [filesAt, faultsAt, notFile, changedNotFile, Bool.false_eq_true, if_false,
    adds.walk_eq below resolved directory, met]
  simp [modelFiles, faults, noModel]

end Scan

namespace Disk

variable {disk changed : Disk} {place : List String}
  (works : disk.WorksIn place)
  (adds : Adds (place ++ [settingsFileName]) (.file Settings.defaultText.toUTF8) disk changed)
include works adds

theorem WorksIn.of_adds : changed.WorksIn place where
  cwd := adds.cwd.trans works.cwd
  directory := adds.entry?_of_eq_some works.directory

theorem WorksIn.contains_settings_of_adds :
    changed.contains (Path.join "." settingsFileName) = true :=
  contains_settings_iff.mpr ⟨place, works.of_adds adds, adds.lists⟩

theorem WorksIn.load_of_adds : Settings.load changed "." = .ok ({}, true) := by
  have there := works.contains_settings_of_adds adds
  have found : changed.find (Path.join "." settingsFileName) =
      .ok (.file Settings.defaultText.toUTF8) := by
    refine find_eq_ok_iff.mpr ⟨⟨place ++ [settingsFileName], 0⟩, ?_, adds.entry?_self⟩
    exact resolve_settings_eq_ok_iff.mpr ⟨place, works.of_adds adds, adds.lists, rfl⟩
  rw [Settings.load, Settings.find?_dot_of_contains there]
  simp only [Settings.read_default found]
  rfl

theorem WorksIn.scan_of_adds : scan changed "." ["."] [] = scan disk "." ["."] [] := by
  have met : meet? "." [settingsFileName] (.file Settings.defaultText.toUTF8) =
      some (Path.join "." settingsFileName, .ok (.file Settings.defaultText.toUTF8)) :=
    Scan.meet?_eq_file_iff.mpr ⟨rfl, by decide, by decide, rfl⟩
  have noModel : isModelName (Path.join "." settingsFileName) = false := by decide
  obtain ⟨files, faults⟩ := Scan.at_eq_of_adds adds (List.cons_ne_nil _ _) works.resolve_dot
    works.directory met noModel (Ignores.ofEntries "." [])
  have here : disk.contains "." = true := contains_iff.mpr ⟨_, works.resolve_dot⟩
  have changedHere : changed.contains "." = true :=
    contains_iff.mpr ⟨_, (works.of_adds adds).resolve_dot⟩
  simp [scan, Scan.roots, Scan.missing, Scan.includePath, here, changedHere, files, faults]

end Disk

/-- With no settings before and the defaults after, a check has the same result;
only the notice that there are no settings is gone. -/
theorem check_eq_of_adds {disk changed : Disk} (tree : disk.IsTree) {place : List String}
    (works : disk.WorksIn place)
    (adds : Disk.Adds (place ++ [settingsFileName]) (.file Settings.defaultText.toUTF8)
      disk changed)
    (noSettings : Settings.find? disk "." = none) {request : CheckRequest}
    (noPaths : request.paths = []) (atDot : CheckContext.rootOf request = .ok ".") :
    ∃ result notices,
      check disk request =
        .ok (result, (if request.verbose then [.noSettingsFile] else []) ++ notices) ∧
      check changed request = .ok (result, notices) := by
  have before := Settings.load_of_find?_eq_none noSettings
  have after := works.load_of_adds adds
  have sameScan := works.scan_of_adds adds
  have sameModels : loadModels changed (scan disk "." ["."] []).files =
      loadModels disk (scan disk "." ["."] []).files :=
    loadModels_congr fun path selected =>
      adds.readText_eq (isFile_of_mem_scan_files tree selected)
  have configured : CheckContext.withPaths {} request.paths = {} := by
    simp [CheckContext.withPaths, noPaths]
  simp only [check, CheckContext.prepare, atDot, before, after, Except.mapError, bind, Except.bind,
    configured, sameScan, sameModels, pure, Except.pure]
  refine ⟨_, _, ?_, rfl⟩
  simp [CheckContext.notices]

/-- Checks of two disks have the same findings, report and exit code. -/
structure ChecksAlike (disk changed : Disk) (request : CheckRequest) : Prop where
  findings : ∃ result notices changedNotices, check disk request = .ok (result, notices) ∧
    check changed request = .ok (result, changedNotices)
  stdout : (Command.run changed (.check request)).2.stdout =
    (Command.run disk (.check request)).2.stdout
  status : (Command.run changed (.check request)).2.status =
    (Command.run disk (.check request)).2.status
  exitCode : exitCode? changed request = exitCode? disk request

theorem checksAlike_of_results {disk changed : Disk} {request : CheckRequest}
    {result : CheckResult} {notices changedNotices : List Notice}
    (checked : check disk request = .ok (result, notices))
    (changedChecked : check changed request = .ok (result, changedNotices)) :
    ChecksAlike disk changed request where
  findings := ⟨result, notices, changedNotices, checked, changedChecked⟩
  stdout := by simp [Command.run, runCheck, checked, changedChecked, CheckResult.transcript]
  status := by simp [Command.run, runCheck, checked, changedChecked, CheckResult.transcript]
  exitCode := by
    simp [exitCode?, Command.fits, runCheck, checked, changedChecked, CheckResult.transcript]

/-! ## Setting up -/

/-- The default settings are in a directory that had none, and nothing else is
different. -/
structure WritesDefaults (disk changed : Disk) (place : List String) : Prop where
  working : disk.WorksIn place
  absent : disk.entry? (place ++ [settingsFileName]) = none
  written : changed.entry? (place ++ [settingsFileName]) =
    some (.file Settings.defaultText.toUTF8)
  elsewhere : ∀ other, other ≠ place ++ [settingsFileName] →
    changed.entry? other = disk.entry? other
  cwd : changed.cwd = disk.cwd
  tree : changed.IsTree

/-- What is right of a command that sets up a disk, leaves it changed and ends with
the exit code. -/
structure SetupContract (disk changed : Disk) (code : UInt32) : Prop where
  /-- Settings that are there, whatever they are, are kept. -/
  kept : disk.contains (Path.join "." settingsFileName) = true → changed = disk ∧ code = 1
  /-- Else the defaults are written, if there is a directory to write them to, -/
  succeeds : code = 0 ↔
    disk.contains (Path.join "." settingsFileName) = false ∧ ∃ place, disk.WorksIn place
  created : code = 0 → ∃ place, WritesDefaults disk changed place
  /-- and are kept from then on. -/
  again : code = 0 →
    (Command.run changed .init).1 = changed ∧ (Command.run changed .init).2.status.code = 1
  failed : code ≠ 0 → changed = disk
  /-- A check of the working directory that had no settings stays as it was. -/
  neutral : Settings.find? disk "." = none → ∀ request : CheckRequest, request.paths = [] →
    CheckContext.rootOf request = .ok "." → ChecksAlike disk changed request

theorem run_init_of_contains {disk : Disk}
    (there : disk.contains (Path.join "." settingsFileName) = true) :
    Command.run disk .init = (disk, SetupResult.alreadyThere.transcript) := by
  simp [Command.run, runSetup, setup, there]

namespace SetupContract

variable {disk : Disk}

theorem of_kept (there : disk.contains (Path.join "." settingsFileName) = true) :
    SetupContract disk disk 1 where
  kept _ := ⟨rfl, rfl⟩
  succeeds := iff_of_false (by decide) (by simp [there])
  created success := absurd success (by decide)
  again success := absurd success (by decide)
  failed _ := rfl
  neutral := by
    intro noSettings
    rw [Settings.find?_dot_of_contains there] at noSettings
    cases noSettings

theorem of_created (tree : disk.IsTree) {place : List String} (works : disk.WorksIn place)
    (absent : disk.entry? (place ++ [settingsFileName]) = none) :
    SetupContract disk
      (disk.put (place ++ [settingsFileName]) (.file Settings.defaultText.toUTF8)) 0 := by
  have adds := Disk.adds_put absent (.file Settings.defaultText.toUTF8)
  have second := run_init_of_contains (works.contains_settings_of_adds adds)
  have notThere : disk.contains (Path.join "." settingsFileName) = false := by
    rw [← Bool.not_eq_true, Disk.contains_settings_iff]
    rintro ⟨other, otherWorks, listed⟩
    cases works.cwd.symm.trans otherWorks.cwd
    simp [Disk.Lists, absent] at listed
  exact {
    kept := fun there => by simp [notThere] at there
    succeeds := iff_of_true rfl ⟨notThere, place, works⟩
    created := fun _ => ⟨place, {
      working := works
      absent
      written := adds.entry?_self
      elsewhere := fun _ different => adds.entry?_ne different
      cwd := adds.cwd
      tree := adds.isTree tree Disk.isName_settingsFileName works.directory }⟩
    again := fun _ => by
      rw [second]
      exact ⟨rfl, rfl⟩
    failed := fun failure => absurd rfl failure
    neutral := by
      intro noSettings request noPaths atDot
      obtain ⟨result, notices, checked, changedChecked⟩ :=
        check_eq_of_adds tree works adds noSettings noPaths atDot
      exact checksAlike_of_results checked changedChecked }

theorem of_failed (nowhere : ∀ place, ¬ disk.WorksIn place) : SetupContract disk disk 2 where
  kept there := by
    obtain ⟨place, works, _⟩ := Disk.contains_settings_iff.mp there
    exact absurd works (nowhere place)
  succeeds := iff_of_false (by decide) fun ⟨_, place, works⟩ => nowhere place works
  created success := absurd success (by decide)
  again success := absurd success (by decide)
  failed _ := rfl
  neutral := by
    intro noSettings request _ atDot
    have loaded := Settings.load_of_find?_eq_none noSettings
    obtain ⟨emitted, checked⟩ := check_of_prepared
      (CheckContext.prepare_eq_ok_iff.mpr ⟨".", {}, false, atDot, loaded, rfl, rfl⟩)
    exact checksAlike_of_results checked checked

end SetupContract

/-- Setting up keeps settings that are there, writes the defaults and nothing else
where there are none, and changes no check of the working directory. -/
theorem init_setupContract (disk : Disk) (tree : disk.IsTree) :
    SetupContract disk (Command.run disk .init).1 (Command.run disk .init).2.status.code := by
  have outcome : SetsUp disk (Command.run disk .init) := runSetup_setsUp disk
  generalize Command.run disk .init = ended at outcome
  cases outcome with
  | kept place works listed =>
      exact .of_kept (Disk.contains_settings_iff.mpr ⟨place, works, listed⟩)
  | created place works absent => exact .of_created tree works absent
  | failed fault nowhere => exact .of_failed nowhere

theorem init_setupContract_mixedDisk :
    mixedDisk.IsTree ∧ Settings.find? mixedDisk "." = none ∧
      (Command.run mixedDisk .init).2.status.code = 0 ∧
      ChecksAlike mixedDisk (Command.run mixedDisk .init).1
        { verbose := true, format := .json } := by
  have tree : mixedDisk.IsTree := ⟨by decide, by decide, by decide, by decide⟩
  have noSettings : Settings.find? mixedDisk "." = none := by decide
  have contract := init_setupContract mixedDisk tree
  have absent : mixedDisk.contains (Path.join "." settingsFileName) = false := by decide
  exact ⟨tree, noSettings, contract.succeeds.mpr ⟨absent, ["w"], rfl, rfl⟩,
    contract.neutral noSettings _ rfl rfl⟩

end InterfaceLint
