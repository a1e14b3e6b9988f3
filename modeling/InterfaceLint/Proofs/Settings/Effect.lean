import InterfaceLint.Proofs.Scan.Walk
import InterfaceLint.Proofs.Settings.Validation
import InterfaceLint.Proofs.Text.ByteOrder

/-!
# Valid settings take effect

A scan drops an ignore entry that does not compile, and the options of an
analysis pass over an id that names no rule.  Neither happens under settings
that are valid: all their ignore entries are in force in every scan, and all
their levels are applied to a rule.  Settings that are refused are refused
with the first entry that would be lost.
-/

set_option autoImplicit false

namespace InterfaceLint

/-! ## Ignored paths -/

namespace Ignores

/-- The entry is in force: as the pattern it compiles to, or as a path below
the base. -/
inductive Holds (ignores : Ignores) (base entry : String) : Prop
  | pattern {pattern : Glob.Pattern} (wildcard : '*' ∈ entry.toList ∨ '?' ∈ entry.toList)
      (compiled : Glob.compile entry = .ok pattern) (held : pattern ∈ ignores.patterns)
  | path (plain : '*' ∉ entry.toList ∧ '?' ∉ entry.toList)
      (held : Path.join base entry ∈ ignores.paths)

/-- The entry covers the path: as a pattern that matches its text, or as a path
that it lies under. -/
inductive EntryCovers (base entry path : String) : Prop
  | pattern {pattern : Glob.Pattern} (wildcard : '*' ∈ entry.toList ∨ '?' ∈ entry.toList)
      (compiled : Glob.compile entry = .ok pattern) (fits : pattern.matches path = true)
  | path (plain : '*' ∉ entry.toList ∧ '?' ∉ entry.toList)
      (under : Path.components (Path.join base entry) <+: Path.components path)

theorem spare_iff {base path : String} {entries : List String} :
    Spare base entries path ↔ ∀ entry ∈ entries, ¬ EntryCovers base entry path := by
  refine forall₂_congr fun entry _ => ?_
  constructor
  · rintro ⟨notUnder, noMatch⟩ covers
    cases covers with
    | pattern wildcard compiled fits => simp [noMatch wildcard _ compiled] at fits
    | path plain under => exact notUnder plain under
  · intro uncovered
    refine ⟨fun plain under => uncovered (.path plain under), fun wildcard pattern compiled => ?_⟩
    rw [Bool.eq_false_iff]
    exact fun fits => uncovered (.pattern wildcard compiled fits)

theorem holds_ofEntries_iff {base entry : String} {entries : List String}
    (listed : entry ∈ entries) :
    (ofEntries base entries).Holds base entry ↔ Settings.FitIgnore entry := by
  unfold Settings.FitIgnore
  rw [Glob.isPattern_iff]
  constructor
  · intro holds wildcard
    cases holds with
    | pattern _ compiled _ => exact ⟨_, compiled⟩
    | path plain _ => exact absurd wildcard (not_or.mpr plain)
  · intro fit
    by_cases wildcard : '*' ∈ entry.toList ∨ '?' ∈ entry.toList
    · obtain ⟨pattern, compiled⟩ := fit wildcard
      refine .pattern wildcard compiled (List.mem_filterMap.mpr ⟨entry, ?_, ?_⟩)
      · exact List.mem_filter.mpr ⟨listed, Glob.isPattern_iff.mpr wildcard⟩
      · exact toOption_eq_some_iff.mpr compiled
    · refine .path (not_or.mp wildcard) (List.mem_map_of_mem (List.mem_filter.mpr ⟨listed, ?_⟩))
      rw [Bool.not_eq_true', Bool.eq_false_iff, ne_eq, Glob.isPattern_iff]
      exact wildcard

theorem notices_eq_nil {entries : List String}
    (fit : ∀ entry ∈ entries, Settings.FitIgnore entry) : notices entries = [] := by
  refine List.filterMap_eq_nil_iff.mpr fun entry member => ?_
  obtain ⟨listed, isPattern⟩ := List.mem_filter.mp member
  obtain ⟨pattern, compiled⟩ := fit entry listed isPattern
  simp only [compiled]

end Ignores

theorem Scan.exists_inaccessible_of_mem_faultsAt {disk : Disk} {root : String} {notice : Notice}
    (member : notice ∈ Scan.faultsAt disk root) :
    ∃ path fault, notice = .inaccessible path fault := by
  unfold Scan.faultsAt at member
  split at member
  · cases member
  · obtain ⟨⟨path, entry⟩, _, told⟩ := List.mem_filterMap.mp member
    cases entry with
    | ok entry => cases told
    | error fault => exact ⟨path, fault, (Option.some.inj told).symm⟩

theorem scan_tells_no_invalidIgnore {ignores : List String}
    (fit : ∀ entry ∈ ignores, Settings.FitIgnore entry) (disk : Disk) (base : String)
    (includes : List String) (entry : String) (error : Glob.Error) :
    .invalidIgnore entry error ∉ (scan disk base includes ignores).notices := by
  intro told
  simp only [scan, Ignores.notices_eq_nil fit, List.nil_append, List.mem_append, Scan.missing,
    List.mem_map, reduceCtorEq, and_false, exists_false, false_or, List.mem_flatMap] at told
  obtain ⟨root, _, member⟩ := told
  obtain ⟨path, fault, same⟩ := Scan.exists_inaccessible_of_mem_faultsAt member
  cases same

/-- The ignore entries take away from a scan what they cover, apart from single
files among the includes. -/
theorem mem_scan_files_iff_uncovered {disk : Disk} {base path : String}
    {includes ignores : List String} :
    path ∈ (scan disk base includes ignores).files ↔
      path ∈ (scan disk base includes []).files ∧
        ((path ∈ Scan.roots disk base includes ∧ disk.isFile path = true) ∨
          ∀ entry ∈ ignores, ¬ Ignores.EntryCovers base entry path) := by
  simp only [mem_scan_files_iff, Scan.mem_filesAt_iff, Ignores.covers_ofEntries_eq_false_iff,
    Ignores.spare_iff, List.not_mem_nil, false_implies, implies_true, true_and]
  constructor
  · rintro ⟨root, isRoot, ⟨isFile, rfl⟩ | ⟨notFile, isModel, uncovered, meets⟩⟩
    · exact ⟨⟨path, isRoot, .inl ⟨isFile, rfl⟩⟩, .inl ⟨isRoot, isFile⟩⟩
    · exact ⟨⟨root, isRoot, .inr ⟨notFile, isModel, meets⟩⟩, .inr uncovered⟩
  · rintro ⟨⟨root, isRoot, contributes⟩, ⟨single, isFile⟩ | uncovered⟩
    · exact ⟨path, single, .inl ⟨isFile, rfl⟩⟩
    · refine ⟨root, isRoot, contributes.imp_right ?_⟩
      rintro ⟨notFile, isModel, meets⟩
      exact ⟨notFile, isModel, uncovered, meets⟩

/-! ## Levels -/

def AnalysisOptions.setLevel (options : AnalysisOptions) (rule : Rule) (level : Level) :
    AnalysisOptions :=
  match level.severity? with
  | some severity => options.override rule severity
  | none => options.disable rule

/-- The rule that an entry of the table is about, with the level given to it. -/
structure Rule.IsMeant (entry : String × Level) (meant : Rule × Level) : Prop where
  analyzed : meant.1 ∈ Rule.analyzed
  spelled : Rule.sameUpToCase meant.1.id entry.1 = true
  level : meant.2 = entry.2

theorem AnalysisOptions.applyLevel_of_isMeant {entry : String × Level} {meant : Rule × Level}
    (isMeant : Rule.IsMeant entry meant) (options : AnalysisOptions) :
    options.applyLevel entry.1 entry.2 = options.setLevel meant.1 meant.2 := by
  have named := Rule.ofId?_eq_some_iff.mpr ⟨isMeant.analyzed, isMeant.spelled⟩
  rw [applyLevel, named, isMeant.level]
  rfl

theorem AnalysisOptions.applyLevels_of_isMeant {entries : List (String × Level)}
    {meant : List (Rule × Level)} (isMeant : List.Forall₂ Rule.IsMeant entries meant) :
    ∀ options : AnalysisOptions, options.applyLevels entries =
      meant.foldl (fun options item => options.setLevel item.1 item.2) options := by
  induction isMeant with
  | nil =>
      intro options
      rfl
  | @cons entry item entries meant first _ induction =>
      intro options
      have rest := induction (options.applyLevel entry.1 entry.2)
      rw [applyLevel_of_isMeant first] at rest
      calc
        options.applyLevels (entry :: entries)
            = (options.applyLevel entry.1 entry.2).applyLevels entries := rfl
        _ = (options.setLevel item.1 item.2).applyLevels entries := by
            rw [applyLevel_of_isMeant first]
        _ = _ := rest

theorem exists_isMeant_iff {entries : List (String × Level)} :
    (∃ meant, List.Forall₂ Rule.IsMeant entries meant) ↔
      ∀ entry ∈ entries, Settings.KnownId entry.1 := by
  induction entries with
  | nil => exact iff_of_true ⟨[], .nil⟩ (by simp)
  | cons entry entries induction =>
      rw [List.forall_mem_cons, ← induction]
      constructor
      · rintro ⟨_, isMeant⟩
        cases isMeant with
        | cons first rest => exact ⟨⟨_, first.analyzed, first.spelled⟩, _, rest⟩
      · rintro ⟨⟨rule, analyzed, spelled⟩, meant, rest⟩
        exact ⟨(rule, entry.2) :: meant, .cons ⟨analyzed, spelled, rfl⟩ rest⟩

/-! ## Settings as a whole -/

def SettingsError.subject : SettingsError → String
  | .invalidIgnore pattern _ => pattern
  | .unknownRule id => id

theorem SettingsError.message_quotes_subject (fault : SettingsError) :
    ∃ before after, fault.message = before ++ "\"" ++ fault.subject ++ "\"" ++ after := by
  cases fault with
  | invalidIgnore pattern error =>
      have text : (invalidIgnore pattern error).message = "Invalid glob pattern in 'ignores': " ++
          "\"" ++ pattern ++ ("\"" ++ ": ") ++ error.message := rfl
      refine ⟨"Invalid glob pattern in 'ignores': ", ": " ++ error.message, text.trans ?_⟩
      simp only [subject, String.append_assoc]
  | unknownRule id =>
      have text : (unknownRule id).message =
          "Unknown rule in 'rules': " ++ "\"" ++ id ++ "\"" := rfl
      exact ⟨"Unknown rule in 'rules': ", "", text.trans String.append_empty.symm⟩

namespace Settings

/-- Every ignore entry is in force in every scan and every level is applied to
the rule that its id names. -/
structure LosesNothing (settings : Settings) : Prop where
  held : ∀ base, ∀ entry ∈ settings.ignores,
    (Ignores.ofEntries base settings.ignores).Holds base entry
  untold : ∀ disk base includes entry error,
    .invalidIgnore entry error ∉ (scan disk base includes settings.ignores).notices
  covered : ∀ disk base includes path,
    path ∈ (scan disk base includes settings.ignores).files ↔
      path ∈ (scan disk base includes []).files ∧
        ((path ∈ Scan.roots disk base includes ∧ disk.isFile path = true) ∨
          ∀ entry ∈ settings.ignores, ¬ Ignores.EntryCovers base entry path)
  applied : ∃ meant, List.Forall₂ Rule.IsMeant settings.levels.entries meant ∧
    ∀ selected, settings.options selected =
      meant.foldl (fun options item => options.setLevel item.1 item.2)
        (AnalysisOptions.restrict { AnalysisOptions.default with
          analyzeGenerated := settings.analyzeGenerated } selected)

/-- The fault of settings that are refused: the first one, ignore entries in their
order before ids in the order of their bytes, with what it is about in its text. -/
structure RefusedWith (settings : Settings) (fault : SettingsError) : Prop where
  first : settings.FirstFault fault
  least : ∀ id, fault = .unknownRule id → ∀ entry ∈ settings.levels.entries,
    ¬ KnownId entry.1 → Text.bytes id ≤ Text.bytes entry.1
  quoted : ∃ before after, fault.message = before ++ "\"" ++ fault.subject ++ "\"" ++ after

theorem losesNothing_iff {settings : Settings} : settings.LosesNothing ↔ settings.Valid := by
  constructor
  · intro nothing
    obtain ⟨meant, isMeant, _⟩ := nothing.applied
    exact {
      ignores := fun entry listed =>
        (Ignores.holds_ofEntries_iff listed).mp (nothing.held "." entry listed)
      ids := exists_isMeant_iff.mp ⟨meant, isMeant⟩ }
  · intro valid
    obtain ⟨meant, isMeant⟩ := exists_isMeant_iff.mpr valid.ids
    exact {
      held := fun base entry listed =>
        (Ignores.holds_ofEntries_iff listed).mpr (valid.ignores entry listed)
      untold := scan_tells_no_invalidIgnore valid.ignores
      covered := fun disk base includes path => mem_scan_files_iff_uncovered
      applied := ⟨meant, isMeant, fun selected =>
        AnalysisOptions.applyLevels_of_isMeant isMeant _⟩ }

/-- Ids stand in ascending order, so the first that names no rule is the least. -/
theorem FirstFault.least {settings : Settings} {id : String}
    (fault : settings.FirstFault (.unknownRule id)) {entry : String × Level}
    (listed : entry ∈ settings.levels.entries) (unknown : ¬ KnownId entry.1) :
    Text.bytes id ≤ Text.bytes entry.1 := by
  rw [Text.bytes_le_iff]
  cases fault with
  | @id before after _ level _ split fine _ =>
      have ascending := settings.levels.ascending
      rw [split] at ascending listed
      have above := (List.pairwise_cons.mp (List.pairwise_append.mp ascending).2.1).1
      rcases List.mem_append.mp listed with passed | listed
      · exact absurd (fine entry passed) unknown
      · rcases List.mem_cons.mp listed with rfl | later
        · exact le_refl _
        · exact (above entry later).le

theorem refusedWith_iff {settings : Settings} {fault : SettingsError} :
    settings.RefusedWith fault ↔ settings.FirstFault fault := by
  constructor
  · exact RefusedWith.first
  · intro first
    refine ⟨first, ?_, fault.message_quotes_subject⟩
    rintro id rfl entry listed unknown
    exact first.least listed unknown

end Settings

/-- Validation accepts exactly the settings that lose no entry, and refuses any
other with the first entry that would be lost. -/
theorem validated_settings_lose_nothing (settings : Settings) :
    (settings.validate = .ok () ↔ settings.LosesNothing) ∧
      ∀ fault, settings.validate = .error fault ↔ settings.RefusedWith fault := by
  refine ⟨?_, fun fault => ?_⟩
  · rw [Settings.validate_eq_ok_iff, Settings.losesNothing_iff]
  · rw [Settings.validate_eq_error_iff, Settings.refusedWith_iff]

/-- A bracket without a wildcard makes no pattern, so the first entry is a path;
of the two others the first is told, before any id. -/
example : ({ ignores := ["[a", "b?[", "***"], levels := .ofList [("x", .off)] } : Settings).validate
    = .error (.invalidIgnore "b?[" ⟨2, .invalidClass⟩) := by decide

end InterfaceLint
