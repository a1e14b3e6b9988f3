import InterfaceLint.Proofs.Disk.Tree
import InterfaceLint.Proofs.Scan.Selection
import InterfaceLint.Settings.Lookup

/-!
# Replacing the content of a file

When another content is put where a file already is, every path leads where
it led before, the same files and directories are met, and every other file
reads as before.  What a run looks up by name alone cannot tell the disks
apart.
-/

set_option autoImplicit false

namespace InterfaceLint.Disk

theorem lookup_filter_ne {place other : List String} (different : other ≠ place) :
    ∀ entries : List (List String × Entry),
      (entries.filter fun (names, _) => names != place).lookup other = entries.lookup other := by
  intro entries
  induction entries with
  | nil => rfl
  | cons first entries induction =>
      obtain ⟨names, entry⟩ := first
      by_cases here : names = place
      · have notOther : (other == place) = false := beq_eq_false_iff_ne.mpr different
        simp [here, notOther, List.lookup_cons, induction]
      · simp [here, List.lookup_cons, induction]

theorem lookup_filter_self (place : List String) : ∀ entries : List (List String × Entry),
    (entries.filter fun (names, _) => names != place).lookup place = none := by
  intro entries
  rw [List.lookup_eq_none_iff]
  intro entry member
  rw [bne_comm]
  exact (List.mem_filter.mp member).2

theorem entry?_put_self (disk : Disk) {place : List String} (nonempty : place ≠ [])
    (entry : Entry) : Disk.entry? (disk.put place entry) place = some entry := by
  rw [entry?_of_ne_nil _ nonempty]
  simp [put, List.lookup_append, lookup_filter_self]

theorem entry?_put_ne (disk : Disk) {place other : List String} (different : other ≠ place)
    (entry : Entry) : Disk.entry? (disk.put place entry) other = disk.entry? other := by
  have notPlace : (other == place) = false := by simp [different]
  apply entry?_congr
  simp [put, List.lookup_append, lookup_filter_ne different, List.lookup_cons, notPlace]

theorem ne_nil_of_file {disk : Disk} {place : List String} {content : ByteArray}
    (file : disk.entry? place = some (.file content)) : place ≠ [] := by
  rintro rfl
  simp at file

/-- Both disks hold the same files and directories, and the content of a file
differs at most at `place`. -/
structure SameExceptAt (place : List String) (disk changed : Disk) : Prop where
  cwd : changed.cwd = disk.cwd
  elsewhere : ∀ other, other ≠ place → changed.entry? other = disk.entry? other
  file : ∃ content, disk.entry? place = some (.file content)
  changedFile : ∃ content, changed.entry? place = some (.file content)

theorem sameExceptAt_put {disk : Disk} {place : List String} {old : ByteArray}
    (file : disk.entry? place = some (.file old)) (content : ByteArray) :
    SameExceptAt place disk (disk.put place (.file content)) where
  cwd := rfl
  elsewhere := fun _ different => disk.entry?_put_ne different _
  file := ⟨old, file⟩
  changedFile := ⟨content, disk.entry?_put_self (ne_nil_of_file file) _⟩

namespace SameExceptAt

variable {place : List String} {disk changed : Disk} (same : SameExceptAt place disk changed)
include same

/-- At a position both disks have the same entry, or a file each. -/
theorem entryAt?_cases (position : Position) :
    changed.entryAt? position = disk.entryAt? position ∨
      (position = ⟨place, 0⟩ ∧ (∃ old, disk.entryAt? position = some (.file old)) ∧
        ∃ content, changed.entryAt? position = some (.file content)) := by
  obtain ⟨names, removed⟩ := position
  by_cases gone : removed = 0
  · subst gone
    by_cases here : names = place
    · subst here
      exact .inr ⟨rfl, by simpa [entryAt?, Position.isRemoved] using same.file,
        by simpa [entryAt?, Position.isRemoved] using same.changedFile⟩
    · exact .inl (by simpa [entryAt?, Position.isRemoved] using same.elsewhere names here)
  · exact .inl (by simp [entryAt?, Position.isRemoved, gone])

theorem entry?_isSome (names : List String) :
    (changed.entry? names).isSome = (disk.entry? names).isSome := by
  by_cases here : names = place
  · obtain ⟨old, file⟩ := same.file
    obtain ⟨content, changedFile⟩ := same.changedFile
    simp [here, file, changedFile]
  · rw [same.elsewhere names here]

theorem enter_eq (position : Position) (name : String) :
    changed.enter position name = disk.enter position name := by
  simp only [enter, same.entry?_isSome]

/-- Following segments asks for the kind of entries only. -/
theorem follow_eq : ∀ (segments : List (List Char)) (position : Position),
    changed.follow segments position = disk.follow segments position := by
  intro segments
  induction segments with
  | nil => intro position; rfl
  | cons segment segments induction =>
      intro position
      rcases same.entryAt?_cases position with equal | ⟨_, ⟨old, file⟩, content, changedFile⟩
      · simp only [follow, equal, same.enter_eq, induction]
      · simp only [follow, file, changedFile]

theorem resolve_eq (path : String) : changed.resolve path = disk.resolve path := by
  simp only [resolve, origin, same.cwd, same.follow_eq]

theorem contains_eq (path : String) : changed.contains path = disk.contains path := by
  simp only [contains, same.resolve_eq]

theorem find_eq {path : String} (elsewhere : disk.resolve path ≠ .ok ⟨place, 0⟩) :
    changed.find path = disk.find path := by
  simp only [find, same.resolve_eq]
  cases resolved : disk.resolve path with
  | error fault => rfl
  | ok position =>
      rcases same.entryAt?_cases position with equal | ⟨here, _⟩
      · simp only [bind, Except.bind, equal]
      · exact absurd (here ▸ resolved) elsewhere

theorem isFile_eq (path : String) : changed.isFile path = disk.isFile path := by
  by_cases here : disk.resolve path = .ok ⟨place, 0⟩
  · obtain ⟨old, file⟩ := same.file
    obtain ⟨content, changedFile⟩ := same.changedFile
    simp [isFile, find, same.resolve_eq, here, bind, Except.bind, entryAt?, Position.isRemoved,
      file, changedFile]
  · simp only [isFile, same.find_eq here]

theorem readText_eq {path : String} (elsewhere : disk.resolve path ≠ .ok ⟨place, 0⟩) :
    changed.readText path = disk.readText path := by
  simp only [readText, read, same.find_eq elsewhere]

/-- The settings file is looked for by name, so the same one is found. -/
theorem settings_find?_eq (start : String) :
    Settings.find? changed start = Settings.find? disk start := by
  unfold Settings.find?
  induction Path.ancestors start with
  | nil => rfl
  | cons directory directories induction =>
      simp only [Settings.findAmong, same.contains_eq, induction]

theorem settings_load_eq {start : String}
    (notSettings : ∀ path, Settings.find? disk start = some path →
      disk.resolve path ≠ .ok ⟨place, 0⟩) :
    Settings.load changed start = Settings.load disk start := by
  simp only [Settings.load, same.settings_find?_eq]
  cases found : Settings.find? disk start with
  | none => rfl
  | some path => simp only [Settings.read, same.readText_eq (notSettings path found)]

end SameExceptAt

/-! ## Scans -/

/-- A place holds a file after the replacement exactly when it did before. -/
theorem exists_file_mem_put_iff {disk : Disk} {place : List String} {old : ByteArray}
    (file : disk.entry? place = some (.file old)) (content : ByteArray) (names : List String) :
    (∃ found, (names, .file found) ∈ (disk.put place (.file content)).entries) ↔
      ∃ found, (names, .file found) ∈ disk.entries := by
  have listed := mem_of_entry?_eq_some file (ne_nil_of_file file)
  by_cases here : names = place
  · subst here
    exact iff_of_true ⟨content, by simp [put]⟩ ⟨old, listed⟩
  · simp [put, here]

theorem meetsFile_put_iff {disk : Disk} {place : List String} {old : ByteArray}
    (file : disk.entry? place = some (.file old)) (content : ByteArray) (root path : String) :
    (∃ found position names,
        Scan.MeetsFile (disk.put place (.file content)) root path position names found) ↔
      ∃ found position names, Scan.MeetsFile disk root path position names found := by
  have same := sameExceptAt_put file content
  constructor
  · intro met
    obtain ⟨found, position, names, meets⟩ := met
    obtain ⟨other, listed⟩ := (exists_file_mem_put_iff file content _).mp ⟨found, meets.listed⟩
    exact ⟨other, position, names,
      { meets with resolved := (same.resolve_eq root).symm.trans meets.resolved, listed }⟩
  · intro met
    obtain ⟨found, position, names, meets⟩ := met
    obtain ⟨other, listed⟩ := (exists_file_mem_put_iff file content _).mpr ⟨found, meets.listed⟩
    exact ⟨other, position, names,
      { meets with resolved := (same.resolve_eq root).trans meets.resolved, listed }⟩

/-- A scan selects the same files after the replacement. -/
theorem scan_files_put {disk : Disk} {place : List String} {old : ByteArray}
    (file : disk.entry? place = some (.file old)) (content : ByteArray) (base : String)
    (includes ignores : List String) :
    (scan (disk.put place (.file content)) base includes ignores).files =
      (scan disk base includes ignores).files := by
  have same := sameExceptAt_put file content
  refine ascending_eq_of_mem_iff (scan_files_ascending _ _ _ _) (scan_files_ascending _ _ _ _) ?_
  intro path
  have sameRoots : Scan.roots (disk.put place (.file content)) base includes =
      Scan.roots disk base includes := by
    unfold Scan.roots
    split
    · rfl
    · exact List.filter_congr fun root _ => same.contains_eq root
  simp only [mem_scan_files_iff, sameRoots, Scan.mem_filesAt_iff, same.isFile_eq,
    meetsFile_put_iff file content]

end InterfaceLint.Disk
