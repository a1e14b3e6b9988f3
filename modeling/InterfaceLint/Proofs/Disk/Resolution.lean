import InterfaceLint.Disk
import InterfaceLint.Proofs.Outcome
import InterfaceLint.Proofs.Path.Segments

/-!
# Where path texts lead

A path text is followed segment by segment, so a name joined to a path leads
one step further than the path does.  Whether a text can be used at all is
seen from its characters and its size, and holds of every beginning of it.
-/

set_option autoImplicit false

namespace InterfaceLint.Disk

structure IsName (name : String) : Prop where
  segment : Path.IsEntrySegment name.toList
  noNul : '\x00' ∉ name.toList
  fits : name.utf8ByteSize ≤ maxNameSize

def Lists (disk : Disk) (place : List String) (name : String) : Prop :=
  (disk.entry? (place ++ [name])).isSome = true

instance (disk : Disk) (place : List String) (name : String) : Decidable (disk.Lists place name) :=
  inferInstanceAs (Decidable ((disk.entry? (place ++ [name])).isSome = true))

theorem IsName.isAbsolute {name : String} (isName : IsName name) : Path.isAbsolute name = false :=
  Path.isAbsolute_of_isEntrySegment isName.segment

/-! ## Entries of the table -/

@[simp]
theorem entry?_nil (disk : Disk) : disk.entry? [] = some .directory := rfl

theorem entry?_of_ne_nil (disk : Disk) {place : List String} (nonempty : place ≠ []) :
    disk.entry? place = disk.entries.lookup place :=
  if_neg (by simpa using nonempty)

theorem entry?_congr {disk changed : Disk} {place : List String}
    (same : changed.entries.lookup place = disk.entries.lookup place) :
    changed.entry? place = disk.entry? place := by
  unfold entry?
  rw [same]

/-! ## Texts that can be used -/

theorem pathFault?_eq_none_iff {path : String} :
    pathFault? path = none ↔
      path ≠ "" ∧ '\x00' ∉ path.toList ∧ path.utf8ByteSize ≤ maxPathSize := by
  unfold pathFault?
  split
  · rename_i empty
    simp [String.isEmpty_iff.mp empty]
  · rename_i nonempty
    rw [String.isEmpty_iff] at nonempty
    split
    · rename_i nul
      simp_all
    · rename_i noNul
      split <;> simp_all

theorem utf8ByteSize_lt_of_isPrefix {front path : String} (start : front.toList <+: path.toList)
    (different : front ≠ path) : front.utf8ByteSize < path.utf8ByteSize := by
  obtain ⟨back, whole⟩ := start
  have split : path = front ++ String.ofList back := by
    rw [← String.toList_inj, String.toList_append, String.toList_ofList, whole]
  have nonempty : String.ofList back ≠ "" := by
    intro empty
    rw [empty, String.append_empty] at split
    exact different split.symm
  have positive : (String.ofList back).utf8ByteSize ≠ 0 := by
    rwa [ne_eq, String.utf8ByteSize_eq_zero_iff]
  rw [split, String.utf8ByteSize_append]
  omega

theorem utf8ByteSize_le_of_isPrefix {front path : String} (start : front.toList <+: path.toList) :
    front.utf8ByteSize ≤ path.utf8ByteSize := by
  by_cases same : front = path
  · rw [same]
  · exact (utf8ByteSize_lt_of_isPrefix start same).le

theorem pathFault?_eq_none_of_isPrefix {front path : String} (nonempty : front ≠ "")
    (start : front.toList <+: path.toList) (usable : pathFault? path = none) :
    pathFault? front = none := by
  obtain ⟨_, noNul, fits⟩ := pathFault?_eq_none_iff.mp usable
  refine pathFault?_eq_none_iff.mpr ⟨nonempty, ?_, ?_⟩
  · exact fun nul => noNul (start.subset nul)
  · exact (utf8ByteSize_le_of_isPrefix start).trans fits

def separatorSize (base : String) : Nat :=
  if base = "" ∨ base.toList.getLast? = some '/' then 0 else 1

theorem utf8ByteSize_join (base : String) {name : String}
    (relative : Path.isAbsolute name = false) :
    (Path.join base name).utf8ByteSize =
      base.utf8ByteSize + separatorSize base + name.utf8ByteSize := by
  have slash : "/".utf8ByteSize = 1 := rfl
  simp only [Path.join, relative, Bool.false_eq_true, if_false, Bool.or_eq_true,
    String.isEmpty_iff, decide_eq_true_eq, separatorSize]
  split
  · rw [String.utf8ByteSize_append, Nat.add_zero]
  · rw [String.utf8ByteSize_append, String.utf8ByteSize_append, slash]

theorem pathFault?_join_eq_none_iff {base name : String} (isName : IsName name) :
    pathFault? (Path.join base name) = none ↔
      '\x00' ∉ base.toList ∧
        base.utf8ByteSize + separatorSize base + name.utf8ByteSize ≤ maxPathSize := by
  have nonempty : Path.join base name ≠ "" := by
    intro empty
    have text := Path.toList_join base isName.isAbsolute
    rw [empty] at text
    split at text <;> simp_all [isName.segment.ne_nil]
  have nul : '\x00' ∈ (Path.join base name).toList ↔ '\x00' ∈ base.toList := by
    rw [Path.toList_join base isName.isAbsolute]
    split <;> simp [isName.noNul]
  rw [pathFault?_eq_none_iff, utf8ByteSize_join base isName.isAbsolute, nul]
  simp [nonempty]

/-! ## Following segments -/

theorem follow_append (disk : Disk) (back : List (List Char)) :
    ∀ (front : List (List Char)) (position : Position),
      disk.follow (front ++ back) position = disk.follow front position >>= disk.follow back := by
  intro front
  induction front with
  | nil => intro position; rfl
  | cons segment front induction =>
      intro position
      rw [List.cons_append, follow, follow]
      split
      · rfl
      · rfl
      · split
        · exact induction position
        · split
          · exact induction position.parent
          · split
            · rfl
            · rename_i next _
              exact induction next

theorem follow_blank (disk : Disk) {segment other : List Char} (blank : Path.isBlank segment = true)
    (otherBlank : Path.isBlank other = true) (segments : List (List Char)) (position : Position) :
    disk.follow (segment :: segments) position = disk.follow (other :: segments) position := by
  simp only [follow, blank, otherBlank, if_true]

theorem follow_blank_of_directory {disk : Disk} {position : Position}
    (directory : disk.entryAt? position = some .directory) {segment : List Char}
    (blank : Path.isBlank segment = true) (segments : List (List Char)) :
    disk.follow (segment :: segments) position = disk.follow segments position := by
  simp [follow, directory, blank]

theorem entryAt?_present (disk : Disk) (place : List String) :
    disk.entryAt? ⟨place, 0⟩ = disk.entry? place := rfl

/-- Blank segments lead to where they start, if it is a directory. -/
theorem follow_blanks_eq_ok_iff {disk : Disk} {place : List String}
    (directory : disk.entry? place = some .directory) (position : Position) :
    ∀ {blanks : List (List Char)}, (∀ segment ∈ blanks, Path.isBlank segment = true) →
      (disk.follow blanks position = .ok ⟨place, 0⟩ ↔ position = ⟨place, 0⟩) := by
  intro blanks
  induction blanks with
  | nil => intro _; simp [follow]
  | cons segment blanks induction =>
      intro blank
      rw [List.forall_mem_cons] at blank
      by_cases here : disk.entryAt? position = some .directory
      · rw [follow_blank_of_directory here blank.1, induction blank.2]
      · have different : position ≠ ⟨place, 0⟩ := by
          rintro rfl
          exact here directory
        rw [follow]
        split
        · simp [different]
        · simp [different]
        · rename_i isDirectory
          exact absurd isDirectory here

theorem follow_append_blanks_eq_ok_iff {disk : Disk} {front blanks : List (List Char)}
    (blank : ∀ segment ∈ blanks, Path.isBlank segment = true) (position : Position)
    {place : List String} (directory : disk.entry? place = some .directory) :
    disk.follow (front ++ blanks) position = .ok ⟨place, 0⟩ ↔
      disk.follow front position = .ok ⟨place, 0⟩ := by
  rw [follow_append, bind_eq_ok_iff]
  simp only [follow_blanks_eq_ok_iff directory _ blank, exists_eq_right]

/-- Without a step to a parent the way goes downwards only. -/
theorem isPrefix_of_follow {disk : Disk} :
    ∀ {segments : List (List Char)} {position target : Position}, ['.', '.'] ∉ segments →
      disk.follow segments position = .ok target → position.names <+: target.names := by
  intro segments
  induction segments with
  | nil =>
      intro position target _ here
      cases here
      exact List.prefix_refl _
  | cons segment segments induction =>
      intro position target plain leads
      rw [List.mem_cons, not_or] at plain
      rw [follow] at leads
      split at leads
      · cases leads
      · cases leads
      · split at leads
        · exact induction plain.2 leads
        · rw [if_neg (Ne.symm plain.1)] at leads
          split at leads
          · cases leads
          · rename_i next entered
            have step : next.names = position.names ++ [String.ofList segment] := by
              unfold enter at entered
              split at entered
              · cases entered
              · split at entered
                · cases entered
                · split at entered <;> cases entered
                  rfl
            have rest := induction plain.2 leads
            rw [step] at rest
            exact (List.prefix_append _ _).trans rest

def start (disk : Disk) (path : String) : Position :=
  if Path.isAbsolute path then ⟨[], 0⟩ else disk.cwd

theorem resolve_eq_ok_iff {disk : Disk} {path : String} {position : Position} :
    disk.resolve path = .ok position ↔
      pathFault? path = none ∧
        disk.follow (Path.segments path.toList) (disk.start path) = .ok position := by
  have followed : disk.follow (disk.origin path).1 (disk.origin path).2 =
      disk.follow (Path.segments path.toList) (disk.start path) := by
    unfold origin start
    split
    · rename_i rest shape
      have absolute : Path.isAbsolute path = true := by simp [Path.isAbsolute, shape]
      rw [shape, Path.segments_cons_slash, absolute, if_pos rfl,
        follow_blank_of_directory rfl rfl]
    · rename_i notRoot
      have relative : Path.isAbsolute path = false := by
        rw [Path.isAbsolute, decide_eq_false_iff_not, List.head?_eq_some_iff]
        rintro ⟨rest, shape⟩
        exact notRoot rest shape
      rw [relative]
      rfl
  unfold resolve
  cases pathFault? path with
  | some fault => simp
  | none => simp [followed]

/-- A step to an entry is made in a directory that lists it. -/
theorem follow_entry_eq_ok_iff {disk : Disk} {segment : List Char}
    (entry : Path.IsEntrySegment segment) {position target : Position} :
    disk.follow [segment] position = .ok target ↔
      ∃ place, position = ⟨place, 0⟩ ∧ disk.entry? place = some .directory ∧
        (String.ofList segment).utf8ByteSize ≤ maxNameSize ∧
        disk.Lists place (String.ofList segment) ∧
        target = ⟨place ++ [String.ofList segment], 0⟩ := by
  obtain ⟨place, removed⟩ := position
  simp only [follow, entry.notBlank, entry.notParent, enter, if_false, Bool.false_eq_true, Lists]
  by_cases gone : removed = 0
  · subst gone
    simp only [entryAt?_present, Position.isRemoved, ne_eq, not_true, decide_false,
      Bool.false_eq_true, if_false, Position.mk.injEq, and_true, exists_eq_left']
    cases here : disk.entry? place with
    | none => simp
    | some found =>
        cases found with
        | file content => simp
        | directory =>
            by_cases tooLong : (String.ofList segment).utf8ByteSize > maxNameSize
            · simp [tooLong, Nat.not_le.mpr tooLong]
            · by_cases listed : (disk.entry? (place ++ [String.ofList segment])).isSome = true
              · simp [tooLong, Nat.not_lt.mp tooLong, listed, eq_comm]
              · simp [tooLong, listed]
  · simp [entryAt?, Position.isRemoved, gone]

/-- The segments of a path with a name joined to it lead one step further than
those of the path. -/
theorem follow_join_eq_ok_iff {disk : Disk} {base name : String}
    (entry : Path.IsEntrySegment name.toList) {target : Position} :
    disk.follow (Path.segments (Path.join base name).toList) (disk.start (Path.join base name)) =
        .ok target ↔
      ∃ place, disk.follow (Path.segments base.toList) (disk.start base) = .ok ⟨place, 0⟩ ∧
        disk.entry? place = some .directory ∧ name.utf8ByteSize ≤ maxNameSize ∧
        disk.Lists place name ∧ target = ⟨place ++ [name], 0⟩ := by
  have sameStart : disk.start (Path.join base name) = disk.start base := by
    rw [start, start, Path.isAbsolute_join base (Path.isAbsolute_of_isEntrySegment entry)]
  obtain ⟨front, joined, shape⟩ := Path.segments_join base entry
  rw [sameStart, joined, follow_append, bind_eq_ok_iff]
  simp only [follow_entry_eq_ok_iff entry, String.ofList_toList]
  -- An empty last segment of the path asks for a directory, as the name does.
  have same : ∀ place, disk.entry? place = some .directory →
      (disk.follow (Path.segments base.toList) (disk.start base) = .ok ⟨place, 0⟩ ↔
        disk.follow front (disk.start base) = .ok ⟨place, 0⟩) := by
    intro place directory
    rcases shape with shape | shape
    · rw [shape]
    · rw [shape]
      exact follow_append_blanks_eq_ok_iff (by simp [Path.isBlank]) _ directory
  constructor
  · intro steps
    obtain ⟨_, reached, place, rfl, directory, fits, listed, rfl⟩ := steps
    exact ⟨place, (same place directory).mpr reached, directory, fits, listed, rfl⟩
  · intro steps
    obtain ⟨place, reached, directory, fits, listed, rfl⟩ := steps
    exact ⟨_, (same place directory).mp reached, place, rfl, directory, fits, listed, rfl⟩

/-- A path with a name joined to it leads to the entry of that name, if the path
leads to a directory that lists it. -/
theorem resolve_join_eq_ok_iff {disk : Disk} {base name : String} (isName : IsName name)
    {target : Position} :
    disk.resolve (Path.join base name) = .ok target ↔
      pathFault? (Path.join base name) = none ∧
        ∃ place, disk.follow (Path.segments base.toList) (disk.start base) = .ok ⟨place, 0⟩ ∧
          disk.entry? place = some .directory ∧ disk.Lists place name ∧
          target = ⟨place ++ [name], 0⟩ := by
  rw [resolve_eq_ok_iff, follow_join_eq_ok_iff isName.segment]
  simp only [isName.fits, true_and]

theorem contains_iff {disk : Disk} {path : String} :
    disk.contains path = true ↔ ∃ position, disk.resolve path = .ok position := by
  unfold contains
  cases disk.resolve path <;> simp

theorem find_eq_ok_iff {disk : Disk} {path : String} {entry : Entry} :
    disk.find path = .ok entry ↔
      ∃ position, disk.resolve path = .ok position ∧ disk.entryAt? position = some entry := by
  rw [find, bind_eq_ok_iff]
  refine exists_congr fun position => and_congr_right fun _ => ?_
  split <;> simp_all

theorem isFile_iff {disk : Disk} {path : String} :
    disk.isFile path = true ↔
      ∃ place content, disk.resolve path = .ok ⟨place, 0⟩ ∧
        disk.entry? place = some (.file content) := by
  have asFind : disk.isFile path = true ↔ ∃ content, disk.find path = .ok (.file content) := by
    unfold isFile
    split <;> simp_all
  simp only [asFind, find_eq_ok_iff]
  constructor
  · intro found
    obtain ⟨content, ⟨place, removed⟩, resolved, file⟩ := found
    -- A directory that was removed is no file.
    by_cases present : removed = 0
    · subst present
      exact ⟨place, content, resolved, file⟩
    · simp [entryAt?, Position.isRemoved, present] at file
  · intro found
    obtain ⟨place, content, resolved, file⟩ := found
    exact ⟨content, ⟨place, 0⟩, resolved, file⟩

end InterfaceLint.Disk
