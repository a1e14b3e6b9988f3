import InterfaceLint.Scan
import Mathlib.Data.String.Basic

/-!
# The files a scan selects

The files of a scan stand in ascending order, each once, so that a scan is
known from the paths it selects.  Which paths those are is told root by root:
the root itself when it is a file, else the model files that lie below it and
are not ignored.
-/

set_option autoImplicit false

namespace InterfaceLint

/-! ## Ascending lists of paths -/

theorem mem_insertPath {path added : String} : ∀ {paths : List String},
    path ∈ insertPath added paths ↔ path = added ∨ path ∈ paths := by
  intro paths
  induction paths with
  | nil => simp [insertPath]
  | cons known paths induction =>
      simp only [insertPath]
      split
      · simp
      · split
        · rename_i same
          simp [same]
        · simp only [List.mem_cons, induction]
          exact or_left_comm

theorem insertPath_ascending (added : String) : ∀ {paths : List String},
    paths.Pairwise (· < ·) → (insertPath added paths).Pairwise (· < ·) := by
  intro paths
  induction paths with
  | nil => intro _; simp [insertPath]
  | cons known paths induction =>
      intro ascending
      have ⟨above, rest⟩ := List.pairwise_cons.mp ascending
      simp only [insertPath]
      split
      · rename_i below
        refine List.pairwise_cons.mpr ⟨?_, ascending⟩
        intro path member
        rcases List.mem_cons.mp member with rfl | member
        · exact below
        · exact below.trans (above path member)
      · rename_i notBelow
        split
        · exact ascending
        · rename_i different
          refine List.pairwise_cons.mpr ⟨?_, induction rest⟩
          intro path member
          rcases mem_insertPath.mp member with rfl | member
          · exact lt_of_le_of_ne (not_lt.mp notBelow) (Ne.symm different)
          · exact above path member

theorem mem_foldr_insertPath {path : String} : ∀ {paths : List String},
    path ∈ paths.foldr insertPath [] ↔ path ∈ paths := by
  intro paths
  induction paths with
  | nil => simp
  | cons first paths induction => rw [List.foldr_cons, mem_insertPath, induction, List.mem_cons]

theorem foldr_insertPath_ascending (paths : List String) :
    (paths.foldr insertPath []).Pairwise (· < ·) := by
  induction paths with
  | nil => exact .nil
  | cons first paths induction => exact insertPath_ascending first induction

theorem scan_files_ascending (disk : Disk) (base : String) (includes ignores : List String) :
    (scan disk base includes ignores).files.Pairwise (· < ·) :=
  foldr_insertPath_ascending _

theorem mem_scan_files_iff {disk : Disk} {base path : String} {includes ignores : List String} :
    path ∈ (scan disk base includes ignores).files ↔
      ∃ root ∈ Scan.roots disk base includes,
        path ∈ Scan.filesAt disk (Ignores.ofEntries base ignores) root := by
  simp only [scan, mem_foldr_insertPath, List.mem_flatMap]

/-- An ascending list is known from its members. -/
theorem ascending_eq_of_mem_iff {left right : List String} (leftAscending : left.Pairwise (· < ·))
    (rightAscending : right.Pairwise (· < ·)) (same : ∀ path, path ∈ left ↔ path ∈ right) :
    left = right := by
  have leftNodup : left.Nodup := leftAscending.imp fun below => below.ne
  have rightNodup : right.Nodup := rightAscending.imp fun below => below.ne
  have perm : left.Perm right := (List.perm_ext_iff_of_nodup leftNodup rightNodup).mpr same
  exact perm.eq_of_pairwise (fun _ _ _ _ below above => absurd (below.trans above) (lt_irrefl _))
    leftAscending rightAscending

/-! ## What one root contributes -/

namespace Scan

/-- A file below the position of a root that a walk meets under a path text. -/
structure MeetsFile (disk : Disk) (root path : String) (position : Position)
    (names : List String) (content : ByteArray) : Prop where
  resolved : disk.resolve root = .ok position
  present : position.isRemoved = false
  below : names ≠ []
  listed : (position.names ++ names, .file content) ∈ disk.entries
  parentFits : (Disk.textBelow root names.dropLast).utf8ByteSize ≤ Disk.maxPathSize
  fits : (Disk.textBelow root names).utf8ByteSize ≤ Disk.maxPathSize
  text : path = Disk.textBelow root names

theorem mem_below_iff {disk : Disk} {position : Position} {names : List String} {entry : Entry} :
    (names, entry) ∈ disk.below position ↔
      position.isRemoved = false ∧ names ≠ [] ∧
        (position.names ++ names, entry) ∈ disk.entries := by
  unfold Disk.below
  split
  · rename_i removed
    simp [removed]
  · rename_i present
    simp only [List.mem_map, List.mem_filter, Prod.mk.injEq, Prod.exists]
    constructor
    · intro member
      obtain ⟨place, other, ⟨listed, inside⟩, rfl, rfl⟩ := member
      rw [Bool.and_eq_true, List.isPrefixOf_iff_prefix] at inside
      obtain ⟨⟨rest, rfl⟩, different⟩ := inside
      refine ⟨by simpa using present, ?_, by simpa using listed⟩
      intro absent
      simp at absent
      simp [absent] at different
    · intro below
      obtain ⟨_, nonempty, listed⟩ := below
      refine ⟨position.names ++ names, entry, ⟨listed, ?_⟩, by simp, rfl⟩
      simp [nonempty]

theorem meet?_eq_file_iff {root path : String} {names : List String} {entry : Entry}
    {content : ByteArray} :
    Disk.meet? root names entry = some (path, .ok (.file content)) ↔
      entry = .file content ∧
        (Disk.textBelow root names.dropLast).utf8ByteSize ≤ Disk.maxPathSize ∧
        (Disk.textBelow root names).utf8ByteSize ≤ Disk.maxPathSize ∧
        path = Disk.textBelow root names := by
  unfold Disk.meet?
  dsimp only
  split
  · rename_i tooLong
    simp only [reduceCtorEq, false_iff]
    intro within
    obtain ⟨_, fits, _⟩ := within
    omega
  · rename_i parentFits
    split
    · rename_i fits
      simp only [Option.some.injEq, Prod.mk.injEq, Except.ok.injEq]
      constructor
      · intro same
        obtain ⟨rfl, rfl⟩ := same
        exact ⟨rfl, by omega, fits, rfl⟩
      · intro same
        obtain ⟨rfl, _, _, rfl⟩ := same
        exact ⟨rfl, rfl⟩
    · rename_i tooLong
      cases entry with
      | directory => simp
      | file other => simp; omega

theorem mem_modelFiles_iff {ignores : Ignores} {met : List (String × Except DiskFault Entry)}
    {path : String} :
    path ∈ modelFiles ignores met ↔
      isModelName path = true ∧ ignores.covers path = false ∧
        ∃ content, (path, .ok (.file content)) ∈ met := by
  simp only [modelFiles, List.mem_filterMap, Prod.exists]
  constructor
  · intro picked
    obtain ⟨found, entry, member, selected⟩ := picked
    split at selected
    · simp only [Option.ite_none_right_eq_some, Bool.and_eq_true, Bool.not_eq_true',
        Option.some.injEq] at selected
      obtain ⟨⟨named, kept⟩, rfl⟩ := selected
      exact ⟨named, kept, _, member⟩
    · cases selected
  · intro selects
    obtain ⟨named, kept, content, member⟩ := selects
    exact ⟨path, .ok (.file content), member, by simp [named, kept]⟩

theorem mem_walk_file_iff {disk : Disk} {root path : String} {content : ByteArray}
    (notFile : disk.isFile root = false) :
    (path, .ok (.file content)) ∈ disk.walk root ↔
      ∃ position names, MeetsFile disk root path position names content := by
  unfold Disk.walk
  cases resolved : disk.resolve root with
  | error fault =>
      simp only [List.mem_singleton, Prod.mk.injEq, reduceCtorEq, and_false, false_iff]
      intro met
      obtain ⟨position, names, meets⟩ := met
      rw [meets.resolved] at resolved
      cases resolved
  | ok position =>
      -- The root itself is no file, so only what lies below it counts.
      have notRoot : ¬ (path, .ok (.file content)) = (root, disk.find root) := by
        intro same
        have found : disk.find root = .ok (.file content) := (Prod.mk.inj same).2.symm
        simp [Disk.isFile, found] at notFile
      simp only [List.mem_cons, notRoot, false_or, List.mem_filterMap, Prod.exists,
        meet?_eq_file_iff, mem_below_iff]
      constructor
      · intro meets
        obtain ⟨names, entry, ⟨present, below, listed⟩, rfl, parentFits, fits, text⟩ := meets
        exact ⟨position, names, ⟨resolved, present, below, listed, parentFits, fits, text⟩⟩
      · intro met
        obtain ⟨other, names, meets⟩ := met
        cases resolved.symm.trans meets.resolved
        exact ⟨names, _, ⟨meets.present, meets.below, meets.listed⟩, rfl, meets.parentFits,
          meets.fits, meets.text⟩

/-- What one root contributes: itself when it is a file, else the model files
below it that are not ignored. -/
theorem mem_filesAt_iff {disk : Disk} {ignores : Ignores} {root path : String} :
    path ∈ filesAt disk ignores root ↔
      (disk.isFile root = true ∧ path = root) ∨
        (disk.isFile root = false ∧ isModelName path = true ∧ ignores.covers path = false ∧
          ∃ content position names, MeetsFile disk root path position names content) := by
  unfold filesAt
  split
  · rename_i isFile
    simp [isFile]
  · rename_i notFile
    rw [Bool.not_eq_true] at notFile
    simp only [mem_modelFiles_iff, mem_walk_file_iff notFile, notFile, Bool.false_eq_true,
      false_and, false_or, true_and]

end Scan

end InterfaceLint
