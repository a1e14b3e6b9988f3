import InterfaceLint.Proofs.Disk.Resolution
import InterfaceLint.Proofs.Path.Parents
import InterfaceLint.Settings.Lookup

/-!
# Which settings are found

The settings of a directory are meant to be those of the nearest directory
among itself and the directories around it, up to the first that holds a
repository.  The search takes parents of the path text.  It agrees with the
directories on the disk from an absolute path on; a relative path has no
parents beyond the working directory, and settings above that are missed.
-/

set_option autoImplicit false

namespace InterfaceLint

namespace Disk

theorem isName_settingsFileName : IsName settingsFileName :=
  ⟨⟨by decide, by decide, by decide⟩, by decide, by decide⟩

theorem isName_repository : IsName ".git" :=
  ⟨⟨by decide, by decide, by decide⟩, by decide, by decide⟩

/-- The settings in `directory` are those for the directory at `place`: nothing
nearer has settings or ends the search. -/
structure Governs (disk : Disk) (place directory : List String) : Prop where
  around : directory <+: place
  settings : disk.Lists directory settingsFileName
  nearest : ∀ nearer, directory <+: nearer → nearer <+: place → nearer ≠ directory →
    ¬ disk.Lists nearer settingsFileName ∧ ¬ disk.Lists nearer ".git"

namespace Governs

variable {disk : Disk} {place directory : List String}

theorem self (settings : disk.Lists place settingsFileName) : disk.Governs place place where
  around := List.prefix_refl place
  settings := settings
  nearest := by
    intro nearer below above different
    exact absurd (above.eq_of_length_le below.length_le) different

theorem eq_or_not_lists (governs : disk.Governs place directory) :
    directory = place ∨
      ¬ disk.Lists place settingsFileName ∧ ¬ disk.Lists place ".git" := by
  by_cases same : directory = place
  · exact .inl same
  · exact .inr (governs.nearest place governs.around (List.prefix_refl place) (Ne.symm same))

theorem unique {other : List String} (governs : disk.Governs place directory)
    (otherGoverns : disk.Governs place other) : directory = other := by
  rcases List.prefix_or_prefix_of_prefix governs.around otherGoverns.around with below | above
  · by_contra different
    exact (governs.nearest other below otherGoverns.around (Ne.symm different)).1
      otherGoverns.settings
  · by_contra different
    exact (otherGoverns.nearest directory above governs.around different).1 governs.settings

/-- A directory without settings and without a repository has those of its
parent. -/
theorem child_iff {name : String} (noSettings : ¬ disk.Lists (place ++ [name]) settingsFileName)
    (noRepository : ¬ disk.Lists (place ++ [name]) ".git") :
    disk.Governs (place ++ [name]) directory ↔ disk.Governs place directory := by
  constructor
  · intro governs
    have around : directory <+: place := by
      rcases List.prefix_concat_iff.mp governs.around with rfl | around
      · exact absurd governs.settings noSettings
      · exact around
    refine ⟨around, governs.settings, fun nearer below above different => ?_⟩
    exact governs.nearest nearer below (above.trans (List.prefix_append _ _)) different
  · intro governs
    refine ⟨governs.around.trans (List.prefix_append _ _), governs.settings, ?_⟩
    intro nearer below above different
    rcases List.prefix_concat_iff.mp above with rfl | above
    · exact ⟨noSettings, noRepository⟩
    · exact governs.nearest nearer below above different

end Governs

end Disk

namespace Settings

/-! ## The search through the parents of a path -/

/-- What a search from a place comes to when it cannot leave `floor`. -/
inductive Outcome (disk : Disk) (floor place : List String) : Option String → Prop
  | found (path : String) (directory : List String)
      (leads : disk.resolve path = .ok ⟨directory ++ [settingsFileName], 0⟩)
      (governs : disk.Governs place directory) (within : floor <+: directory) :
      Outcome disk floor place (some path)
  | absent (outside : ∀ directory, disk.Governs place directory → ¬ floor <+: directory) :
      Outcome disk floor place none

theorem Outcome.congr {disk : Disk} {floor place other : List String} {result : Option String}
    (outcome : Outcome disk floor place result)
    (same : ∀ directory, disk.Governs place directory ↔ disk.Governs other directory) :
    Outcome disk floor other result := by
  cases outcome with
  | found path directory leads governs within =>
      exact .found path directory leads ((same directory).mp governs) within
  | absent outside =>
      exact .absent fun directory governs => outside directory ((same directory).mpr governs)

/-- A directory text that the search comes to: it leads to a directory, has no
`..` in it, and the names looked for can be joined to it. -/
structure Visits (disk : Disk) (path : String) (place : List String) : Prop where
  leads : disk.follow (Path.trimmed path) (disk.start path) = .ok ⟨place, 0⟩
  directory : disk.entry? place = some .directory
  plain : ['.', '.'] ∉ Path.trimmed path
  usable : Disk.pathFault? (Path.join path settingsFileName) = none

theorem start_eq_of_isParent {path parent : String} (isParent : Path.IsParent path parent)
    (disk : Disk) : disk.start parent = disk.start path := by
  rw [Disk.start, Disk.start, isParent.sameRoot]

/-- Neither what a path starts with nor blank segments at its end change where it
leads. -/
theorem follow_trimmed_eq_ok_iff {disk : Disk} (path : String) {place : List String}
    (directory : disk.entry? place = some .directory) :
    disk.follow (Path.trimmed path) (disk.start path) = .ok ⟨place, 0⟩ ↔
      disk.follow (Path.segments path.toList) (disk.start path) = .ok ⟨place, 0⟩ := by
  have body : disk.follow (Path.segments path.toList) (disk.start path) =
      disk.follow (Path.split path).body (disk.start path) := by
    obtain ⟨first, others, shape⟩ :=
      List.exists_cons_of_ne_nil (Path.segments_ne_nil path.toList)
    have parts := Path.split_eq path
    rw [shape, Path.ofSegments] at parts
    split at parts
    · rename_i root
      have absolute : Path.isAbsolute path = true := Path.isAbsolute_iff.mpr (by rw [parts])
      rw [shape, parts, root.1, Disk.start, if_pos absolute, Disk.follow_blank_of_directory rfl rfl]
    · split at parts
      · rename_i current
        rw [shape, parts, current]
        exact disk.follow_blank (by decide) (by decide) others (disk.start path)
      · rw [shape, parts]
  obtain ⟨blanks, whole, blank⟩ := Path.exists_eq_trimRight_append (Path.split path).body
  rw [body, whole]
  exact (Disk.follow_append_blanks_eq_ok_iff blank _ directory).symm

namespace Visits

variable {disk : Disk} {path : String} {place : List String}

theorem resolve_join_iff (visits : Visits disk path place) {name : String}
    (isName : Disk.IsName name) (usable : Disk.pathFault? (Path.join path name) = none)
    (target : Position) :
    disk.resolve (Path.join path name) = .ok target ↔
      disk.Lists place name ∧ target = ⟨place ++ [name], 0⟩ := by
  have leads := (follow_trimmed_eq_ok_iff path visits.directory).mp visits.leads
  rw [Disk.resolve_join_eq_ok_iff isName, leads]
  constructor
  · intro steps
    obtain ⟨_, other, same, _, listed, rfl⟩ := steps
    cases same
    exact ⟨listed, rfl⟩
  · intro listed
    exact ⟨usable, place, rfl, visits.directory, listed.1, listed.2⟩

theorem contains_join_iff (visits : Visits disk path place) {name : String}
    (isName : Disk.IsName name) (usable : Disk.pathFault? (Path.join path name) = none) :
    disk.contains (Path.join path name) = true ↔ disk.Lists place name := by
  simp only [Disk.contains_iff, visits.resolve_join_iff isName usable, exists_and_left,
    exists_eq, and_true]

theorem start_isPrefix (visits : Visits disk path place) : (disk.start path).names <+: place :=
  Disk.isPrefix_of_follow visits.plain visits.leads

theorem usable_repository (visits : Visits disk path place) :
    Disk.pathFault? (Path.join path ".git") = none := by
  obtain ⟨noNul, fits⟩ :=
    (Disk.pathFault?_join_eq_none_iff Disk.isName_settingsFileName).mp visits.usable
  refine (Disk.pathFault?_join_eq_none_iff Disk.isName_repository).mpr ⟨noNul, ?_⟩
  have shorter : ".git".utf8ByteSize ≤ settingsFileName.utf8ByteSize := by decide
  omega

/-- The text of a parent is shorter, at least by a separator. -/
theorem usable_parent (visits : Visits disk path place) {parent : String}
    (isParent : Path.IsParent path parent) :
    Disk.pathFault? (Path.join parent settingsFileName) = none := by
  obtain ⟨noNul, fits⟩ :=
    (Disk.pathFault?_join_eq_none_iff Disk.isName_settingsFileName).mp visits.usable
  refine (Disk.pathFault?_join_eq_none_iff Disk.isName_settingsFileName).mpr ⟨?_, ?_⟩
  · exact fun nul => noNul (isParent.isPrefix.subset nul)
  · have shorter := Disk.utf8ByteSize_lt_of_isPrefix isParent.isPrefix isParent.different
    have separator : Disk.separatorSize parent ≤ 1 := by
      unfold Disk.separatorSize
      split <;> omega
    omega

/-- With one segment less the search comes to the parent on the disk. -/
theorem parent (visits : Visits disk path place) {parent : String}
    (isParent : Path.IsParent path parent) :
    (Path.trimmed path = [] ∧ Visits disk parent place) ∨
      ∃ around name, place = around ++ [name] ∧ Visits disk parent around := by
  have usable := visits.usable_parent isParent
  have sameStart := start_eq_of_isParent isParent disk
  rcases List.eq_nil_or_concat' (Path.trimmed path) with blank | ⟨front, last, shape⟩
  · have parentBlank : Path.trimmed parent = [] := by rw [isParent.trimmed, blank]; rfl
    refine .inl ⟨blank, ?_, visits.directory, by simp [parentBlank], usable⟩
    rw [parentBlank, sameStart, ← blank]
    exact visits.leads
  · have plain := visits.plain
    have leads := visits.leads
    rw [shape] at plain leads
    rw [List.mem_append, List.mem_singleton, not_or] at plain
    have entry := Path.isEntrySegment_of_trimmed shape (Ne.symm plain.2)
    rw [Disk.follow_append, bind_eq_ok_iff] at leads
    obtain ⟨_, reached, step⟩ := leads
    obtain ⟨around, rfl, directory, _, _, same⟩ := (Disk.follow_entry_eq_ok_iff entry).mp step
    have parentShape : Path.trimmed parent = Path.trimRight front := by
      rw [isParent.trimmed, shape, List.dropLast_concat]
    obtain ⟨blanks, whole, blank⟩ := Path.exists_eq_trimRight_append front
    refine .inr ⟨around, String.ofList last, (Position.mk.inj same).1, ?_, directory, ?_, usable⟩
    · rw [parentShape, sameStart]
      rw [whole] at reached
      exact (Disk.follow_append_blanks_eq_ok_iff blank _ directory).mp reached
    · rw [parentShape]
      exact fun listed => plain.1 ((Path.trimRight_isPrefix front).subset listed)

end Visits

/-- The search comes to the settings of a directory, unless they are outside of
where it starts from. -/
theorem findAmong_ancestors {disk : Disk} {path : String} {place : List String}
    (visits : Visits disk path place) :
    Outcome disk (disk.start path).names place (findAmong disk (Path.ancestors path)) := by
  have settings := visits.contains_join_iff Disk.isName_settingsFileName visits.usable
  have repository := visits.contains_join_iff Disk.isName_repository visits.usable_repository
  rw [Path.ancestors_eq, findAmong]
  by_cases hasSettings : disk.Lists place settingsFileName
  · rw [if_pos (settings.mpr hasSettings)]
    refine .found _ place ?_ (.self hasSettings) visits.start_isPrefix
    exact (visits.resolve_join_iff Disk.isName_settingsFileName visits.usable _).mpr
      ⟨hasSettings, rfl⟩
  · rw [if_neg (fun contained => hasSettings (settings.mp contained))]
    by_cases hasRepository : disk.Lists place ".git"
    · rw [if_pos (repository.mpr hasRepository)]
      refine .absent fun directory governs => ?_
      rcases governs.eq_or_not_lists with rfl | ⟨_, noRepository⟩
      · exact absurd governs.settings hasSettings
      · exact absurd hasRepository noRepository
    · rw [if_neg (fun contained => hasRepository (repository.mp contained))]
      cases found : Path.parent? path with
      | none =>
          -- Nothing is left of the path: the search stands where it starts from.
          have blank := Path.trimmed_eq_nil_of_parent?_eq_none found
          have here := visits.leads
          rw [blank, Disk.follow, Except.ok.injEq] at here
          refine .absent fun directory governs within => ?_
          rw [here] at within
          obtain rfl := within.eq_of_length_le governs.around.length_le
          exact hasSettings governs.settings
      | some parent =>
          have isParent := Path.isParent_of_parent?_eq_some found
          have sameStart := start_eq_of_isParent isParent disk
          rcases visits.parent isParent with ⟨_, parentVisits⟩ | ⟨around, name, rfl, parentVisits⟩
          · rw [← sameStart]
            exact findAmong_ancestors parentVisits
          · have outcome := findAmong_ancestors parentVisits
            rw [sameStart] at outcome
            exact outcome.congr fun directory =>
              (Disk.Governs.child_iff hasSettings hasRepository).symm
termination_by path.length
decreasing_by
  all_goals exact isParent.length_lt

/-! ## The settings found for a directory -/

def Designates (disk : Disk) (start : String) (directory : List String) : Prop :=
  ∃ path, find? disk start = some path ∧
    disk.resolve path = .ok ⟨directory ++ [settingsFileName], 0⟩

/-- The search from a path to the directory at `place` gives what it is meant to
give, and gives nothing only if there is nothing. -/
structure FindsNearest (disk : Disk) (start : String) (place : List String) : Prop where
  designated : ∀ directory, Designates disk start directory ↔ disk.Governs place directory
  absent : find? disk start = none ↔ ∀ directory, ¬ disk.Governs place directory

/-- A relative path has no parents beyond the working directory. -/
def InReach (disk : Disk) (start : String) (directory : List String) : Prop :=
  Path.isAbsolute start = true ∨ disk.cwd.names <+: directory

theorem inReach_iff {disk : Disk} {start : String} {directory : List String} :
    InReach disk start directory ↔ (disk.start start).names <+: directory := by
  unfold InReach Disk.start
  by_cases absolute : Path.isAbsolute start = true
  · simp [absolute]
  · simp [absolute]

theorem Outcome.designates_iff {disk : Disk} {start : String} {place : List String}
    (outcome : Outcome disk (disk.start start).names place (find? disk start))
    (directory : List String) :
    Designates disk start directory ↔
      disk.Governs place directory ∧ InReach disk start directory := by
  unfold Designates
  rw [inReach_iff]
  generalize find? disk start = result at outcome
  cases outcome with
  | found path nearest leads governs within =>
      simp only [Option.some.injEq, exists_eq_left', leads, Except.ok.injEq, Position.mk.injEq,
        and_true, List.append_cancel_right_eq]
      constructor
      · rintro rfl
        exact ⟨governs, within⟩
      · intro other
        exact governs.unique other.1
  | absent outside =>
      simp only [reduceCtorEq, false_and, exists_false, false_iff, not_and]
      exact outside directory

theorem Outcome.eq_none_iff {disk : Disk} {start : String} {place : List String}
    (outcome : Outcome disk (disk.start start).names place (find? disk start)) :
    find? disk start = none ↔
      ∀ directory, disk.Governs place directory → ¬ InReach disk start directory := by
  simp only [inReach_iff]
  generalize find? disk start = result at outcome
  cases outcome with
  | found path nearest leads governs within =>
      simp only [reduceCtorEq, false_iff, not_forall, not_not]
      exact ⟨nearest, governs, within⟩
  | absent outside => simpa using outside

end Settings

/-- From a path without `..` to a directory, the settings found are those meant
for the directory, unless these lie above the working directory and the path
is relative; then none are found. -/
theorem find?_findsNearest_iff_inReach (disk : Disk) (start : String) (place : List String)
    (leads : disk.resolve start = .ok ⟨place, 0⟩)
    (directory : disk.entry? place = some .directory)
    (plain : Path.Component.parent ∉ Path.components start)
    (usable : Disk.pathFault? (Path.join start settingsFileName) = none) :
    (∀ found, Settings.Designates disk start found ↔
      disk.Governs place found ∧ Settings.InReach disk start found) ∧
    (Settings.find? disk start = none ↔
      ∀ found, disk.Governs place found → ¬ Settings.InReach disk start found) ∧
    (Settings.FindsNearest disk start place ↔
      ∀ found, disk.Governs place found → Settings.InReach disk start found) := by
  have visits : Settings.Visits disk start place := by
    refine ⟨?_, directory, ?_, usable⟩
    · exact (Settings.follow_trimmed_eq_ok_iff start directory).mpr
        (Disk.resolve_eq_ok_iff.mp leads).2
    · rw [Path.parent_mem_components_iff] at plain
      exact fun listed => plain ((Path.trimRight_isPrefix _).subset listed)
  have outcome : Settings.Outcome disk (disk.start start).names place (Settings.find? disk start) :=
    Settings.findAmong_ancestors visits
  have designates := outcome.designates_iff
  have absent := outcome.eq_none_iff
  refine ⟨designates, absent, ?_⟩
  constructor
  · intro nearest found governs
    exact ((designates found).mp ((nearest.designated found).mpr governs)).2
  · intro within
    refine ⟨fun found => ?_, ?_⟩
    · rw [designates]
      exact and_iff_left_of_imp (within found)
    · rw [absent]
      exact forall_congr' fun found =>
        ⟨fun outside governs => outside governs (within found governs),
          fun none governs => absurd governs none⟩

def nestedDisk : Disk where
  entries := [(["p"], .directory), (["p", ".icgrc.json"], .file "\x7b\x7d".toUTF8),
    (["p", "src"], .directory)]
  cwd := ⟨["p", "src"], 0⟩

theorem nestedDisk_governs : nestedDisk.Governs ["p", "src"] ["p"] where
  around := ⟨["src"], rfl⟩
  settings := rfl
  nearest := by
    intro nearer below above different
    rcases List.prefix_concat_iff.mp (show nearer <+: ["p"] ++ ["src"] from above) with rfl | above
    · exact ⟨by decide, by decide⟩
    · exact absurd (above.eq_of_length_le below.length_le) different

theorem find?_findsNearest_nestedDisk :
    nestedDisk.resolve "." = .ok ⟨["p", "src"], 0⟩ ∧
      nestedDisk.entry? ["p", "src"] = some .directory ∧
      Path.Component.parent ∉ Path.components "." ∧
      Disk.pathFault? (Path.join "." settingsFileName) = none ∧
      ¬ Settings.FindsNearest nestedDisk "." ["p", "src"] := by
  have contract := find?_findsNearest_iff_inReach nestedDisk "." ["p", "src"] rfl rfl (by decide)
    (by decide)
  refine ⟨rfl, rfl, by decide, by decide, ?_⟩
  rw [contract.2.2]
  intro within
  rcases within ["p"] nestedDisk_governs with absolute | outside
  · exact absurd absolute (by decide)
  · exact absurd outside (by decide)

example : Settings.find? nestedDisk "." = none ∧
    Settings.find? nestedDisk "/p/src" = some "/p/.icgrc.json" := by decide

end InterfaceLint
