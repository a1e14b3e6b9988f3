import InterfaceLint.Proofs.Disk.Tree

/-!
# Adding an entry

An entry put where nothing was takes nothing away.  A path that led somewhere
leads there still, a file reads as before, and a walk meets the new entry after
all others.
-/

set_option autoImplicit false

namespace InterfaceLint.Disk

/-- Nothing is at the place on the first disk, and the second has the entry there
and else the same. -/
structure Adds (place : List String) (entry : Entry) (disk changed : Disk) : Prop where
  cwd : changed.cwd = disk.cwd
  absent : disk.entry? place = none
  entries : changed.entries = disk.entries ++ [(place, entry)]

theorem ne_nil_of_absent {disk : Disk} {place : List String} (absent : disk.entry? place = none) :
    place ≠ [] := by
  rintro rfl
  simp at absent

theorem place_ne_of_absent {disk : Disk} {place : List String} (absent : disk.entry? place = none)
    {item : List String × Entry} (listed : item ∈ disk.entries) : item.1 ≠ place := by
  rw [disk.entry?_of_ne_nil (ne_nil_of_absent absent), List.lookup_eq_none_iff] at absent
  exact fun same => by simpa [same] using absent item listed

theorem adds_put {disk : Disk} {place : List String} (absent : disk.entry? place = none)
    (entry : Entry) : Adds place entry disk (disk.put place entry) where
  cwd := rfl
  absent := absent
  entries := by
    have others : (disk.entries.filter fun item => item.1 != place) = disk.entries := by
      rw [List.filter_eq_self]
      intro item listed
      simpa using place_ne_of_absent absent listed
    exact congrArg (· ++ [(place, entry)]) others

namespace Adds

variable {place : List String} {entry : Entry} {disk changed : Disk}
  (adds : Adds place entry disk changed)
include adds

theorem entry?_self : changed.entry? place = some entry := by
  have nonempty := ne_nil_of_absent adds.absent
  have absent := adds.absent
  rw [disk.entry?_of_ne_nil nonempty] at absent
  rw [changed.entry?_of_ne_nil nonempty, adds.entries, List.lookup_append, absent]
  simp

theorem entry?_ne {other : List String} (different : other ≠ place) :
    changed.entry? other = disk.entry? other := by
  have notPlace : (other == place) = false := beq_eq_false_iff_ne.mpr different
  apply entry?_congr
  simp [adds.entries, List.lookup_append, List.lookup_cons, notPlace]

/-! ## What was there stays -/

theorem entry?_of_eq_some {other : List String} {found : Entry}
    (there : disk.entry? other = some found) : changed.entry? other = some found := by
  have different : other ≠ place := by
    rintro rfl
    simp [adds.absent] at there
  rw [adds.entry?_ne different, there]

theorem entryAt?_of_eq_some {position : Position} {found : Entry}
    (there : disk.entryAt? position = some found) : changed.entryAt? position = some found := by
  unfold entryAt? at there ⊢
  split
  · rename_i removed
    rwa [if_pos removed] at there
  · rename_i present
    rw [if_neg present] at there
    exact adds.entry?_of_eq_some there

theorem enter_of_eq_ok {position next : Position} {name : String}
    (entered : disk.enter position name = .ok next) : changed.enter position name = .ok next := by
  unfold enter at entered ⊢
  split
  · rename_i removed
    rwa [if_pos removed] at entered
  · rename_i present
    rw [if_neg present] at entered
    split
    · rename_i tooLong
      rwa [if_pos tooLong] at entered
    · rename_i fits
      rw [if_neg fits] at entered
      split at entered
      · rename_i listed
        obtain ⟨found, there⟩ := Option.isSome_iff_exists.mp listed
        rw [adds.entry?_of_eq_some there]
        exact entered
      · cases entered

theorem follow_of_eq_ok : ∀ {segments : List (List Char)} {position target : Position},
    disk.follow segments position = .ok target → changed.follow segments position = .ok target := by
  intro segments
  -- Only steps that succeed are kept: where one failed, the new entry may let it succeed.
  induction segments with
  | nil => intro position target leads; exact leads
  | cons segment segments induction =>
      intro position target leads
      rw [follow] at leads ⊢
      cases there : disk.entryAt? position with
      | none => simp [there] at leads
      | some found =>
          rw [adds.entryAt?_of_eq_some there]
          rw [there] at leads
          cases found with
          | file content => cases leads
          | directory =>
              dsimp only at leads ⊢
              split
              · rename_i blank
                rw [if_pos blank] at leads
                exact induction leads
              · rename_i notBlank
                rw [if_neg notBlank] at leads
                split
                · rename_i isParent
                  rw [if_pos isParent] at leads
                  exact induction leads
                · rename_i notParent
                  rw [if_neg notParent] at leads
                  cases entered : disk.enter position (String.ofList segment) with
                  | error fault => simp [entered] at leads
                  | ok next =>
                      rw [entered] at leads
                      rw [adds.enter_of_eq_ok entered]
                      exact induction leads

theorem resolve_of_eq_ok {path : String} {position : Position}
    (leads : disk.resolve path = .ok position) : changed.resolve path = .ok position := by
  rw [resolve_eq_ok_iff] at leads ⊢
  rw [start, adds.cwd]
  exact ⟨leads.1, adds.follow_of_eq_ok leads.2⟩

theorem find_of_eq_ok {path : String} {found : Entry} (leads : disk.find path = .ok found) :
    changed.find path = .ok found := by
  rw [find_eq_ok_iff] at leads ⊢
  obtain ⟨position, resolved, there⟩ := leads
  exact ⟨position, adds.resolve_of_eq_ok resolved, adds.entryAt?_of_eq_some there⟩

/-- A file that could be opened reads as it did. -/
theorem readText_eq {path : String} (isFile : disk.isFile path = true) :
    changed.readText path = disk.readText path := by
  obtain ⟨target, content, resolved, file⟩ := isFile_iff.mp isFile
  have found : disk.find path = .ok (.file content) := find_eq_ok_iff.mpr ⟨_, resolved, file⟩
  rw [readText, readText, read, read, found, adds.find_of_eq_ok found]

end Adds

/-! ## A new entry below a directory -/

/-- A file is put into a directory that is there, under a name that no directory
has. -/
theorem putFile_eq_ok_iff {disk changed : Disk} {directory : Position} {segment : List Char}
    (entry : Path.IsEntrySegment segment) {content : ByteArray} :
    disk.putFile directory segment content = .ok changed ↔
      ∃ place, directory = ⟨place, 0⟩ ∧ (String.ofList segment).utf8ByteSize ≤ maxNameSize ∧
        disk.entry? (place ++ [String.ofList segment]) ≠ some .directory ∧
        changed = disk.put (place ++ [String.ofList segment]) (.file content) := by
  obtain ⟨place, removed⟩ := directory
  simp only [putFile, entry.notBlank, entry.notParent, Bool.false_or, decide_false,
    Bool.false_eq_true, if_false, Position.mk.injEq]
  by_cases gone : removed = 0
  · subst gone
    simp only [Position.isRemoved, ne_eq, not_true, decide_false, Bool.false_eq_true, if_false,
      and_true, exists_eq_left']
    by_cases tooLong : (String.ofList segment).utf8ByteSize > maxNameSize
    · simp [tooLong, Nat.not_le.mpr tooLong]
    · rw [if_neg tooLong]
      split
      · rename_i taken
        simp [taken]
      · rename_i notTaken
        rw [Except.ok.injEq]
        exact ⟨fun same => ⟨Nat.not_lt.mp tooLong, notTaken, same.symm⟩, fun put => put.2.2.symm⟩
  · simp [Position.isRemoved, gone]

theorem Adds.lists {top : List String} {name : String} {entry : Entry} {disk changed : Disk}
    (adds : Adds (top ++ [name]) entry disk changed) : changed.Lists top name := by
  rw [Lists, adds.entry?_self]
  rfl

theorem Adds.isTree {top : List String} {name : String} {entry : Entry} {disk changed : Disk}
    (adds : Adds (top ++ [name]) entry disk changed) (tree : disk.IsTree) (isName : IsName name)
    (directory : disk.entry? top = some .directory) : changed.IsTree where
  distinct := by
    rw [adds.entries, List.map_append, List.nodup_append]
    refine ⟨tree.distinct, by simp, ?_⟩
    intro _ member place added
    obtain ⟨item, listed, rfl⟩ := List.mem_map.mp member
    obtain rfl : place = top ++ [name] := by simpa using added
    exact place_ne_of_absent adds.absent listed
  nonempty := by
    rw [adds.entries, List.forall_mem_append]
    exact ⟨tree.nonempty, by simp⟩
  named := by
    rw [adds.entries, List.forall_mem_append]
    refine ⟨tree.named, ?_⟩
    intro item added other member
    obtain rfl : item = (top ++ [name], entry) := by simpa using added
    rcases List.mem_append.mp member with inTop | here
    · exact tree.isName_of_mem (by simp [directory]) inTop
    · obtain rfl : other = name := by simpa using here
      exact isName
  closed := by
    rw [adds.entries, List.forall_mem_append]
    refine ⟨fun item listed => adds.entry?_of_eq_some (tree.closed item listed), ?_⟩
    intro item added
    obtain rfl : item = (top ++ [name], entry) := by simpa using added
    rw [List.dropLast_concat]
    exact adds.entry?_of_eq_some directory

theorem Adds.walk_eq {top names : List String} {entry : Entry} {disk changed : Disk}
    (adds : Adds (top ++ names) entry disk changed) (below : names ≠ []) {root : String}
    (resolved : disk.resolve root = .ok ⟨top, 0⟩) (directory : disk.entry? top = some .directory) :
    changed.walk root = disk.walk root ++ (meet? root names entry).toList := by
  have found : disk.find root = .ok .directory := find_eq_ok_iff.mpr ⟨_, resolved, directory⟩
  have isBelow : changed.below ⟨top, 0⟩ = disk.below ⟨top, 0⟩ ++ [(names, entry)] := by
    simp [Disk.below, Position.isRemoved, adds.entries, below]
  rw [walk, walk, adds.resolve_of_eq_ok resolved, resolved, adds.find_of_eq_ok found, found]
  dsimp only
  rw [isBelow, List.filterMap_append, List.cons_append]
  congr 2

end InterfaceLint.Disk
