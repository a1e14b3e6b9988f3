import InterfaceLint.Proofs.Disk.Resolution

/-!
# Trees of directories and files

A disk is a tree when each place is taken once, by names that a directory can
list, and lies in a directory.  Directories opened one below the other, each
by its path text, then lead to exactly the entries below a root, under the
root with their names joined to it.
-/

set_option autoImplicit false

namespace InterfaceLint.Disk

structure IsTree (disk : Disk) : Prop where
  distinct : (disk.entries.map Prod.fst).Nodup
  nonempty : ∀ item ∈ disk.entries, item.1 ≠ []
  named : ∀ item ∈ disk.entries, ∀ name ∈ item.1, IsName name
  closed : ∀ item ∈ disk.entries, disk.entry? item.1.dropLast = some .directory

instance (name : String) : Decidable (IsName name) :=
  decidable_of_iff
    (('/' ∉ name.toList ∧ Path.isBlank name.toList = false ∧ name.toList ≠ ['.', '.']) ∧
      '\x00' ∉ name.toList ∧ name.utf8ByteSize ≤ maxNameSize)
    ⟨fun ⟨⟨plain, notBlank, notParent⟩, noNul, fits⟩ =>
        ⟨⟨plain, notBlank, notParent⟩, noNul, fits⟩,
      fun isName => ⟨⟨isName.segment.plain, isName.segment.notBlank, isName.segment.notParent⟩,
        isName.noNul, isName.fits⟩⟩

/-! ## Entries of a tree -/

theorem mem_of_entry?_eq_some {disk : Disk} {place : List String} {entry : Entry}
    (found : disk.entry? place = some entry) (nonempty : place ≠ []) :
    (place, entry) ∈ disk.entries := by
  rw [disk.entry?_of_ne_nil nonempty] at found
  obtain ⟨before, after, shape, _⟩ := List.lookup_eq_some_iff.mp found
  simp [shape]

theorem lookup_of_mem {entries : List (List String × Entry)}
    (distinct : (entries.map Prod.fst).Nodup) {place : List String} {entry : Entry}
    (member : (place, entry) ∈ entries) : entries.lookup place = some entry := by
  induction entries with
  | nil => cases member
  | cons first entries induction =>
      obtain ⟨names, other⟩ := first
      obtain ⟨absent, rest⟩ := List.nodup_cons.mp distinct
      rcases List.mem_cons.mp member with same | later
      · cases same
        simp
      · have different : (place == names) = false := by
          rw [beq_eq_false_iff_ne]
          rintro rfl
          exact absent (List.mem_map.mpr ⟨_, later, rfl⟩)
        rw [List.lookup_cons, different]
        exact induction rest later

namespace IsTree

variable {disk : Disk} (tree : disk.IsTree)
include tree

theorem entry?_of_mem {place : List String} {entry : Entry}
    (listed : (place, entry) ∈ disk.entries) : disk.entry? place = some entry := by
  rw [disk.entry?_of_ne_nil (tree.nonempty _ listed)]
  exact lookup_of_mem tree.distinct listed

theorem isName_of_mem {place : List String} (found : (disk.entry? place).isSome = true)
    {name : String} (member : name ∈ place) : IsName name := by
  obtain ⟨entry, found⟩ := Option.isSome_iff_exists.mp found
  exact tree.named _ (mem_of_entry?_eq_some found (List.ne_nil_of_mem member)) name member

theorem isName_of_lists {place : List String} {name : String} (listed : disk.Lists place name) :
    IsName name :=
  tree.isName_of_mem listed (by simp)

/-- What lies below a place lies in a directory there. -/
theorem directory_of_isSome {place : List String} : ∀ {names : List String}, names ≠ [] →
    (disk.entry? (place ++ names)).isSome = true → disk.entry? place = some .directory := by
  intro names
  induction names using List.reverseRecOn with
  | nil => intro nonempty; exact absurd rfl nonempty
  | append_singleton front name induction =>
      intro _ found
      obtain ⟨entry, found⟩ := Option.isSome_iff_exists.mp found
      have listed := mem_of_entry?_eq_some found (by simp)
      have within := tree.closed _ listed
      rw [← List.append_assoc, List.dropLast_concat] at within
      by_cases here : front = []
      · simpa [here] using within
      · exact induction here (by simp [within])

end IsTree

/-! ## Path texts below a root -/

theorem textBelow_concat (root : String) (front : List String) (name : String) :
    textBelow root (front ++ [name]) = Path.join (textBelow root front) name := by
  simp [textBelow]

theorem textBelow_isPrefix (root : String) : ∀ {names : List String},
    (∀ name ∈ names, IsName name) → root.toList <+: (textBelow root names).toList := by
  intro names
  induction names using List.reverseRecOn with
  | nil => intro _; exact List.prefix_refl _
  | append_singleton front name induction =>
      intro named
      rw [textBelow_concat]
      have start := induction fun name member => named name (List.mem_append_left _ member)
      exact start.trans (Path.join_isPrefix _ (named name (by simp)).isAbsolute)

/-- With names that can be listed, only the size of the text can make it of no
use. -/
theorem pathFault?_textBelow {root : String} (usable : pathFault? root = none) :
    ∀ {names : List String}, (∀ name ∈ names, IsName name) →
      (textBelow root names).utf8ByteSize ≤ maxPathSize →
        pathFault? (textBelow root names) = none := by
  intro names
  induction names using List.reverseRecOn with
  | nil => intro _ _; exact usable
  | append_singleton front name induction =>
      intro named fits
      have isName := named name (by simp)
      rw [textBelow_concat] at fits ⊢
      rw [utf8ByteSize_join _ isName.isAbsolute] at fits
      have before := induction (fun name member => named name (List.mem_append_left _ member))
        (by omega)
      exact (pathFault?_join_eq_none_iff isName).mpr ⟨(pathFault?_eq_none_iff.mp before).2.1, fits⟩

/-- The last step of the way to an entry below a root. -/
structure LastStep (disk : Disk) (root : String) (place front : List String) (name : String) :
    Prop where
  isName : IsName name
  directory : disk.entry? (place ++ front) = some .directory
  listed : disk.Lists (place ++ front) name
  usable : pathFault? (textBelow root front) = none

theorem IsTree.lastStep {disk : Disk} (tree : disk.IsTree) {root : String}
    (rootUsable : pathFault? root = none) {place front : List String} {name : String}
    (found : (disk.entry? (place ++ (front ++ [name]))).isSome = true)
    (usable : pathFault? (textBelow root (front ++ [name])) = none) :
    LastStep disk root place front name := by
  have named : ∀ other ∈ front ++ [name], IsName other := fun other member =>
    tree.isName_of_mem found (List.mem_append_right _ member)
  have isName := named name (by simp)
  have nonempty : textBelow root front ≠ "" := by
    intro empty
    have start := textBelow_isPrefix root fun other member =>
      named other (List.mem_append_left _ member)
    rw [empty] at start
    exact (pathFault?_eq_none_iff.mp rootUsable).1
      (String.toList_eq_nil_iff.mp (by simpa using start))
  rw [← List.append_assoc] at found
  refine ⟨isName, tree.directory_of_isSome (List.cons_ne_nil name []) found, found, ?_⟩
  refine pathFault?_eq_none_of_isPrefix nonempty ?_ usable
  rw [textBelow_concat]
  exact Path.join_isPrefix _ isName.isAbsolute

theorem IsTree.resolve_textBelow {disk : Disk} (tree : disk.IsTree) {root : String}
    {place : List String} (resolved : disk.resolve root = .ok ⟨place, 0⟩) :
    ∀ {names : List String}, (disk.entry? (place ++ names)).isSome = true →
      pathFault? (textBelow root names) = none →
        disk.resolve (textBelow root names) = .ok ⟨place ++ names, 0⟩ := by
  intro names
  induction names using List.reverseRecOn with
  | nil => intro _ _; simpa [textBelow] using resolved
  | append_singleton front name induction =>
      intro found usable
      have last := tree.lastStep (resolve_eq_ok_iff.mp resolved).1 found usable
      have leads := induction (by simp [last.directory]) last.usable
      rw [textBelow_concat] at usable ⊢
      rw [← List.append_assoc]
      exact (resolve_join_eq_ok_iff last.isName).mpr
        ⟨usable, place ++ front, (resolve_eq_ok_iff.mp leads).2, last.directory, last.listed, rfl⟩

/-! ## Walks -/

def Opens (disk : Disk) (directory name : String) : Prop :=
  ∃ place, disk.resolve directory = .ok ⟨place, 0⟩ ∧ disk.Lists place name

/-- The path texts one comes to by opening directories from a root on. -/
inductive Walks (disk : Disk) (root : String) : String → Prop
  | root : Walks disk root root
  | entry {directory name : String} (walked : Walks disk root directory)
      (listed : disk.Opens directory name) : Walks disk root (Path.join directory name)

theorem IsTree.walks_textBelow {disk : Disk} (tree : disk.IsTree) {root : String}
    {place : List String} (resolved : disk.resolve root = .ok ⟨place, 0⟩) :
    ∀ {names : List String}, (disk.entry? (place ++ names)).isSome = true →
      pathFault? (textBelow root names) = none → disk.Walks root (textBelow root names) := by
  intro names
  induction names using List.reverseRecOn with
  | nil => intro _ _; exact .root
  | append_singleton front name induction =>
      intro found usable
      have last := tree.lastStep (resolve_eq_ok_iff.mp resolved).1 found usable
      have within : (disk.entry? (place ++ front)).isSome = true := by simp [last.directory]
      rw [textBelow_concat]
      exact .entry (induction within last.usable)
        ⟨place ++ front, tree.resolve_textBelow resolved within last.usable, last.listed⟩

/-- What a walk comes to lies below its root, and the text says where. -/
theorem IsTree.exists_textBelow_of_walks {disk : Disk} (tree : disk.IsTree) {root path : String}
    (walked : disk.Walks root path) : ∀ {place : List String},
      disk.resolve path = .ok ⟨place, 0⟩ →
        ∃ top names, disk.resolve root = .ok ⟨top, 0⟩ ∧ place = top ++ names ∧
          path = textBelow root names := by
  induction walked with
  | root =>
      intro place resolved
      exact ⟨place, [], resolved, by simp, rfl⟩
  | entry walked listed induction =>
      rename_i directory name
      intro place resolved
      obtain ⟨within, opened, listed⟩ := listed
      obtain ⟨top, front, atRoot, rfl, rfl⟩ := induction opened
      obtain ⟨_, other, leads, _, _, same⟩ :=
        (resolve_join_eq_ok_iff (tree.isName_of_lists listed)).mp resolved
      rw [(resolve_eq_ok_iff.mp opened).2] at leads
      cases leads
      cases same
      exact ⟨top, front ++ [name], atRoot, by simp, (textBelow_concat root front name).symm⟩

end InterfaceLint.Disk
