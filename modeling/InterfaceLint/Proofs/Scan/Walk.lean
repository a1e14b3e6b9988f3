import InterfaceLint.Proofs.Disk.Tree
import InterfaceLint.Proofs.Scan.Selection

/-!
# A scan selects what its includes name

Each include is judged on its own.  One that is a file is selected as it is.
One that is a directory is walked, and every file met at any depth is selected
if its name ends with the model suffix and no ignore entry covers its own path
text.  An include that leads nowhere adds nothing.
-/

set_option autoImplicit false

namespace InterfaceLint

/-! ## Ignored paths -/

/-- No entry covers the path: none without a wildcard, joined to the base, is a
beginning of its components, and none that compiles to a pattern matches its
text. -/
def Ignores.Spare (base : String) (entries : List String) (path : String) : Prop :=
  ∀ entry ∈ entries,
    (('*' ∉ entry.toList ∧ '?' ∉ entry.toList) →
      ¬ Path.components (Path.join base entry) <+: Path.components path) ∧
    (('*' ∈ entry.toList ∨ '?' ∈ entry.toList) →
      ∀ pattern, Glob.compile entry = .ok pattern → pattern.matches path = false)

theorem Glob.isPattern_iff {entry : String} :
    isPattern entry = true ↔ '*' ∈ entry.toList ∨ '?' ∈ entry.toList := by
  simp only [isPattern, List.any_eq_true, Bool.or_eq_true, beq_iff_eq]
  constructor
  · rintro ⟨c, member, rfl | rfl⟩
    · exact .inl member
    · exact .inr member
  · rintro (member | member)
    · exact ⟨_, member, .inl rfl⟩
    · exact ⟨_, member, .inr rfl⟩

theorem Ignores.covers_ofEntries_eq_false_iff {base path : String} {entries : List String} :
    (Ignores.ofEntries base entries).covers path = false ↔ Spare base entries path := by
  have literal : ∀ entry, Glob.isPattern entry = false ↔
      '*' ∉ entry.toList ∧ '?' ∉ entry.toList := by
    intro entry
    rw [← Bool.not_eq_true, Glob.isPattern_iff, not_or]
  simp only [covers, ofEntries, Bool.or_eq_false_iff, List.any_eq_false, List.mem_map,
    List.mem_filterMap, List.mem_filter, Bool.not_eq_true', literal, Glob.isPattern_iff,
    toOption_eq_some_iff, Path.startsWith, List.isPrefixOf_iff_prefix, Bool.not_eq_true]
  constructor
  · intro spared entry listed
    refine ⟨fun isLiteral => ?_, fun isPattern pattern isCompiled => ?_⟩
    · exact spared.1 _ ⟨entry, ⟨listed, isLiteral⟩, rfl⟩
    · exact spared.2 pattern ⟨entry, ⟨listed, isPattern⟩, isCompiled⟩
  · intro spared
    refine ⟨?_, ?_⟩
    · rintro _ ⟨entry, ⟨listed, isLiteral⟩, rfl⟩
      exact (spared entry listed).1 isLiteral
    · rintro pattern ⟨entry, ⟨listed, isPattern⟩, isCompiled⟩
      exact (spared entry listed).2 isPattern pattern isCompiled

/-! ## What one root selects -/

namespace Scan

/-- A root of a scan: the base when nothing is included, else what an include
stands for. -/
inductive IsRoot (base : String) (includes : List String) : String → Prop
  | base (empty : includes = []) : IsRoot base includes base
  | dot (listed : "." ∈ includes) : IsRoot base includes base
  | entry (entry : String) (listed : entry ∈ includes) (named : entry ≠ ".") :
      IsRoot base includes (Path.join base entry)

/-- A file with the model suffix that a walk from a directory comes to: a
directory on the walk lists its name. -/
structure WalksTo (disk : Disk) (root path directory name : String) : Prop where
  isDirectory : disk.find root = .ok .directory
  walked : disk.Walks root directory
  listed : disk.Opens directory name
  text : path = Path.join directory name
  file : disk.isFile path = true
  suffix : modelSuffix.toList <:+ name.toList

theorem isModelName_join_iff {directory name : String} (isName : Disk.IsName name) :
    isModelName (Path.join directory name) = true ↔ modelSuffix.toList <:+ name.toList := by
  rw [isModelName, Path.getLast?_components_join isName.segment]
  exact List.isSuffixOf_iff_suffix

theorem mem_roots_iff {disk : Disk} {base root : String} {includes : List String}
    (present : disk.contains root = true) :
    root ∈ roots disk base includes ↔ IsRoot base includes root := by
  unfold roots
  split
  · rename_i empty
    rw [List.isEmpty_iff] at empty
    rw [List.mem_singleton]
    constructor
    · rintro rfl
      exact .base empty
    · intro isRoot
      cases isRoot with
      | base => rfl
      | dot listed => simp [empty] at listed
      | entry entry listed => simp [empty] at listed
  · rename_i nonempty
    rw [List.isEmpty_iff] at nonempty
    simp only [List.mem_filter, List.mem_map, present, and_true]
    constructor
    · rintro ⟨entry, listed, rfl⟩
      unfold includePath
      split
      · rename_i isDot
        exact .dot (isDot ▸ listed)
      · rename_i named
        exact .entry entry listed named
    · intro isRoot
      cases isRoot with
      | base empty => exact absurd empty nonempty
      | dot listed => exact ⟨".", listed, by simp [includePath]⟩
      | entry entry listed named => exact ⟨entry, listed, by simp [includePath, named]⟩

theorem exists_walksTo_of_meetsFile {disk : Disk} (tree : disk.IsTree) {root path : String}
    {position : Position} {names : List String} {content : ByteArray}
    (meets : MeetsFile disk root path position names content) (isModel : isModelName path = true) :
    ∃ directory name, WalksTo disk root path directory name := by
  obtain ⟨place, removed⟩ := position
  obtain rfl : removed = 0 := by simpa [Position.isRemoved] using meets.present
  obtain ⟨front, name, rfl⟩ := (List.eq_nil_or_concat' names).resolve_left meets.below
  have resolved := meets.resolved
  have rootUsable := (Disk.resolve_eq_ok_iff.mp resolved).1
  have file : disk.entry? (place ++ (front ++ [name])) = some (.file content) :=
    tree.entry?_of_mem meets.listed
  have found : (disk.entry? (place ++ (front ++ [name]))).isSome = true := by simp [file]
  have usable : Disk.pathFault? (Disk.textBelow root (front ++ [name])) = none :=
    Disk.pathFault?_textBelow rootUsable
      (fun other member => tree.isName_of_mem found (List.mem_append_right _ member)) meets.fits
  have last := tree.lastStep rootUsable found usable
  have within : (disk.entry? (place ++ front)).isSome = true := by simp [last.directory]
  have text : path = Path.join (Disk.textBelow root front) name := by
    rw [meets.text, Disk.textBelow_concat]
  refine ⟨Disk.textBelow root front, name, ?_, ?_, ?_, text, ?_, ?_⟩
  · exact Disk.find_eq_ok_iff.mpr
      ⟨_, resolved, tree.directory_of_isSome (List.append_ne_nil_of_right_ne_nil _ (by simp)) found⟩
  · exact tree.walks_textBelow resolved within last.usable
  · exact ⟨_, tree.resolve_textBelow resolved within last.usable, last.listed⟩
  · rw [meets.text]
    exact Disk.isFile_iff.mpr ⟨_, content, tree.resolve_textBelow resolved found usable, file⟩
  · rw [text] at isModel
    exact (isModelName_join_iff last.isName).mp isModel

theorem exists_meetsFile_of_walksTo {disk : Disk} (tree : disk.IsTree)
    {root path directory name : String} (walks : WalksTo disk root path directory name) :
    isModelName path = true ∧
      ∃ content position names, MeetsFile disk root path position names content := by
  obtain ⟨within, opened, listed⟩ := walks.listed
  have isName := tree.isName_of_lists listed
  obtain ⟨place, front, resolved, rfl, rfl⟩ := tree.exists_textBelow_of_walks walks.walked opened
  obtain ⟨target, content, leads, file⟩ := Disk.isFile_iff.mp walks.file
  have text := walks.text
  subst text
  obtain ⟨usable, other, followed, _, _, same⟩ := (Disk.resolve_join_eq_ok_iff isName).mp leads
  rw [(Disk.resolve_eq_ok_iff.mp opened).2] at followed
  cases followed
  cases same
  refine ⟨(isModelName_join_iff isName).mpr walks.suffix, content, ⟨place, 0⟩, front ++ [name], ?_⟩
  exact {
    resolved
    present := rfl
    below := by simp
    listed := by
      rw [← List.append_assoc]
      exact Disk.mem_of_entry?_eq_some file (by simp)
    parentFits := by
      rw [List.dropLast_concat]
      exact (Disk.pathFault?_eq_none_iff.mp (Disk.resolve_eq_ok_iff.mp opened).1).2.2
    fits := by
      rw [Disk.textBelow_concat]
      exact (Disk.pathFault?_eq_none_iff.mp usable).2.2
    text := (Disk.textBelow_concat root front name).symm }

/-- What one root of a tree contributes, told by the walk from it. -/
theorem mem_filesAt_iff_walksTo {disk : Disk} (tree : disk.IsTree) {base root path : String}
    {entries : List String} :
    path ∈ filesAt disk (Ignores.ofEntries base entries) root ↔
      (disk.isFile root = true ∧ path = root) ∨
        ((∃ directory name, WalksTo disk root path directory name) ∧
          Ignores.Spare base entries path) := by
  rw [mem_filesAt_iff, Ignores.covers_ofEntries_eq_false_iff]
  refine or_congr_right ?_
  constructor
  · intro selected
    obtain ⟨_, isModel, spared, content, position, names, meets⟩ := selected
    exact ⟨exists_walksTo_of_meetsFile tree meets isModel, spared⟩
  · intro selected
    obtain ⟨⟨directory, name, walks⟩, spared⟩ := selected
    obtain ⟨isModel, meets⟩ := exists_meetsFile_of_walksTo tree walks
    have notFile : disk.isFile root = false := by simp [Disk.isFile, walks.isDirectory]
    exact ⟨notFile, isModel, spared, meets⟩

end Scan

/-- Whatever a scan of a tree selects can be opened. -/
theorem isFile_of_mem_scan_files {disk : Disk} (tree : disk.IsTree) {base path : String}
    {includes ignores : List String} (selected : path ∈ (scan disk base includes ignores).files) :
    disk.isFile path = true := by
  obtain ⟨root, _, contributed⟩ := mem_scan_files_iff.mp selected
  rcases (Scan.mem_filesAt_iff_walksTo tree).mp contributed with
    ⟨isFile, rfl⟩ | ⟨⟨directory, name, walks⟩, _⟩
  · exact isFile
  · exact walks.file

/-- A scan of a tree selects the files among its roots, and the model files that
walks from the directories among them come to, as far as they are not ignored;
and nothing else. -/
theorem mem_scan_files_iff_walks (disk : Disk) (tree : disk.IsTree) (base path : String)
    (includes ignores : List String) :
    path ∈ (scan disk base includes ignores).files ↔
      ∃ root, Scan.IsRoot base includes root ∧
        ((disk.isFile root = true ∧ path = root) ∨
          ((∃ directory name, Scan.WalksTo disk root path directory name) ∧
            Ignores.Spare base ignores path)) := by
  rw [mem_scan_files_iff]
  simp only [Scan.mem_filesAt_iff_walksTo tree]
  -- A root that contributes exists, so it is among those that are searched.
  refine exists_congr fun root => and_congr_left fun contributes => Scan.mem_roots_iff ?_
  rw [Disk.contains_iff]
  rcases contributes with ⟨isFile, _⟩ | ⟨⟨directory, name, walks⟩, _⟩
  · obtain ⟨place, _, resolved, _⟩ := Disk.isFile_iff.mp isFile
    exact ⟨_, resolved⟩
  · obtain ⟨position, resolved, _⟩ := Disk.find_eq_ok_iff.mp walks.isDirectory
    exact ⟨position, resolved⟩

def layeredDisk : Disk where
  entries := [(["w"], .directory), (["w", "export.json"], .file "\x7b\x7d".toUTF8),
    (["w", "src"], .directory), (["w", "src", "a.icg.json"], .file "\x7b\x7d".toUTF8),
    (["w", "src", "bin"], .directory), (["w", "src", "bin", "b.icg.json"], .file "[".toUTF8),
    (["w", "src", "old"], .directory), (["w", "src", "old", "c.icg.json"], .file "".toUTF8)]
  cwd := ⟨["w"], 0⟩

theorem layeredDisk_isTree : layeredDisk.IsTree :=
  ⟨by decide, by decide, by decide, by decide⟩

theorem layeredDisk_files :
    (scan layeredDisk "." ["src", "export.json", "none"] ["**/bin/**", "src/old"]).files =
      ["./export.json", "./src/a.icg.json"] := by
  decide +kernel

theorem mem_scan_files_iff_layeredDisk :
    layeredDisk.IsTree ∧
      "./src/a.icg.json" ∈ (scan layeredDisk "." ["src", "export.json", "none"]
        ["**/bin/**", "src/old"]).files ∧
      ∃ root, Scan.IsRoot "." ["src", "export.json", "none"] root ∧
        ((layeredDisk.isFile root = true ∧ "./src/a.icg.json" = root) ∨
          ((∃ directory name, Scan.WalksTo layeredDisk root "./src/a.icg.json" directory name) ∧
            Ignores.Spare "." ["**/bin/**", "src/old"] "./src/a.icg.json")) := by
  have selected : "./src/a.icg.json" ∈ (scan layeredDisk "." ["src", "export.json", "none"]
      ["**/bin/**", "src/old"]).files := by
    rw [layeredDisk_files]
    simp
  exact ⟨layeredDisk_isTree, selected, (mem_scan_files_iff_walks layeredDisk layeredDisk_isTree
    "." "./src/a.icg.json" ["src", "export.json", "none"] ["**/bin/**", "src/old"]).mp selected⟩

end InterfaceLint
