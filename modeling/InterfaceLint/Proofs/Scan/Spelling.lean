import InterfaceLint.Proofs.CheckRun.Composition
import InterfaceLint.Proofs.Disk.Spelling
import InterfaceLint.Proofs.Scan.Walk
import InterfaceLint.Proofs.Wire.RoundTrip
import Mathlib.Data.List.Perm.Basic

/-!
# Files selected under several spellings

A scan tells files apart by their path texts alone.  From one root each file
has one text, so a file is selected twice exactly when two roots, one at or
below the place of the other, spell the way to it apart.  Includes that are
written as names below the base all spell it alike, however they overlap, and
a check with such includes goes through each file once.
-/

set_option autoImplicit false

namespace InterfaceLint

/-! ## Files selected twice -/

namespace Scan

/-- Two texts for one place go on apart with the names below it: they differ, and
where names follow they differ by more than a separator at the end. -/
inductive SpelledApart (left right : String) : List String → Prop
  | here (apart : left ≠ right) : SpelledApart left right []
  | below {name : String} {names : List String} (apart : Path.join left "" ≠ Path.join right "") :
      SpelledApart left right (name :: names)

theorem spelledApart_iff {left right : String} {names : List String}
    (named : ∀ name ∈ names, Disk.IsName name) :
    SpelledApart left right names ↔ Disk.textBelow left names ≠ Disk.textBelow right names := by
  cases names with
  | nil => exact ⟨fun | .here apart => apart, .here⟩
  | cons name names =>
      rw [ne_eq, Disk.textBelow_eq_iff named]
      exact ⟨fun | .below apart => apart, .below⟩

/-- Two roots select the file at a place under two texts: the place of the inner
root is that of the outer one or below it, and the way there from the outer root
is spelled apart from the inner root. -/
structure Respells (disk : Disk) (base : String) (includes ignores : List String)
    (outer inner : String) (top between names : List String) : Prop where
  outerRoot : IsRoot base includes outer
  innerRoot : IsRoot base includes inner
  outerAt : disk.resolve outer = .ok ⟨top, 0⟩
  innerAt : disk.resolve inner = .ok ⟨top ++ between, 0⟩
  file : ∃ content, disk.entry? (top ++ between ++ names) = some (.file content)
  outerSelects : Disk.textBelow outer (between ++ names) ∈
    filesAt disk (Ignores.ofEntries base ignores) outer
  innerSelects : Disk.textBelow inner names ∈ filesAt disk (Ignores.ofEntries base ignores) inner
  apart : SpelledApart (Disk.textBelow outer between) inner names

section

variable {disk : Disk} (tree : disk.IsTree) {base : String} {includes ignores : List String}
include tree

theorem exists_below_of_mem_filesAt {root path : String} {place : List String}
    (selected : path ∈ filesAt disk (Ignores.ofEntries base ignores) root)
    (leads : disk.resolve path = .ok ⟨place, 0⟩) :
    ∃ top names, disk.resolve root = .ok ⟨top, 0⟩ ∧ place = top ++ names ∧
      path = Disk.textBelow root names := by
  rcases (mem_filesAt_iff_walksTo tree).mp selected with ⟨_, rfl⟩ | ⟨⟨directory, name, walks⟩, _⟩
  · exact ⟨place, [], leads, by simp, rfl⟩
  · have walked := Disk.Walks.entry walks.walked walks.listed
    rw [← walks.text] at walked
    exact tree.exists_textBelow_of_walks walked leads

theorem isFile_of_mem_filesAt {root path : String}
    (selected : path ∈ filesAt disk (Ignores.ofEntries base ignores) root) :
    disk.isFile path = true := by
  rcases (mem_filesAt_iff_walksTo tree).mp selected with ⟨isFile, same⟩ | ⟨⟨_, _, walks⟩, _⟩
  · rwa [same]
  · exact walks.file

theorem leadsToFile_of_mem_filesAt {root : String} {top names : List String}
    (selected : Disk.textBelow root names ∈ filesAt disk (Ignores.ofEntries base ignores) root)
    (resolved : disk.resolve root = .ok ⟨top, 0⟩)
    (file : ∃ content, disk.entry? (top ++ names) = some (.file content)) :
    disk.LeadsToFile (Disk.textBelow root names) (top ++ names) := by
  obtain ⟨_, _, leads, _⟩ := Disk.isFile_iff.mp (isFile_of_mem_filesAt tree selected)
  obtain ⟨content, found⟩ := file
  exact ⟨tree.resolve_textBelow resolved (by simp [found]) (Disk.resolve_eq_ok_iff.mp leads).1,
    content, found⟩

theorem mem_scan_files_iff_isRoot {path : String} :
    path ∈ (scan disk base includes ignores).files ↔
      ∃ root, IsRoot base includes root ∧
        path ∈ filesAt disk (Ignores.ofEntries base ignores) root := by
  rw [mem_scan_files_iff]
  refine exists_congr fun root => and_congr_left fun selected => mem_roots_iff ?_
  obtain ⟨place, _, leads, _⟩ := Disk.isFile_iff.mp (isFile_of_mem_filesAt tree selected)
  obtain ⟨top, _, resolved, _⟩ := exists_below_of_mem_filesAt tree selected leads
  exact Disk.contains_iff.mpr ⟨_, resolved⟩

/-- From one root each file is selected under one text. -/
theorem eq_of_mem_filesAt {root left right : String} {place : List String}
    (leftSelected : left ∈ filesAt disk (Ignores.ofEntries base ignores) root)
    (rightSelected : right ∈ filesAt disk (Ignores.ofEntries base ignores) root)
    (leftLeads : disk.resolve left = .ok ⟨place, 0⟩)
    (rightLeads : disk.resolve right = .ok ⟨place, 0⟩) : left = right := by
  obtain ⟨top, names, atTop, rfl, rfl⟩ :=
    exists_below_of_mem_filesAt tree leftSelected leftLeads
  obtain ⟨other, others, atOther, same, rfl⟩ :=
    exists_below_of_mem_filesAt tree rightSelected rightLeads
  cases atTop.symm.trans atOther
  rw [List.append_cancel_left same]

/-- Two texts for a file come from two roots, and the place of one root is that
of the other or below it. -/
theorem exists_respells {left right : String} {place : List String}
    (leftSelected : left ∈ (scan disk base includes ignores).files)
    (rightSelected : right ∈ (scan disk base includes ignores).files)
    (leftLeads : disk.LeadsToFile left place) (rightLeads : disk.LeadsToFile right place)
    (different : left ≠ right) :
    ∃ outer inner top between names, place = top ++ between ++ names ∧
      Respells disk base includes ignores outer inner top between names := by
  obtain ⟨first, firstRoot, firstSelects⟩ := (mem_scan_files_iff_isRoot tree).mp leftSelected
  obtain ⟨second, secondRoot, secondSelects⟩ := (mem_scan_files_iff_isRoot tree).mp rightSelected
  obtain ⟨firstTop, firstNames, firstAt, rfl, rfl⟩ :=
    exists_below_of_mem_filesAt tree firstSelects leftLeads.1
  obtain ⟨secondTop, secondNames, secondAt, same, rfl⟩ :=
    exists_below_of_mem_filesAt tree secondSelects rightLeads.1
  obtain ⟨content, file⟩ := leftLeads.2
  have named : ∀ name ∈ firstTop ++ firstNames, Disk.IsName name := fun name member =>
    tree.isName_of_mem (by simp [file]) member
  -- Both places are at the start of one way to the file, so one is at the start of the other.
  rcases List.append_eq_append_iff.mp same with ⟨between, rfl, rfl⟩ | ⟨between, rfl, rfl⟩
  · refine ⟨first, second, firstTop, between, secondNames, by simp, ?_⟩
    refine ⟨firstRoot, secondRoot, firstAt, secondAt, ⟨content, by simpa using file⟩,
      firstSelects, secondSelects, ?_⟩
    rw [spelledApart_iff fun name member => named name (by simp [member]),
      ← Disk.textBelow_append]
    exact different
  · refine ⟨second, first, secondTop, between, firstNames, rfl, ?_⟩
    refine ⟨secondRoot, firstRoot, secondAt, firstAt, ⟨content, file⟩, secondSelects,
      firstSelects, ?_⟩
    rw [spelledApart_iff fun name member => named name (by simp [member]),
      ← Disk.textBelow_append]
    exact different.symm

theorem Respells.selected_twice {outer inner : String} {top between names : List String}
    (respells : Respells disk base includes ignores outer inner top between names) :
    ∃ left ∈ (scan disk base includes ignores).files,
      ∃ right ∈ (scan disk base includes ignores).files, left ≠ right ∧
        disk.LeadsToFile left (top ++ between ++ names) ∧
        disk.LeadsToFile right (top ++ between ++ names) := by
  have outerLeads := leadsToFile_of_mem_filesAt tree respells.outerSelects respells.outerAt
    (by simpa using respells.file)
  have innerLeads := leadsToFile_of_mem_filesAt tree respells.innerSelects respells.innerAt
    respells.file
  obtain ⟨content, file⟩ := respells.file
  have found : (disk.entry? (top ++ between ++ names)).isSome = true := by rw [file]; rfl
  have named : ∀ name ∈ names, Disk.IsName name := fun name member =>
    tree.isName_of_mem found (by simp [member])
  have apart := (spelledApart_iff named).mp respells.apart
  rw [← Disk.textBelow_append] at apart
  rw [← List.append_assoc] at outerLeads
  exact ⟨_, (mem_scan_files_iff_isRoot tree).mpr ⟨outer, respells.outerRoot, respells.outerSelects⟩,
    _, (mem_scan_files_iff_isRoot tree).mpr ⟨inner, respells.innerRoot, respells.innerSelects⟩,
    apart, outerLeads, innerLeads⟩

end

/-! ## Plain includes -/

/-- The include is the base itself or is written as names below it. -/
def IsPlainInclude (entry : String) : Prop := entry = "." ∨ Path.IsPlain entry

theorem IsRoot.exists_textBelow {base root : String} {includes : List String}
    (isRoot : IsRoot base includes root) (plain : ∀ entry ∈ includes, IsPlainInclude entry) :
    ∃ names, (∀ name ∈ names, Path.IsEntrySegment name.toList) ∧
      root = Disk.textBelow base names := by
  cases isRoot with
  | base empty => exact ⟨[], by simp, rfl⟩
  | dot listed => exact ⟨[], by simp, rfl⟩
  | entry entry listed named =>
      have entries := (plain entry listed).resolve_left named
      exact ⟨_, by simpa [Path.IsPlain] using entries, Disk.join_eq_textBelow entries base⟩

/-- All selected texts are then below the base, and their names tell the place. -/
theorem exists_below_base {disk : Disk} (tree : disk.IsTree) {base path : String}
    {includes ignores place : List String} (plain : ∀ entry ∈ includes, IsPlainInclude entry)
    (selected : path ∈ (scan disk base includes ignores).files)
    (leads : disk.resolve path = .ok ⟨place, 0⟩) :
    ∃ top names, disk.follow (Path.segments base.toList) (disk.start base) = .ok ⟨top, 0⟩ ∧
      place = top ++ names ∧ path = Disk.textBelow base names := by
  obtain ⟨root, isRoot, selects⟩ := (mem_scan_files_iff_isRoot tree).mp selected
  obtain ⟨front, entries, rfl⟩ := isRoot.exists_textBelow plain
  have opened := isFile_of_mem_filesAt tree selects
  obtain ⟨within, back, _, rfl, rfl⟩ := exists_below_of_mem_filesAt tree selects leads
  obtain ⟨_, content, again, file⟩ := Disk.isFile_iff.mp opened
  cases again.symm.trans leads
  have named : ∀ name ∈ front ++ back, Path.IsEntrySegment name.toList := by
    intro name member
    rcases List.mem_append.mp member with inFront | inBack
    · exact entries name inFront
    · exact (tree.isName_of_mem (by simp [file] : (disk.entry? (within ++ back)).isSome = true)
        (List.mem_append_right _ inBack)).segment
  rw [← Disk.textBelow_append] at leads ⊢
  obtain ⟨top, atBase, same⟩ :=
    Disk.exists_top_of_follow named (Disk.resolve_eq_ok_iff.mp leads).2
  exact ⟨top, front ++ back, atBase, same, rfl⟩

theorem eq_of_plain {disk : Disk} (tree : disk.IsTree) {base left right : String}
    {includes ignores place : List String} (plain : ∀ entry ∈ includes, IsPlainInclude entry)
    (leftSelected : left ∈ (scan disk base includes ignores).files)
    (rightSelected : right ∈ (scan disk base includes ignores).files)
    (leftLeads : disk.resolve left = .ok ⟨place, 0⟩)
    (rightLeads : disk.resolve right = .ok ⟨place, 0⟩) : left = right := by
  obtain ⟨top, names, atTop, rfl, rfl⟩ := exists_below_base tree plain leftSelected leftLeads
  obtain ⟨other, others, atOther, same, rfl⟩ :=
    exists_below_base tree plain rightSelected rightLeads
  cases atTop.symm.trans atOther
  rw [List.append_cancel_left same]

/-- The texts of plain includes lead to as many files. -/
theorem resolve_nodup_of_plain {disk : Disk} (tree : disk.IsTree) {base : String}
    {includes ignores : List String} (plain : ∀ entry ∈ includes, IsPlainInclude entry) :
    ((scan disk base includes ignores).files.map disk.resolve).Nodup := by
  have distinct : (scan disk base includes ignores).files.Nodup :=
    (scan_files_ascending disk base includes ignores).imp fun below => below.ne
  refine distinct.map_on fun left leftSelected right rightSelected same => ?_
  obtain ⟨place, _, leads, _⟩ := Disk.isFile_iff.mp (isFile_of_mem_scan_files tree leftSelected)
  exact eq_of_plain tree plain leftSelected rightSelected leads (same ▸ leads)

end Scan

/-- How many texts a scan of a tree has for a file. -/
structure SpellsFiles (disk : Disk) (base : String) (includes ignores : List String) : Prop where
  distinct : (scan disk base includes ignores).files.Nodup
  files : ∀ path ∈ (scan disk base includes ignores).files, ∃ place, disk.LeadsToFile path place
  twice_iff : ∀ place : List String,
    (∃ left ∈ (scan disk base includes ignores).files,
      ∃ right ∈ (scan disk base includes ignores).files, left ≠ right ∧
        disk.LeadsToFile left place ∧ disk.LeadsToFile right place) ↔
      ∃ outer inner top between names, place = top ++ between ++ names ∧
        Scan.Respells disk base includes ignores outer inner top between names
  onceFromRoot : ∀ root left right place,
    left ∈ Scan.filesAt disk (Ignores.ofEntries base ignores) root →
      right ∈ Scan.filesAt disk (Ignores.ofEntries base ignores) root →
        disk.LeadsToFile left place → disk.LeadsToFile right place → left = right
  onceWhenPlain : (∀ entry ∈ includes, Scan.IsPlainInclude entry) →
    ((scan disk base includes ignores).files.map disk.resolve).Nodup

/-- A check goes through files at places of their own and reports what each
contributes, once. -/
structure ChecksEachOnce (disk : Disk) (request : CheckRequest) (context : CheckContext)
    (result : CheckResult) : Prop where
  files : ∀ path ∈ context.files, ∃ place, disk.LeadsToFile path place
  places : (context.files.map disk.resolve).Nodup
  modelCount : result.modelCount = context.files.length
  findings : result.findings.Perm (context.files.flatMap fun path =>
    CheckContext.modelFindings (context.settings.options request.rules) path
        (disk.readText path) ++
      context.failureFindings path (disk.readText path))

theorem spellsFiles {disk : Disk} (tree : disk.IsTree) (base : String)
    (includes ignores : List String) : SpellsFiles disk base includes ignores where
  distinct := (scan_files_ascending disk base includes ignores).imp fun below => below.ne
  files := fun path selected =>
    Disk.exists_leadsToFile_iff.mpr (isFile_of_mem_scan_files tree selected)
  twice_iff := by
    intro place
    constructor
    · rintro ⟨left, leftSelected, right, rightSelected, different, leftLeads, rightLeads⟩
      exact Scan.exists_respells tree leftSelected rightSelected leftLeads rightLeads different
    · rintro ⟨outer, inner, top, between, names, rfl, respells⟩
      exact respells.selected_twice tree
  onceFromRoot := fun _ _ _ _ leftSelected rightSelected leftLeads rightLeads =>
    Scan.eq_of_mem_filesAt tree leftSelected rightSelected leftLeads.1 rightLeads.1
  onceWhenPlain := Scan.resolve_nodup_of_plain tree

/-- Of a tree, a scan selects a file twice exactly where two roots respell it;
plain includes never do, and a check with them goes through each file once. -/
theorem scan_selects_twice_iff_respelled (disk : Disk) (tree : disk.IsTree) :
    (∀ base includes ignores, SpellsFiles disk base includes ignores) ∧
      ∀ request context notices,
        CheckContext.prepare disk request = .ok (context, notices) →
          (∀ entry ∈ context.settings.includes, Scan.IsPlainInclude entry) →
            ∃ result emitted, check disk request = .ok (result, emitted) ∧
              ChecksEachOnce disk request context result := by
  refine ⟨spellsFiles tree, fun request context notices prepared plain => ?_⟩
  let options := context.settings.options request.rules
  obtain ⟨emitted, checked⟩ := check_of_prepared prepared
  refine ⟨context.result options (loadModels disk context.files), emitted, checked, ?_⟩
  have findings := context.result_findings options disk
  obtain ⟨root, configured, fromFile, _, _, rfl, _⟩ := CheckContext.prepare_eq_ok_iff.mp prepared
  have spells := spellsFiles tree root (CheckContext.withPaths configured request.paths).includes
    (CheckContext.withPaths configured request.paths).ignores
  exact {
    files := spells.files
    places := spells.onceWhenPlain plain
    modelCount := rfl
    findings := by
      rw [findings]
      exact (Finding.sorted_perm _).trans (List.flatMap_append_perm _ _ _) }

def markedDocument : Document where
  symbols := [.method {
    id := "M"
    name := "M"
    attributes := [⟨some markerName⟩]
    locations := [{ file := "a.cs", line := 1, col := 1 }] }]

def markedDisk : Disk where
  entries := [(["w"], .directory), (["w", "a"], .directory),
    (["w", "a", "m.icg.json"], .file markedDocument.toValue.pretty.toUTF8)]
  cwd := ⟨["w"], 0⟩

def markedFinding : Finding :=
  .declaration {
    location := { file := "a.cs", line := 1, col := 1 }
    method := "M"
    fault := .notGeneric
    severity := .error }

def requestOf (paths : List String) : CheckRequest where
  paths := paths.map Text.Word.ofString

theorem markedDisk_isTree : markedDisk.IsTree :=
  ⟨by decide, by decide, by decide, by decide⟩

/-- Plain includes that overlap select the model once. -/
theorem scan_selects_twice_iff_respelled_markedDisk :
    markedDisk.IsTree ∧ SpellsFiles markedDisk "." [".", "a"] [] ∧
      ∃ result emitted, check markedDisk (requestOf [".", "a"]) = .ok (result, emitted) ∧
        ChecksEachOnce markedDisk (requestOf [".", "a"])
          ⟨{ includes := [".", "a"] }, ".", ["./a/m.icg.json"]⟩ result := by
  obtain ⟨spells, checks⟩ := scan_selects_twice_iff_respelled markedDisk markedDisk_isTree
  have plain : ∀ entry ∈ [".", "a"], Scan.IsPlainInclude entry := by
    have single : Path.IsPlain "a" := by
      intro segment member
      obtain rfl : segment = ['a'] := by simpa [Path.segments] using member
      exact ⟨by decide, by decide, by decide⟩
    simp [Scan.IsPlainInclude, single]
  exact ⟨markedDisk_isTree, spells "." [".", "a"] [], checks _ _ [] rfl plain⟩

/-- A file with an exported document is loaded as the model of the document. -/
theorem load_of_find_pretty {disk : Disk} {path : String} {document : Document} {model : Model}
    (found : disk.find path = .ok (.file document.toValue.pretty.toUTF8))
    (built : Model.ofDocument document = .ok model) : Model.load disk path = .ok model := by
  have parsed := parse_eq_of_heldBy document.decoder_decodes.exportable.heldBy_pretty
  rw [built] at parsed
  rw [Model.load, Disk.readText_of_find_eq_ok found]
  exact parsed

def respelledContext : CheckContext where
  settings := { includes := ["a", "./a"] }
  root := "."
  files := ["././a/m.icg.json", "./a/m.icg.json"]

theorem respelledContext_rawFindings :
    respelledContext.rawFindings (respelledContext.settings.options []) markedDisk =
      [markedFinding, markedFinding] := by
  obtain ⟨model, built⟩ : ∃ model, Model.ofDocument markedDocument = .ok model :=
    Model.ofDocument_isOk_iff_nodup.mpr (by decide)
  have document := Model.ofDocument_document built
  have first : Model.load markedDisk "././a/m.icg.json" = .ok model :=
    load_of_find_pretty rfl built
  have second : Model.load markedDisk "./a/m.icg.json" = .ok model :=
    load_of_find_pretty rfl built
  rw [Model.load_eq_ofContent] at first second
  obtain ⟨_, index⟩ := model
  subst document
  have found : ((⟨markedDocument, index⟩ : Model).rawFindings
      (respelledContext.settings.options [])).map
      (respelledContext.settings.options []).adjust = [markedFinding] := rfl
  simp only [CheckContext.rawFindings, show respelledContext.files =
    ["././a/m.icg.json", "./a/m.icg.json"] from rfl, List.flatMap_cons, List.flatMap_nil,
    CheckContext.modelFindings, CheckContext.failureFindings, first, second, found,
    List.append_nil, List.singleton_append]

/-- Two spellings of a directory select its model twice, and a check reports what
is found in it twice. -/
theorem markedDisk_selected_twice :
    markedDisk.IsTree ∧
      (∃ left ∈ (scan markedDisk "." ["a", "./a"] []).files,
        ∃ right ∈ (scan markedDisk "." ["a", "./a"] []).files, left ≠ right ∧
          markedDisk.LeadsToFile left ["w", "a", "m.icg.json"] ∧
          markedDisk.LeadsToFile right ["w", "a", "m.icg.json"]) ∧
      ∃ result emitted, check markedDisk (requestOf ["a", "./a"]) = .ok (result, emitted) ∧
        result.modelCount = 2 ∧ result.findings = [markedFinding, markedFinding] := by
  refine ⟨markedDisk_isTree, ?_, ?_⟩
  · have files : (scan markedDisk "." ["a", "./a"] []).files =
        ["././a/m.icg.json", "./a/m.icg.json"] := by decide +kernel
    rw [files]
    exact ⟨_, List.mem_cons_self, _, List.mem_cons_of_mem _ List.mem_cons_self, by decide,
      ⟨rfl, _, rfl⟩, ⟨rfl, _, rfl⟩⟩
  · have prepared : CheckContext.prepare markedDisk (requestOf ["a", "./a"]) =
        .ok (respelledContext, []) := rfl
    obtain ⟨emitted, checked⟩ := check_of_prepared prepared
    have findings := respelledContext.result_findings (respelledContext.settings.options [])
      markedDisk
    rw [respelledContext_rawFindings] at findings
    -- The sort is not evaluated: of two equal findings there is one order.
    have alike := List.perm_replicate.mp (Finding.sorted_perm (List.replicate 2 markedFinding))
    exact ⟨_, emitted, checked, rfl, findings.trans alike⟩

end InterfaceLint
