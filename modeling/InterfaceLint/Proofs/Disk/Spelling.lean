import InterfaceLint.Proofs.Disk.Tree

/-!
# How names below a root are spelled

Names joined to a root spell what lies below it.  Two roots give the same
names the same text just when they differ by no more than a separator at the
end.  A path that is written as names spells, joined to a base, the place that
the names lead to from there.
-/

set_option autoImplicit false

namespace InterfaceLint

/-! ## Texts with names joined to them -/

namespace Path

theorem join_eq_append (base : String) {name : String} (relative : isAbsolute name = false) :
    join base name = join base "" ++ name := by
  have empty : isAbsolute "" = false := rfl
  rw [← String.toList_inj, String.toList_append, toList_join base relative, toList_join base empty]
  split <;> simp

theorem join_append (front : String) {path name : String} (nonempty : path ≠ "")
    (relative : isAbsolute name = false) : join (front ++ path) name = front ++ join path name := by
  have last : (front ++ path).toList.getLast? = path.toList.getLast? := by
    rw [String.toList_append, List.getLast?_append]
    cases shape : path.toList.getLast? with
    | none => simp_all
    | some c => rfl
  have filled : front ++ path ≠ "" := by simp [nonempty]
  rw [← String.toList_inj, String.toList_append, toList_join _ relative, toList_join _ relative,
    last]
  simp only [filled, nonempty, false_or]
  split <;> simp

theorem join_ofList {segment : List Char} (entry : IsEntrySegment segment) {rest : String}
    (relative : isAbsolute rest = false) :
    join (String.ofList segment) rest = String.ofList (segment ++ '/' :: rest.toList) := by
  have noSlash : segment.getLast? ≠ some '/' := fun slash =>
    entry.plain (List.mem_of_getLast? slash)
  rw [← String.toList_inj, toList_join _ relative]
  simp [entry.ne_nil, noSlash]

theorem isAbsolute_joinSegments {first : List Char} (entry : IsEntrySegment first)
    (others : List (List Char)) :
    isAbsolute (String.ofList (joinSegments (first :: others))) = false := by
  have start : first <+: joinSegments (first :: others) := by
    simpa [joinSegments] using joinSegments_isPrefix (List.prefix_append [first] others)
  obtain ⟨rest, whole⟩ := start
  have filled : first.head?.isSome = true := by simp [entry.ne_nil]
  rw [isAbsolute, String.toList_ofList, ← whole, List.head?_append, Option.or_of_isSome filled,
    decide_eq_false_iff_not]
  exact fun slash => entry.plain (List.mem_of_mem_head? slash)

def IsPlain (path : String) : Prop := ∀ segment ∈ segments path.toList, IsEntrySegment segment

end Path

namespace Disk

theorem textBelow_append (root : String) (front back : List String) :
    textBelow root (front ++ back) = textBelow (textBelow root front) back :=
  List.foldl_append

theorem textBelow_append_left (front : String) : ∀ {names : List String} {path : String},
    path ≠ "" → (∀ name ∈ names, Path.isAbsolute name = false) →
      textBelow (front ++ path) names = front ++ textBelow path names := by
  intro names
  induction names with
  | nil => intro path _ _; rfl
  | cons name names induction =>
      intro path nonempty relative
      obtain ⟨here, later⟩ := List.forall_mem_cons.mp relative
      have filled : Path.join path name ≠ "" := by
        intro empty
        have start := Path.join_isPrefix path here
        rw [empty] at start
        exact nonempty (String.toList_eq_nil_iff.mp (by simpa using start))
      rw [textBelow, List.foldl_cons, Path.join_append front nonempty here]
      exact induction filled later

/-- Below two roots the same names give one text just when the roots differ by
no more than a separator at the end. -/
theorem textBelow_eq_iff {left right name : String} {names : List String}
    (named : ∀ other ∈ name :: names, IsName other) :
    textBelow left (name :: names) = textBelow right (name :: names) ↔
      Path.join left "" = Path.join right "" := by
  obtain ⟨here, later⟩ := List.forall_mem_cons.mp named
  have nonempty : name ≠ "" := fun empty =>
    here.segment.ne_nil (String.toList_eq_nil_iff.mpr empty)
  have spelled : ∀ root,
      textBelow root (name :: names) = Path.join root "" ++ textBelow name names := by
    intro root
    rw [textBelow, List.foldl_cons, Path.join_eq_append root here.isAbsolute]
    exact textBelow_append_left _ nonempty fun other member => (later other member).isAbsolute
  rw [spelled, spelled, ← String.toList_inj, ← String.toList_inj]
  simp

/-- A plain path joined to a base is the text of its segments below the base. -/
theorem join_eq_textBelow {path : String} (plain : Path.IsPlain path) (base : String) :
    Path.join base path = textBelow base ((Path.segments path.toList).map String.ofList) := by
  have joined : ∀ {body : List (List Char)}, body ≠ [] →
      (∀ segment ∈ body, Path.IsEntrySegment segment) → ∀ base,
        Path.join base (String.ofList (Path.joinSegments body)) =
          textBelow base (body.map String.ofList) := by
    intro body
    induction body with
    | nil => intro nonempty; exact absurd rfl nonempty
    | cons first others induction =>
        intro _ entries base
        obtain ⟨entry, later⟩ := List.forall_mem_cons.mp entries
        cases others with
        | nil => simp [Path.joinSegments, textBelow]
        | cons second others =>
            have relative := Path.isAbsolute_joinSegments (later second List.mem_cons_self) others
            have whole : String.ofList (Path.joinSegments (first :: second :: others)) =
                Path.join (String.ofList first)
                  (String.ofList (Path.joinSegments (second :: others))) := by
              rw [Path.join_ofList entry relative]
              simp [Path.joinSegments]
            have name : Path.IsEntrySegment (String.ofList first).toList := by simpa using entry
            have filled : String.ofList first ≠ "" := fun empty =>
              entry.ne_nil (by simpa using empty)
            have rest := induction (by simp) later (Path.join base (String.ofList first))
            rw [Path.join_eq_append base (Path.isAbsolute_joinSegments entry (second :: others)),
              whole, ← Path.join_append _ filled relative,
              ← Path.join_eq_append base (Path.isAbsolute_of_isEntrySegment name), rest]
            simp [textBelow]
  have whole : String.ofList (Path.joinSegments (Path.segments path.toList)) = path := by
    rw [Path.joinSegments_segments, String.ofList_toList]
  rw [← joined (Path.segments_ne_nil _) plain base, whole]

/-- What lies below a base lies below the one place that its segments lead to. -/
theorem exists_top_of_follow {disk : Disk} {base : String} : ∀ {names place : List String},
    (∀ name ∈ names, Path.IsEntrySegment name.toList) →
      disk.follow (Path.segments (textBelow base names).toList)
          (disk.start (textBelow base names)) = .ok ⟨place, 0⟩ →
        ∃ top, disk.follow (Path.segments base.toList) (disk.start base) = .ok ⟨top, 0⟩ ∧
          place = top ++ names := by
  intro names
  induction names using List.reverseRecOn with
  | nil => intro place _ leads; exact ⟨place, leads, by simp⟩
  | append_singleton front name induction =>
      intro place entries leads
      rw [textBelow_concat, follow_join_eq_ok_iff (entries name (by simp))] at leads
      obtain ⟨within, reached, _, _, _, same⟩ := leads
      cases same
      obtain ⟨top, atBase, rfl⟩ := induction
        (fun other member => entries other (List.mem_append_left _ member)) reached
      exact ⟨top, atBase, by simp⟩

/-- The path text leads to the file at the place. -/
def LeadsToFile (disk : Disk) (path : String) (place : List String) : Prop :=
  disk.resolve path = .ok ⟨place, 0⟩ ∧ ∃ content, disk.entry? place = some (.file content)

theorem exists_leadsToFile_iff {disk : Disk} {path : String} :
    (∃ place, disk.LeadsToFile path place) ↔ disk.isFile path = true := by
  rw [isFile_iff]
  exact exists_congr fun place => exists_and_left.symm

end Disk

end InterfaceLint
