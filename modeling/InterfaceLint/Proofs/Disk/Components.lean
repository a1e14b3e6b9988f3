import InterfaceLint.Proofs.Disk.Resolution
import InterfaceLint.Proofs.Path.Stripping

/-!
# Paths with the same components

Blank segments of a path are no steps: they only ask for a directory where they
stand.  So the components of a path say where it leads, and a path to a file can
be spelled in any way that has its components and does not end with a blank
segment.
-/

set_option autoImplicit false

namespace InterfaceLint

namespace Path

def steps (body : List (List Char)) : List (List Char) :=
  body.filter fun segment => !isBlank segment

theorem steps_cons_of_isBlank {segment : List Char} (blank : isBlank segment = true)
    (body : List (List Char)) : steps (segment :: body) = steps body := by
  simp [steps, blank]

theorem steps_cons_of_not_isBlank {segment : List Char} (notBlank : isBlank segment = false)
    (body : List (List Char)) : steps (segment :: body) = segment :: steps body := by
  simp [steps, notBlank]

theorem steps_eq_of_bodyComponents_eq {left right : List (List Char)}
    (same : bodyComponents left = bodyComponents right) : steps left = steps right := by
  refine List.map_injective_iff.mpr ?_ same
  intro first second equal
  by_cases firstParent : first = ['.', '.'] <;> by_cases secondParent : second = ['.', '.'] <;>
    simp_all [String.ofList_inj]

/-- Only the lead of a path gives the components that the body does not. -/
theorem not_mem_bodyComponents (body : List (List Char)) :
    .root ∉ bodyComponents body ∧ .current ∉ bodyComponents body := by
  have shown : ∀ component ∈ bodyComponents body, component ≠ .root ∧ component ≠ .current := by
    intro component member
    obtain ⟨segment, _, rfl⟩ := List.mem_map.mp member
    split <;> simp
  exact ⟨fun member => (shown _ member).1 rfl, fun member => (shown _ member).2 rfl⟩

theorem root_mem_components_iff {path : String} :
    .root ∈ components path ↔ (split path).lead = .root := by
  rw [components, List.mem_append, or_iff_left (not_mem_bodyComponents _).1]
  cases (split path).lead <;> simp [Lead.components]

theorem current_mem_components_iff {path : String} :
    .current ∈ components path ↔ (split path).lead = .current := by
  rw [components, List.mem_append, or_iff_left (not_mem_bodyComponents _).2]
  cases (split path).lead <;> simp [Lead.components]

theorem lead_eq_of_components_eq {left right : String} (same : components left = components right) :
    (split left).lead = (split right).lead := by
  have root : (split left).lead = .root ↔ (split right).lead = .root := by
    rw [← root_mem_components_iff, same, root_mem_components_iff]
  have current : (split left).lead = .current ↔ (split right).lead = .current := by
    rw [← current_mem_components_iff, same, current_mem_components_iff]
  cases leftLead : (split left).lead <;> cases rightLead : (split right).lead <;> simp_all

theorem steps_eq_of_components_eq {left right : String}
    (same : components left = components right) :
    steps (segments left.toList) = steps (segments right.toList) := by
  have lead := lead_eq_of_components_eq same
  rw [components_eq, components_eq, lead, List.append_cancel_left_eq] at same
  exact steps_eq_of_bodyComponents_eq same

theorem mem_iff_exists_mem_segments {c : Char} (notSlash : c ≠ '/') : ∀ {text : List Char},
    c ∈ text ↔ ∃ segment ∈ segments text, c ∈ segment := by
  intro text
  induction text with
  | nil => simp [segments]
  | cons first text induction =>
      by_cases slash : first = '/'
      · rw [slash, segments_cons_slash, List.mem_cons, induction]
        simp [notSlash]
      · obtain ⟨segment, others, shape, whole⟩ := segments_cons slash text
        rw [shape] at induction
        rw [whole, List.mem_cons, induction]
        simp [or_assoc]

/-- A character that is neither a dot nor a separator stands in a step. -/
theorem mem_iff_exists_mem_steps {c : Char} (notSlash : c ≠ '/') (notDot : c ≠ '.')
    {text : List Char} : c ∈ text ↔ ∃ segment ∈ steps (segments text), c ∈ segment := by
  rw [mem_iff_exists_mem_segments notSlash]
  simp only [steps, List.mem_filter, Bool.not_eq_true']
  refine exists_congr fun segment => ⟨?_, fun step => ⟨step.1.1, step.2⟩⟩
  rintro ⟨listed, member⟩
  refine ⟨⟨listed, ?_⟩, member⟩
  by_contra blank
  simp only [isBlank, Bool.not_eq_false, Bool.or_eq_true, List.isEmpty_iff, beq_iff_eq] at blank
  rcases blank with rfl | rfl
  · cases member
  · exact notDot (List.mem_singleton.mp member)

end Path

namespace Disk

theorem directory_of_follow_cons {disk : Disk} {segment : List Char}
    {segments : List (List Char)} {position target : Position}
    (leads : disk.follow (segment :: segments) position = .ok target) :
    disk.entryAt? position = some .directory := by
  rw [follow] at leads
  split at leads
  · cases leads
  · cases leads
  · assumption

theorem follow_cons_eq_ok_iff {disk : Disk} {segment : List Char} {segments : List (List Char)}
    {position target : Position} :
    disk.follow (segment :: segments) position = .ok target ↔
      ∃ next, disk.follow [segment] position = .ok next ∧
        disk.follow segments next = .ok target := by
  rw [← List.singleton_append, follow_append, bind_eq_ok_iff]

/-- Blank segments can be left out. -/
theorem follow_steps {disk : Disk} {target : Position} :
    ∀ {segments : List (List Char)} {position : Position},
      disk.follow segments position = .ok target →
        disk.follow (Path.steps segments) position = .ok target := by
  intro segments
  induction segments with
  | nil => intro position leads; exact leads
  | cons segment segments induction =>
      intro position leads
      by_cases blank : Path.isBlank segment = true
      · rw [Path.steps_cons_of_isBlank blank]
        rw [follow_blank_of_directory (directory_of_follow_cons leads) blank] at leads
        exact induction leads
      · rw [Bool.not_eq_true] at blank
        rw [Path.steps_cons_of_not_isBlank blank, follow_cons_eq_ok_iff]
        obtain ⟨next, stepped, rest⟩ := follow_cons_eq_ok_iff.mp leads
        exact ⟨next, stepped, induction rest⟩

/-- Blank segments can be put in, in front of a segment that is a step. -/
theorem follow_of_steps {disk : Disk} {last : List Char} (filled : Path.isBlank last = false)
    {target : Position} : ∀ {front : List (List Char)} {position : Position},
      disk.follow (Path.steps (front ++ [last])) position = .ok target →
        disk.follow (front ++ [last]) position = .ok target := by
  intro front
  induction front with
  | nil =>
      intro position leads
      rwa [List.nil_append, Path.steps_cons_of_not_isBlank filled] at leads
  | cons segment front induction =>
      intro position leads
      rw [List.cons_append] at leads ⊢
      by_cases blank : Path.isBlank segment = true
      · rw [Path.steps_cons_of_isBlank blank] at leads
        -- The step that comes later starts where the blank segment stands.
        have directory : disk.entryAt? position = some .directory := by
          have listed : last ∈ Path.steps (front ++ [last]) := by simp [Path.steps, filled]
          obtain ⟨first, others, shape⟩ := List.exists_cons_of_ne_nil (List.ne_nil_of_mem listed)
          rw [shape] at leads
          exact directory_of_follow_cons leads
        rw [follow_blank_of_directory directory blank]
        exact induction leads
      · rw [Bool.not_eq_true] at blank
        rw [Path.steps_cons_of_not_isBlank blank] at leads
        obtain ⟨next, stepped, rest⟩ := follow_cons_eq_ok_iff.mp leads
        exact follow_cons_eq_ok_iff.mpr ⟨next, stepped, induction rest⟩

/-- The steps of a path and where they start from. -/
theorem follow_steps_congr {disk : Disk} {left right : String}
    (same : Path.components left = Path.components right) :
    disk.follow (Path.steps (Path.segments left.toList)) (disk.start left) =
      disk.follow (Path.steps (Path.segments right.toList)) (disk.start right) := by
  have sameStart : disk.start left = disk.start right := by
    simp only [start, Path.isAbsolute_iff, Path.lead_eq_of_components_eq same]
  rw [sameStart, Path.steps_eq_of_components_eq same]

theorem resolve_eq_of_components_eq {disk : Disk} {left right : String} {position : Position}
    (same : Path.components left = Path.components right) (filled : Path.EndsFilled right)
    (fits : right.utf8ByteSize ≤ maxPathSize) (leads : disk.resolve left = .ok position) :
    disk.resolve right = .ok position := by
  obtain ⟨front, last, shape, notBlank⟩ := filled
  obtain ⟨usable, followed⟩ := resolve_eq_ok_iff.mp leads
  refine resolve_eq_ok_iff.mpr ⟨pathFault?_eq_none_iff.mpr ⟨?_, ?_, fits⟩, ?_⟩
  · rintro rfl
    have single : [[]] = front ++ [last] := shape
    have listed : last ∈ [([] : List Char)] := by simp [single]
    obtain rfl := List.mem_singleton.mp listed
    cases notBlank
  · have noNul := (pathFault?_eq_none_iff.mp usable).2.1
    rw [Path.mem_iff_exists_mem_steps (by decide) (by decide)] at noNul ⊢
    rwa [← Path.steps_eq_of_components_eq same]
  · have stepped := follow_steps followed
    rw [follow_steps_congr same, shape] at stepped
    rw [shape]
    exact follow_of_steps notBlank stepped

theorem position_eq_of_components_eq {disk : Disk} {left right : String}
    {position other : Position} (same : Path.components left = Path.components right)
    (leftLeads : disk.resolve left = .ok position) (rightLeads : disk.resolve right = .ok other) :
    position = other := by
  have leftSteps := follow_steps (resolve_eq_ok_iff.mp leftLeads).2
  have rightSteps := follow_steps (resolve_eq_ok_iff.mp rightLeads).2
  rw [follow_steps_congr same, rightSteps] at leftSteps
  exact (Except.ok.inj leftSteps).symm

/-- A path to a file does not end with a blank segment. -/
theorem endsFilled_of_isFile {disk : Disk} {path : String} (isFile : disk.isFile path = true) :
    Path.EndsFilled path := by
  obtain ⟨place, content, leads, file⟩ := isFile_iff.mp isFile
  obtain ⟨front, last, shape⟩ :=
    (List.eq_nil_or_concat' (Path.segments path.toList)).resolve_left (Path.segments_ne_nil _)
  refine ⟨front, last, shape, ?_⟩
  by_contra blank
  rw [Bool.not_eq_false] at blank
  have followed := (resolve_eq_ok_iff.mp leads).2
  rw [shape, follow_append, bind_eq_ok_iff] at followed
  obtain ⟨position, _, ended⟩ := followed
  have directory := directory_of_follow_cons ended
  rw [follow_blank_of_directory directory blank] at ended
  obtain rfl := Except.ok.inj ended
  rw [entryAt?_present, file] at directory
  cases directory

end Disk

end InterfaceLint
