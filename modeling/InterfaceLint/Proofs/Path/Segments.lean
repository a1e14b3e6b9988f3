import InterfaceLint.Path
import Mathlib.Data.List.DropRight
import Mathlib.Data.String.Basic

/-!
# Segments of path texts

A path text is known from its segments, and a name joined to a path is one
more segment, unless the path ends with a separator: then it takes the place
of the empty segment there.  What a path starts with stays as it is.
-/

set_option autoImplicit false

namespace InterfaceLint.Path

/-! ## Splitting at separators -/

theorem segments_ne_nil (text : List Char) : segments text ≠ [] := by
  cases text with
  | nil => simp [segments]
  | cons c text =>
      rw [segments]
      split
      · simp
      · split <;> simp

theorem segments_cons_slash (text : List Char) : segments ('/' :: text) = [] :: segments text := by
  obtain ⟨first, others, shape⟩ := List.exists_cons_of_ne_nil (segments_ne_nil text)
  simp [segments, shape]

theorem segments_cons {c : Char} (notSlash : c ≠ '/') (text : List Char) :
    ∃ first others, segments text = first :: others ∧
      segments (c :: text) = (c :: first) :: others := by
  obtain ⟨first, others, shape⟩ := List.exists_cons_of_ne_nil (segments_ne_nil text)
  exact ⟨first, others, shape, by simp [segments, shape, notSlash]⟩

theorem segments_append_slash (left right : List Char) :
    segments (left ++ '/' :: right) = segments left ++ segments right := by
  induction left with
  | nil => simp [segments_cons_slash, segments]
  | cons c left induction =>
      by_cases slash : c = '/'
      · rw [slash, List.cons_append, segments_cons_slash, segments_cons_slash, induction,
          List.cons_append]
      · obtain ⟨first, others, shape, whole⟩ := segments_cons slash left
        obtain ⟨first', others', shape', whole'⟩ := segments_cons slash (left ++ '/' :: right)
        rw [induction, shape, List.cons_append, List.cons.injEq] at shape'
        obtain ⟨rfl, rfl⟩ := shape'
        rw [List.cons_append, whole', whole, List.cons_append]

theorem segments_of_slash_not_mem {text : List Char} (plain : '/' ∉ text) :
    segments text = [text] := by
  induction text with
  | nil => rfl
  | cons c text induction =>
      rw [List.mem_cons, not_or] at plain
      simp [segments, induction plain.2, Ne.symm plain.1]

theorem slash_not_mem_of_mem_segments {text segment : List Char}
    (member : segment ∈ segments text) : '/' ∉ segment := by
  induction text generalizing segment with
  | nil => simp_all [segments]
  | cons c text induction =>
      by_cases slash : c = '/'
      · rw [slash, segments_cons_slash, List.mem_cons] at member
        rcases member with rfl | member
        · exact List.not_mem_nil
        · exact induction member
      · obtain ⟨first, others, shape, whole⟩ := segments_cons slash text
        rw [whole, List.mem_cons] at member
        rw [shape] at induction
        rcases member with rfl | member
        · rw [List.mem_cons, not_or]
          exact ⟨Ne.symm slash, induction List.mem_cons_self⟩
        · exact induction (List.mem_cons_of_mem _ member)

theorem segments_joinSegments : ∀ {body : List (List Char)}, body ≠ [] →
    (∀ segment ∈ body, '/' ∉ segment) → segments (joinSegments body) = body := by
  intro body
  induction body with
  | nil => intro nonempty; exact absurd rfl nonempty
  | cons first others induction =>
      intro _ plain
      have firstPlain : '/' ∉ first := plain first List.mem_cons_self
      cases others with
      | nil =>
          rw [joinSegments, List.intercalate_singleton]
          exact segments_of_slash_not_mem firstPlain
      | cons second others =>
          have rest := induction (by simp) fun segment member =>
            plain segment (List.mem_cons_of_mem _ member)
          rw [joinSegments] at rest ⊢
          rw [List.intercalate_cons_cons, List.append_assoc, List.singleton_append,
            segments_append_slash, rest, segments_of_slash_not_mem firstPlain,
            List.singleton_append]

theorem joinSegments_segments (text : List Char) : joinSegments (segments text) = text := by
  induction text with
  | nil => rfl
  | cons c text induction =>
      obtain ⟨first, others, shape⟩ := List.exists_cons_of_ne_nil (segments_ne_nil text)
      by_cases slash : c = '/'
      · rw [slash, segments_cons_slash, shape, joinSegments, List.intercalate_cons_cons, ← shape]
        simpa [joinSegments] using induction
      · obtain ⟨first', others', shape', whole⟩ := segments_cons slash text
        rw [whole, joinSegments]
        rw [shape', joinSegments] at induction
        cases others' with
        | nil => simpa using induction
        | cons second others' =>
            rw [List.intercalate_cons_cons] at induction ⊢
            simpa using induction

theorem joinSegments_isPrefix {front body : List (List Char)} (start : front <+: body) :
    joinSegments front <+: joinSegments body := by
  obtain ⟨back, rfl⟩ := start
  induction front with
  | nil => exact List.nil_prefix
  | cons first front induction =>
      cases front with
      | nil =>
          cases back with
          | nil => exact List.prefix_refl _
          | cons second back =>
              simp only [joinSegments, List.singleton_append, List.intercalate_cons_cons,
                List.intercalate_singleton, List.append_assoc]
              exact List.prefix_append _ _
      | cons second front =>
          simp only [joinSegments, List.cons_append, List.intercalate_cons_cons,
            List.append_assoc] at induction ⊢
          rwa [List.prefix_append_right_inj, List.cons_prefix_cons, and_iff_right rfl]

/-! ## Joining a name -/

structure IsEntrySegment (segment : List Char) : Prop where
  plain : '/' ∉ segment
  notBlank : isBlank segment = false
  notParent : segment ≠ ['.', '.']

theorem IsEntrySegment.ne_nil {segment : List Char} (entry : IsEntrySegment segment) :
    segment ≠ [] := by
  rintro rfl
  exact absurd entry.notBlank (by simp [isBlank])

theorem isAbsolute_of_isEntrySegment {name : String} (entry : IsEntrySegment name.toList) :
    isAbsolute name = false := by
  rw [isAbsolute, decide_eq_false_iff_not]
  intro absolute
  exact entry.plain (List.mem_of_mem_head? absolute)

theorem toList_join (base : String) {name : String} (relative : isAbsolute name = false) :
    (join base name).toList =
      if base = "" ∨ base.toList.getLast? = some '/' then base.toList ++ name.toList
      else base.toList ++ '/' :: name.toList := by
  simp only [join, relative, Bool.false_eq_true, if_false, Bool.or_eq_true, String.isEmpty_iff,
    decide_eq_true_eq]
  split
  · rw [String.toList_append]
  · rw [String.toList_append, String.toList_append, List.append_assoc]
    rfl

theorem join_isPrefix (base : String) {name : String} (relative : isAbsolute name = false) :
    base.toList <+: (join base name).toList := by
  rw [toList_join base relative]
  split
  · exact List.prefix_append _ _
  · exact List.prefix_append _ _

theorem isAbsolute_join (base : String) {name : String} (relative : isAbsolute name = false) :
    isAbsolute (join base name) = isAbsolute base := by
  rw [isAbsolute, isAbsolute, toList_join base relative]
  cases shape : base.toList with
  | nil =>
      obtain rfl := String.toList_eq_nil_iff.mp shape
      simpa [isAbsolute] using relative
  | cons first rest => split <;> rfl

/-- What is joined follows the segments of the path, or takes the place of an
empty last one. -/
theorem segments_join_of_relative (base : String) {rest : String}
    (relative : isAbsolute rest = false) :
    ∃ front, segments (join base rest).toList = front ++ segments rest.toList ∧
      (segments base.toList = front ∨ segments base.toList = front ++ [[]]) := by
  rw [toList_join base relative]
  split
  · rename_i ended
    rcases ended with rfl | ended
    · exact ⟨[], rfl, .inr rfl⟩
    · obtain ⟨front, shape⟩ := List.getLast?_eq_some_iff.mp ended
      refine ⟨segments front, ?_, .inr ?_⟩
      · rw [shape, List.append_assoc, List.singleton_append, segments_append_slash]
      · rw [shape, segments_append_slash]
        rfl
  · exact ⟨segments base.toList, segments_append_slash _ _, .inl rfl⟩

theorem segments_join (base : String) {name : String} (entry : IsEntrySegment name.toList) :
    ∃ front, segments (join base name).toList = front ++ [name.toList] ∧
      (segments base.toList = front ∨ segments base.toList = front ++ [[]]) := by
  have joined := segments_join_of_relative base (isAbsolute_of_isEntrySegment entry)
  rwa [segments_of_slash_not_mem entry.plain] at joined

/-! ## Leads and components -/

/-- What a path starts with is seen from its first segment. -/
def ofSegments : List (List Char) → Split
  | [] => ⟨.none, []⟩
  | first :: others =>
    if first = [] ∧ others ≠ [] then ⟨.root, others⟩
    else if first = ['.'] then ⟨.current, [] :: others⟩
    else ⟨.none, first :: others⟩

theorem split_eq (path : String) : split path = ofSegments (segments path.toList) := by
  unfold split
  split
  · rename_i rest shape
    simp [shape, segments_cons_slash, ofSegments, segments_ne_nil]
  · rename_i shape
    simp [shape, segments, ofSegments]
  · rename_i rest shape
    have dot : segments ('.' :: '/' :: rest) = ['.'] :: segments rest :=
      segments_append_slash ['.'] rest
    simp [shape, dot, ofSegments]
  · rename_i notRoot notDot notCurrent
    obtain ⟨first, others, shape⟩ := List.exists_cons_of_ne_nil (segments_ne_nil path.toList)
    have whole := joinSegments_segments path.toList
    rw [shape] at whole ⊢
    have lead : ¬ (first = [] ∧ others ≠ []) := by
      rintro ⟨rfl, nonempty⟩
      obtain ⟨second, others, rfl⟩ := List.exists_cons_of_ne_nil nonempty
      exact notRoot _ (by rw [← whole, joinSegments, List.intercalate_cons_cons]; rfl)
    have notDotFirst : first ≠ ['.'] := by
      rintro rfl
      cases others with
      | nil => exact notDot (by rw [← whole, joinSegments, List.intercalate_singleton])
      | cons second others =>
          exact notCurrent _ (by rw [← whole, joinSegments, List.intercalate_cons_cons]; rfl)
    simp [ofSegments, lead, notDotFirst]

theorem bodyComponents_append (front back : List (List Char)) :
    bodyComponents (front ++ back) = bodyComponents front ++ bodyComponents back := by
  simp [bodyComponents]

theorem bodyComponents_cons_of_isBlank {segment : List Char} (blank : isBlank segment = true)
    (body : List (List Char)) : bodyComponents (segment :: body) = bodyComponents body := by
  simp [bodyComponents, blank]

theorem bodyComponents_of_blank {body : List (List Char)}
    (blank : ∀ segment ∈ body, isBlank segment = true) : bodyComponents body = [] := by
  rw [bodyComponents, List.map_eq_nil_iff, List.filter_eq_nil_iff]
  intro segment listed
  simp [blank segment listed]

theorem components_eq (path : String) :
    components path =
      (split path).lead.components ++ bodyComponents (segments path.toList) := by
  rw [components, List.append_cancel_left_eq, split_eq]
  obtain ⟨first, others, shape⟩ := List.exists_cons_of_ne_nil (segments_ne_nil path.toList)
  rw [shape, ofSegments]
  split
  · rename_i root
    rw [root.1, bodyComponents_cons_of_isBlank rfl]
  · split
    · rename_i current
      rw [current, bodyComponents_cons_of_isBlank rfl, bodyComponents_cons_of_isBlank rfl]
    · rfl

theorem bodyComponents_of_isEntrySegment {segment : List Char} (entry : IsEntrySegment segment) :
    bodyComponents [segment] = [.name (String.ofList segment)] := by
  simp [bodyComponents, entry.notBlank, entry.notParent]

/-- The last component of a path with a name joined to it is that name. -/
theorem getLast?_components_join {base name : String} (entry : IsEntrySegment name.toList) :
    (components (join base name)).getLast? = some (.name name) := by
  obtain ⟨front, shape, _⟩ := segments_join base entry
  rw [components_eq, shape, bodyComponents_append, bodyComponents_of_isEntrySegment entry,
    ← List.append_assoc, List.getLast?_concat, String.ofList_toList]

theorem parent_mem_components_iff {path : String} :
    .parent ∈ components path ↔ ['.', '.'] ∈ (split path).body := by
  have notLead : ∀ lead : Lead, Component.parent ∉ lead.components := by
    intro lead
    cases lead <;> simp [Lead.components]
  rw [components, List.mem_append, or_iff_right (notLead _)]
  simp only [bodyComponents, List.mem_map, List.mem_filter]
  constructor
  · intro member
    obtain ⟨segment, ⟨listed, _⟩, isParent⟩ := member
    by_cases dots : segment = ['.', '.']
    · exact dots ▸ listed
    · simp [dots] at isParent
  · intro listed
    exact ⟨_, ⟨listed, rfl⟩, by simp⟩

end InterfaceLint.Path
