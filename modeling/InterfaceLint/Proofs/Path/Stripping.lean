import InterfaceLint.Proofs.Path.Parents

/-!
# What is left of a path after a base

A base is taken off a path component by component.  What is left is a relative
text without blank segments at its ends, and joined to the base it has the
components of the path again.  Nothing is left just when base and path have the
same components.
-/

set_option autoImplicit false

namespace InterfaceLint.Path

/-! ## Components of what is left -/

theorem bodyComponents_trimRight (body : List (List Char)) :
    bodyComponents (trimRight body) = bodyComponents body := by
  obtain ⟨blanks, whole, blank⟩ := exists_eq_trimRight_append body
  have parts := congrArg bodyComponents whole
  rw [bodyComponents_append, bodyComponents_of_blank blank, List.append_nil] at parts
  exact parts.symm

theorem bodyComponents_trimLeft (body : List (List Char)) :
    bodyComponents (trimLeft body) = bodyComponents body := by
  have parts := congrArg bodyComponents (List.takeWhile_append_dropWhile (p := isBlank) (l := body))
  rw [bodyComponents_append, bodyComponents_of_blank fun _ => List.mem_takeWhile_imp] at parts
  exact parts

theorem bodyComponents_dropComponents : ∀ (body : List (List Char)) (count : Nat),
    bodyComponents (dropComponents count body) = (bodyComponents body).drop count := by
  intro body
  induction body with
  | nil => intro count; cases count <;> simp [dropComponents, bodyComponents]
  | cons segment body induction =>
      intro count
      cases count with
      | zero => rfl
      | succ count =>
          by_cases blank : isBlank segment = true
          · rw [dropComponents, if_pos blank, bodyComponents_cons_of_isBlank blank, induction]
          · rw [dropComponents, if_neg blank, induction]
            simp [bodyComponents, blank]

theorem dropComponents_isSuffix : ∀ (body : List (List Char)) (count : Nat),
    dropComponents count body <:+ body := by
  intro body
  induction body with
  | nil => intro count; cases count <;> exact List.suffix_refl _
  | cons segment body induction =>
      intro count
      cases count with
      | zero => exact List.suffix_refl _
      | succ count =>
          rw [dropComponents]
          split
          · exact (induction _).trans (List.suffix_cons segment body)
          · exact (induction _).trans (List.suffix_cons segment body)

/-- Only the empty path has no component. -/
theorem components_eq_nil_iff {path : String} : components path = [] ↔ path = "" := by
  constructor
  · intro empty
    rw [components, List.append_eq_nil_iff] at empty
    obtain ⟨noLead, nothing⟩ := empty
    rw [bodyComponents, List.map_eq_nil_iff, List.filter_eq_nil_iff] at nothing
    refine eq_empty_of_blank ?_ fun segment listed => by simpa using nothing segment listed
    cases shape : (split path).lead <;> simp [shape, Lead.components] at noLead ⊢
  · rintro rfl
    rfl

/-! ## Joining a relative path -/

theorem lead_ofSegments_congr {first : List Char} {others behind : List (List Char)}
    (same : first = [] → (others = [] ↔ behind = [])) :
    (ofSegments (first :: others)).lead = (ofSegments (first :: behind)).lead := by
  by_cases empty : first = []
  · by_cases nothing : behind = []
    · simp [ofSegments, empty, (same empty).mpr nothing, nothing]
    · simp [ofSegments, empty, mt (same empty).mp nothing, nothing]
  · by_cases dot : first = ['.'] <;> simp [ofSegments, empty, dot]

theorem lead_join {base rest : String} (nonempty : base ≠ "") (relative : isAbsolute rest = false) :
    (split (join base rest)).lead = (split base).lead := by
  obtain ⟨front, joined, shape⟩ := segments_join_of_relative base relative
  have notSingle : segments base.toList ≠ [[]] := by
    intro single
    have text := joinSegments_segments base.toList
    rw [single] at text
    exact nonempty (String.toList_eq_nil_iff.mp text.symm)
  have someRest := segments_ne_nil rest.toList
  rw [split_eq, split_eq, joined]
  cases front with
  | nil =>
      rcases shape with shape | shape
      · exact absurd shape (segments_ne_nil _)
      · exact absurd shape notSingle
  | cons first others =>
      rcases shape with shape | shape
      · rw [shape] at notSingle ⊢
        refine lead_ofSegments_congr fun empty => iff_of_false (by simp [someRest]) ?_
        rintro rfl
        exact notSingle (by rw [empty])
      · rw [shape]
        exact lead_ofSegments_congr fun _ => iff_of_false (by simp [someRest]) (by simp)

theorem bodyComponents_join (base : String) {rest : String} (relative : isAbsolute rest = false) :
    bodyComponents (segments (join base rest).toList) =
      bodyComponents (segments base.toList) ++ bodyComponents (segments rest.toList) := by
  obtain ⟨front, joined, shape⟩ := segments_join_of_relative base relative
  rw [joined, bodyComponents_append]
  rcases shape with shape | shape
  · rw [shape]
  · have empty : bodyComponents [[]] = [] := rfl
    rw [shape, bodyComponents_append, empty, List.append_nil]

theorem components_join {base rest : String} (nonempty : base ≠ "")
    (relative : isAbsolute rest = false) :
    components (join base rest) = components base ++ bodyComponents (segments rest.toList) := by
  rw [components_eq, components_eq, lead_join nonempty relative, bodyComponents_join base relative,
    List.append_assoc]

theorem join_empty (rest : String) : join "" rest = rest := by
  simp [join]

/-- A relative path adds components to those of its base. -/
theorem components_isPrefix_join (base : String) {rest : String}
    (relative : isAbsolute rest = false) : components base <+: components (join base rest) := by
  by_cases empty : base = ""
  · rw [components_eq_nil_iff.mpr empty]
    exact List.nil_prefix
  · rw [components_join empty relative]
    exact List.prefix_append _ _

/-! ## Texts without blank ends -/

def EndsFilled (path : String) : Prop :=
  ∃ front last, segments path.toList = front ++ [last] ∧ isBlank last = false

theorem EndsFilled.join {base rest : String} (filled : EndsFilled rest)
    (relative : isAbsolute rest = false) : EndsFilled (join base rest) := by
  obtain ⟨front, last, shape, notBlank⟩ := filled
  obtain ⟨before, joined, _⟩ := segments_join_of_relative base relative
  refine ⟨before ++ front, last, ?_, notBlank⟩
  rw [joined, shape, List.append_assoc]

theorem trimRight_body_of_endsFilled {path : String} (filled : EndsFilled path) :
    trimRight (split path).body = (split path).body := by
  obtain ⟨front, last, shape, notBlank⟩ := filled
  have ended : ∃ before, (split path).body = before ++ [last] := by
    rw [split_eq, shape]
    cases front with
    | nil =>
        have notEmpty : last ≠ [] := by rintro rfl; cases notBlank
        have notDot : last ≠ ['.'] := by rintro rfl; cases notBlank
        exact ⟨[], by simp [ofSegments, notEmpty, notDot]⟩
    | cons first others =>
        rw [List.cons_append, ofSegments]
        split
        · exact ⟨others, rfl⟩
        · split
          · exact ⟨[] :: others, rfl⟩
          · exact ⟨first :: others, rfl⟩
  obtain ⟨before, ended⟩ := ended
  rw [ended]
  exact List.rdropWhile_concat_neg isBlank before last (by simp [notBlank])

theorem head_trimmed (body : List (List Char)) :
    ∀ first ∈ (trimRight (trimLeft body)).head?, isBlank first = false := by
  intro first isFirst
  obtain ⟨back, whole⟩ := trimRight_isPrefix (trimLeft body)
  have kept : (trimLeft body).head? = some first := by
    rw [← whole, List.head?_append, isFirst]
    rfl
  have notBlank := List.head?_dropWhile_not isBlank body
  rw [trimLeft] at kept
  rw [kept] at notBlank
  exact notBlank

section

variable {body : List (List Char)} (plain : ∀ segment ∈ body, '/' ∉ segment)

include plain

theorem plain_trimmed : ∀ segment ∈ trimRight (trimLeft body), '/' ∉ segment := by
  intro segment member
  exact plain segment ((List.dropWhile_sublist isBlank).subset
    ((trimRight_isPrefix _).subset member))

/-- As it does not start with a blank segment, the text has no lead. -/
theorem split_trimmed :
    split (String.ofList (joinSegments (trimRight (trimLeft body)))) =
      ⟨.none, if trimRight (trimLeft body) = [] then [[]] else trimRight (trimLeft body)⟩ := by
  have canonical : Split.Canonical ⟨.none, trimRight (trimLeft body)⟩ := by
    refine ⟨plain_trimmed plain, nofun, fun _ first isFirst => ?_⟩
    have notBlank := head_trimmed body first isFirst
    constructor
    · rintro rfl
      cases notBlank
    · rintro rfl
      cases notBlank
  have text : Split.render ⟨.none, trimRight (trimLeft body)⟩ =
      String.ofList (joinSegments (trimRight (trimLeft body))) := rfl
  rw [← text, split_render canonical]

theorem isAbsolute_trimmed :
    isAbsolute (String.ofList (joinSegments (trimRight (trimLeft body)))) = false := by
  rw [Bool.eq_false_iff, ne_eq, isAbsolute_iff, split_trimmed plain]
  nofun

theorem components_trimmed :
    components (String.ofList (joinSegments (trimRight (trimLeft body)))) =
      bodyComponents body := by
  have kept : bodyComponents (trimRight (trimLeft body)) = bodyComponents body := by
    rw [bodyComponents_trimRight, bodyComponents_trimLeft]
  rw [components, split_trimmed plain, Lead.components, List.nil_append, ← kept]
  dsimp only
  split
  · rename_i nothing
    rw [nothing]
    rfl
  · rfl

theorem bodyComponents_segments_trimmed :
    bodyComponents (segments (String.ofList (joinSegments (trimRight (trimLeft body)))).toList) =
      bodyComponents body := by
  have text := components_eq (String.ofList (joinSegments (trimRight (trimLeft body))))
  rw [components_trimmed plain, split_trimmed plain, Lead.components, List.nil_append] at text
  exact text.symm

theorem endsFilled_trimmed (nonempty : trimRight (trimLeft body) ≠ []) :
    EndsFilled (String.ofList (joinSegments (trimRight (trimLeft body)))) := by
  refine ⟨(trimRight (trimLeft body)).dropLast, (trimRight (trimLeft body)).getLast nonempty,
    ?_, ?_⟩
  · rw [String.toList_ofList, segments_joinSegments nonempty (plain_trimmed plain),
      List.dropLast_append_getLast]
  · rw [← Bool.not_eq_true]
    exact List.rdropWhile_last_not isBlank (trimLeft body) nonempty

end

/-! ## Taking off a base -/

/-- The path is what is left of another one after a base. -/
structure IsRest (path base rest : String) : Prop where
  components : components (join base rest) = components path
  empty_iff : rest = "" ↔ Path.components path = Path.components base
  endsFilled : EndsFilled path → rest ≠ "" → EndsFilled (join base rest)

/-- After the empty base all is left but blank segments at the end. -/
theorem isRest_of_empty (path : String) :
    IsRest path "" (Split.render { split path with body := trimRight (split path).body }) := by
  have canonical := (split_canonical path).of_isPrefix (trimRight_isPrefix (split path).body)
  have same : components (Split.render { split path with body := trimRight (split path).body }) =
      components path := by
    rw [components, split_render canonical, components, List.append_cancel_left_eq,
      ← bodyComponents_trimRight (split path).body]
    dsimp only
    split
    · rename_i nothing
      rw [nothing]
      rfl
    · rfl
  refine ⟨by rw [join_empty, same], ?_, fun filled _ => ?_⟩
  · rw [← components_eq_nil_iff, same]
    rfl
  · rw [join_empty, trimRight_body_of_endsFilled filled, render_split]
    exact filled

/-- A base that has a component has the lead of the path at least, so that the
rest of its components come off the segments. -/
theorem bodyComponents_dropComponents_of_append {path base : String} {others : List Component}
    (nonempty : components base ≠ []) (whole : components base ++ others = components path) :
    bodyComponents (dropComponents
      ((components base).length - (split path).lead.components.length) (split path).body) =
        others := by
  have leadWithin : (split path).lead.components.length ≤ (components base).length := by
    have positive := List.length_pos_of_ne_nil nonempty
    have atMost : (split path).lead.components.length ≤ 1 := by
      cases (split path).lead <;> simp [Lead.components]
    omega
  rw [bodyComponents_dropComponents]
  calc
    (bodyComponents (split path).body).drop
          ((components base).length - (split path).lead.components.length)
        = (components path).drop (components base).length := by
          rw [components.eq_1 path, List.drop_append, List.drop_of_length_le leadWithin,
            List.nil_append]
    _ = others := by rw [← whole, List.drop_left]

theorem isRest_of_strip? {path base rest : String} (stripped : strip? path base = some rest) :
    IsRest path base rest := by
  unfold strip? at stripped
  simp only [List.isPrefixOf_iff_prefix, List.isEmpty_iff, Option.ite_none_right_eq_some]
    at stripped
  obtain ⟨⟨others, whole⟩, stripped⟩ := stripped
  split at stripped
  · rename_i empty
    obtain rfl := components_eq_nil_iff.mp empty
    obtain rfl := Option.some.inj stripped
    exact isRest_of_empty path
  · rename_i nonempty
    obtain rfl := Option.some.inj stripped
    have left := bodyComponents_dropComponents_of_append nonempty whole
    have plain := fun segment member => (split_canonical path).plain segment
      ((dropComponents_isSuffix (split path).body
        ((components base).length - (split path).lead.components.length)).subset member)
    have relative := isAbsolute_trimmed plain
    refine ⟨?_, ?_, fun _ filled => ?_⟩
    · rw [components_join (fun empty => nonempty (components_eq_nil_iff.mpr empty)) relative,
        bodyComponents_segments_trimmed plain, left, whole]
    · rw [← components_eq_nil_iff, components_trimmed plain, left, ← whole]
      exact List.append_right_eq_self.symm
    · refine (endsFilled_trimmed plain fun nothing => filled ?_).join relative
      rw [nothing]
      rfl

theorem strip?_eq_none_iff {path base : String} :
    strip? path base = none ↔ ¬ components base <+: components path := by
  unfold strip?
  simp only [List.isPrefixOf_iff_prefix]
  split
  · rename_i start
    split <;> simp [start]
  · rename_i apart
    simp [apart]

end InterfaceLint.Path
