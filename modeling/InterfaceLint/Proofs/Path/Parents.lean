import InterfaceLint.Proofs.Path.Segments

/-!
# Parents of path texts

Taking the parent of a path drops its last segment that is not blank, together
with the blank ones around it, and leaves a beginning of the text.  As each
parent is shorter, the parents of a path come to an end, at the root or at the
empty path.
-/

set_option autoImplicit false

namespace InterfaceLint.Path

/-! ## Blank segments at the end -/

theorem trimRight_isPrefix (body : List (List Char)) : trimRight body <+: body :=
  List.rdropWhile_prefix isBlank body

theorem trimRight_trimRight (body : List (List Char)) :
    trimRight (trimRight body) = trimRight body :=
  List.rdropWhile_idempotent isBlank body

theorem exists_eq_trimRight_append (body : List (List Char)) :
    ∃ blanks, body = trimRight body ++ blanks ∧ ∀ segment ∈ blanks, isBlank segment = true :=
  ⟨_, List.rdropWhile_append_rtakeWhile.symm, fun _ => List.mem_rtakeWhile_imp⟩

/-! ## Splitting and rendering -/

namespace Split

/-- A split that some path text has, possibly cut short at its end. -/
structure Canonical (parts : Split) : Prop where
  plain : ∀ segment ∈ parts.body, '/' ∉ segment
  current : parts.lead = .current → ∀ first ∈ parts.body.head?, first = []
  none : parts.lead = .none → ∀ first ∈ parts.body.head?,
    first ≠ ['.'] ∧ (first = [] → parts.body = [[]])

theorem Canonical.of_isPrefix {parts : Split} (canonical : parts.Canonical)
    {front : List (List Char)} (start : front <+: parts.body) : Canonical ⟨parts.lead, front⟩ := by
  obtain ⟨lead, body⟩ := parts
  cases front with
  | nil => exact ⟨by simp, by simp, by simp⟩
  | cons first others =>
      obtain ⟨back, rfl⟩ := start
      refine ⟨fun segment member => canonical.plain segment (List.mem_append_left _ member),
        fun isCurrent => by simpa using canonical.current isCurrent, ?_⟩
      intro isNone
      obtain ⟨notDot, empty⟩ := canonical.none isNone first (by simp)
      refine fun other member => ?_
      obtain rfl : first = other := by simpa using member
      refine ⟨notDot, fun isEmpty => ?_⟩
      have single := empty isEmpty
      simp at single
      simp [single]

end Split

theorem split_canonical (path : String) : (split path).Canonical := by
  obtain ⟨first, others, shape⟩ := List.exists_cons_of_ne_nil (segments_ne_nil path.toList)
  have plain : ∀ segment ∈ first :: others, '/' ∉ segment := fun segment member =>
    slash_not_mem_of_mem_segments (shape ▸ member)
  rw [split_eq, shape, ofSegments]
  split
  · exact ⟨fun segment member => plain segment (List.mem_cons_of_mem _ member), by simp, by simp⟩
  · split
    · exact ⟨by simpa using (List.forall_mem_cons.mp plain).2, by simp, by simp⟩
    · rename_i notRoot notDot
      refine ⟨plain, by simp, fun _ => ?_⟩
      simp_all

theorem isAbsolute_iff {path : String} : isAbsolute path = true ↔ (split path).lead = .root := by
  rw [isAbsolute, decide_eq_true_eq]
  unfold split
  split <;> simp_all [List.head?_eq_some_iff]

theorem render_split (path : String) : (split path).render = path := by
  obtain ⟨first, others, shape⟩ := List.exists_cons_of_ne_nil (segments_ne_nil path.toList)
  have whole := joinSegments_segments path.toList
  rw [split_eq, shape, ofSegments]
  rw [shape] at whole
  split
  · rename_i root
    obtain ⟨rfl, nonempty⟩ := root
    obtain ⟨second, others, rfl⟩ := List.exists_cons_of_ne_nil nonempty
    rw [joinSegments, List.intercalate_cons_cons] at whole
    rw [← String.toList_inj, ← whole, Split.render, String.toList_ofList]
    rfl
  · split
    · rename_i dot
      subst dot
      rw [← String.toList_inj, ← whole, Split.render, String.toList_ofList]
      cases others with
      | nil => rfl
      | cons second others =>
          simp [joinSegments, List.intercalate_cons_cons]
    · rw [Split.render, whole, String.ofList_toList]

theorem split_render {parts : Split} (canonical : parts.Canonical) :
    split parts.render = ⟨parts.lead, if parts.body = [] then [[]] else parts.body⟩ := by
  obtain ⟨lead, body⟩ := parts
  rw [split_eq]
  cases body with
  | nil => cases lead <;> rfl
  | cons first others =>
      have segmented := segments_joinSegments (List.cons_ne_nil first others) canonical.plain
      cases lead with
      | root =>
          rw [Split.render, String.toList_ofList, segments_cons_slash, segmented]
          simp [ofSegments]
      | current =>
          obtain rfl : first = [] := canonical.current rfl first (by simp)
          cases others with
          | nil => rfl
          | cons second others =>
              have rest := segments_joinSegments (List.cons_ne_nil second others)
                fun segment member => canonical.plain segment (List.mem_cons_of_mem _ member)
              have text : '.' :: joinSegments ([] :: second :: others) =
                  ['.'] ++ '/' :: joinSegments (second :: others) := by
                simp [joinSegments, List.intercalate_cons_cons]
              rw [Split.render, String.toList_ofList, text, segments_append_slash, rest]
              simp [ofSegments, segments]
      | none =>
          obtain ⟨notDot, empty⟩ := canonical.none rfl first (by simp)
          rw [Split.render, String.toList_ofList, segmented]
          by_cases isEmpty : first = []
          · have single := empty isEmpty
            simp at single
            simp [ofSegments, single]
          · simp [ofSegments, isEmpty, notDot]

theorem render_isPrefix (lead : Lead) {front body : List (List Char)} (start : front <+: body) :
    (Split.render ⟨lead, front⟩).toList <+: (Split.render ⟨lead, body⟩).toList := by
  have joined := joinSegments_isPrefix start
  cases lead <;> simpa [Split.render] using joined

/-! ## One parent -/

def trimmed (path : String) : List (List Char) := trimRight (split path).body

theorem isEntrySegment_of_trimmed {path : String} {front : List (List Char)} {last : List Char}
    (shape : trimmed path = front ++ [last]) (notParent : last ≠ ['.', '.']) :
    IsEntrySegment last := by
  have listed : last ∈ (split path).body :=
    (trimRight_isPrefix _).subset (show last ∈ trimmed path by simp [shape])
  have kept : trimRight (front ++ [last]) = front ++ [last] := by
    rw [← shape, trimmed, trimRight_trimRight]
  refine ⟨(split_canonical path).plain last listed, ?_, notParent⟩
  by_contra blank
  rw [Bool.not_eq_false] at blank
  have cut : trimRight (front ++ [last]) = trimRight front :=
    List.rdropWhile_concat_pos isBlank front last blank
  have shorter := (trimRight_isPrefix front).length_le
  rw [← cut, kept, List.length_append, List.length_singleton] at shorter
  omega

/-- What a path and its parent have in common. -/
structure IsParent (path parent : String) : Prop where
  trimmed : trimmed parent = trimRight (trimmed path).dropLast
  sameRoot : isAbsolute parent = isAbsolute path
  isPrefix : parent.toList <+: path.toList
  different : parent ≠ path

theorem parent?_eq (path : String) :
    parent? path =
      if trimmed path = [] then if (split path).lead = .current then some "" else none
      else some (Split.render ⟨(split path).lead, trimRight (trimmed path).dropLast⟩) := by
  simp only [parent?, trimmed, List.isEmpty_iff]
  congr 1
  cases (split path).lead <;> rfl

theorem trimmed_eq_nil_of_parent?_eq_none {path : String} (absent : parent? path = none) :
    trimmed path = [] := by
  rw [parent?_eq] at absent
  split at absent
  · assumption
  · cases absent

theorem isParent_of_parent?_eq_some {path parent : String} (found : parent? path = some parent) :
    IsParent path parent := by
  rw [parent?_eq] at found
  split at found
  · rename_i blank
    simp only [Option.ite_none_right_eq_some, Option.some.injEq] at found
    obtain ⟨current, rfl⟩ := found
    refine ⟨by rw [blank]; rfl, ?_, List.nil_prefix, ?_⟩
    · rw [Bool.eq_iff_iff, isAbsolute_iff, isAbsolute_iff, current]
      decide
    · rintro rfl
      exact absurd current (by decide)
  · rename_i nonempty
    obtain rfl := Option.some.inj found
    -- What is left are the first segments, so that the text is read as it was.
    have front : trimRight (trimmed path).dropLast <+: (split path).body :=
      (trimRight_isPrefix _).trans ((List.dropLast_prefix _).trans (trimRight_isPrefix _))
    have parts := split_render ((split_canonical path).of_isPrefix front)
    have kept : trimmed (Split.render ⟨(split path).lead, trimRight (trimmed path).dropLast⟩) =
        trimRight (trimmed path).dropLast := by
      rw [trimmed, parts]
      dsimp only
      split
      · rename_i none
        rw [none]
        rfl
      · exact trimRight_trimRight _
    refine ⟨kept, by rw [Bool.eq_iff_iff, isAbsolute_iff, isAbsolute_iff, parts], ?_, ?_⟩
    · have texts := render_isPrefix (split path).lead front
      rwa [render_split] at texts
    · intro same
      rw [same] at kept
      have shorter := (trimRight_isPrefix (trimmed path).dropLast).length_le
      have positive := List.length_pos_of_ne_nil nonempty
      rw [← kept, List.length_dropLast] at shorter
      omega

/-! ## All parents -/

theorem IsParent.length_lt {path parent : String} (isParent : IsParent path parent) :
    parent.length < path.length := by
  rw [← String.length_toList, ← String.length_toList]
  refine lt_of_le_of_ne isParent.isPrefix.length_le ?_
  intro sameLength
  exact isParent.different (String.toList_inj.mp (isParent.isPrefix.eq_of_length sameLength))

/-- Once the limit reaches the length of the text, one more makes no difference. -/
theorem ancestorsWithin_succ : ∀ {limit : Nat} {path : String}, path.length ≤ limit →
    ancestorsWithin (limit + 1) path = ancestorsWithin limit path := by
  intro limit
  induction limit with
  | zero =>
      intro path short
      have empty : path = "" := by simpa using short
      subst empty
      rfl
  | succ limit induction =>
      intro path within
      rw [ancestorsWithin, ancestorsWithin]
      cases found : parent? path with
      | none => rfl
      | some parent =>
          have shorter := (isParent_of_parent?_eq_some found).length_lt
          simp only [induction (show parent.length ≤ limit by omega)]

theorem ancestorsWithin_eq_ancestors {limit : Nat} {path : String} (within : path.length ≤ limit) :
    ancestorsWithin limit path = ancestors path := by
  induction limit, within using Nat.le_induction with
  | base => rfl
  | succ limit within induction => rw [ancestorsWithin_succ within, induction]

/-- A path comes before its parent and the parents of that. -/
theorem ancestors_eq (path : String) :
    ancestors path = path :: (parent? path).elim [] ancestors := by
  rw [← ancestorsWithin_eq_ancestors (Nat.le_succ path.length), ancestorsWithin]
  cases found : parent? path with
  | none => rfl
  | some parent =>
      have shorter := (isParent_of_parent?_eq_some found).length_lt
      simp only [ancestorsWithin_eq_ancestors shorter.le, Option.elim]

/-! ## The way up -/

/-- A path, its parent, the parent of that and so on, until there is none. -/
inductive Climb : String → List String → Prop
  | top {path : String} (none : parent? path = none) : Climb path [path]
  | up {path parent : String} {rest : List String} (next : parent? path = some parent)
      (climb : Climb parent rest) : Climb path (path :: rest)

theorem Climb.eq_cons {path : String} {chain : List String} (climb : Climb path chain) :
    ∃ others, chain = path :: others := by
  cases climb with
  | top _ => exact ⟨[], rfl⟩
  | up _ _ => exact ⟨_, rfl⟩

theorem climb_ancestors (path : String) : Climb path (ancestors path) := by
  rw [ancestors_eq]
  cases found : parent? path with
  | none => exact .top found
  | some parent =>
      have shorter := (isParent_of_parent?_eq_some found).length_lt
      exact .up found (climb_ancestors parent)
termination_by path.length

theorem Climb.eq_ancestors {path : String} {chain : List String} (climb : Climb path chain) :
    chain = ancestors path := by
  induction climb with
  | top none => rw [ancestors_eq, none, Option.elim]
  | up next _ induction => rw [ancestors_eq, next, Option.elim, induction]

theorem Climb.length_le {path : String} {chain : List String} (climb : Climb path chain) :
    chain.length ≤ path.length + 1 := by
  induction climb with
  | top _ => simp
  | up next _ induction =>
      have shorter := (isParent_of_parent?_eq_some next).length_lt
      rw [List.length_cons]
      omega

theorem isBlank_of_parent?_eq_none {path : String} (none : parent? path = none) :
    ∀ segment ∈ (split path).body, isBlank segment = true := by
  obtain ⟨blanks, whole, blank⟩ := exists_eq_trimRight_append (split path).body
  have trimmedAway : trimRight (split path).body = [] := trimmed_eq_nil_of_parent?_eq_none none
  rw [whole, trimmedAway, List.nil_append]
  exact blank

/-- A path without a lead whose segments are all blank is empty. -/
theorem eq_empty_of_blank {path : String} (noLead : (split path).lead = .none)
    (blank : ∀ segment ∈ (split path).body, isBlank segment = true) : path = "" := by
  have canonical := split_canonical path
  have text := render_split path
  rw [Split.render, noLead] at text
  cases body : (split path).body with
  | nil =>
      rw [body] at text
      exact text.symm
  | cons first others =>
      obtain ⟨notDot, single⟩ := canonical.none noLead first (by simp [body])
      have empty : first = [] := by
        have firstBlank := blank first (by simp [body])
        simpa [isBlank, notDot] using firstBlank
      rw [single empty] at text
      exact text.symm

/-- What has no parent is the root, or the empty path. -/
theorem top_of_parent?_eq_none {path : String} (none : parent? path = none) :
    if isAbsolute path then components path = [.root] else path = "" := by
  have blank := isBlank_of_parent?_eq_none none
  split
  · rename_i absolute
    simp only [components, bodyComponents_of_blank blank, isAbsolute_iff.mp absolute,
      Lead.components, List.append_nil]
  · rename_i relative
    have noRoot : (split path).lead ≠ .root := fun root => relative (isAbsolute_iff.mpr root)
    have trimmedAway := trimmed_eq_nil_of_parent?_eq_none none
    refine eq_empty_of_blank ?_ blank
    rw [parent?_eq, if_pos trimmedAway] at none
    cases lead : (split path).lead with
    | none => rfl
    | root => exact absurd lead noRoot
    | current => simp [lead] at none

theorem Climb.ends {path : String} {chain : List String} (climb : Climb path chain) :
    ∀ last ∈ chain.getLast?, if isAbsolute path then components last = [.root] else last = "" := by
  induction climb with
  | top none =>
      intro last isLast
      cases isLast
      exact top_of_parent?_eq_none none
  | up next climb induction =>
      intro last isLast
      rw [← (isParent_of_parent?_eq_some next).sameRoot]
      obtain ⟨others, rfl⟩ := climb.eq_cons
      rw [List.getLast?_cons_cons] at isLast
      exact induction last isLast

end InterfaceLint.Path
