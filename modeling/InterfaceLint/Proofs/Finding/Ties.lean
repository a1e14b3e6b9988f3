import InterfaceLint.Proofs.Finding.StableSort
import Mathlib.Data.List.Forall2

/-!
# Findings that compare equal

Findings are compared by path, line, column, rule and message.  This is a total
preorder but no order: findings may compare equal and still differ in what else
they carry.  Which ones do is told by their kinds.  Sorting leaves such findings
as they stood, so all arrangements of some findings are sorted into one list
exactly when those among them that compare equal are equal.
-/

set_option autoImplicit false

namespace InterfaceLint

theorem Rule.markerDeclaration_message (name : String) :
    markerDeclarationDescriptor.message [name] =
      "Method '" ++ name ++ "' must be generic and have an interface type constraint" := by
  rw [← String.toList_inj, String.toList_append, String.toList_append, Descriptor.message,
    Template.fill, String.toList_ofList]
  rfl

theorem Rule.markerDeclaration_message_inj {left right : String} :
    markerDeclarationDescriptor.message [left] = markerDeclarationDescriptor.message [right] ↔
      left = right := by
  rw [markerDeclaration_message, markerDeclaration_message, String.append_left_inj,
    String.append_right_inj]

theorem Rule.rank_injective {left right : Rule} (sameRank : left.rank = right.rank) :
    left = right := by
  cases left <;> cases right <;> cases sameRank <;> rfl

namespace Finding

/-! ## The comparison as a preorder -/

instance order_transCmp : Std.TransCmp order :=
  inferInstanceAs (Std.TransCmp
    (compareLex (compareOn fun finding : Finding => finding.place.path)
      (compareLex (compareOn fun finding : Finding => finding.place.line)
        (compareLex (compareOn fun finding : Finding => finding.place.col)
          (compareLex (compareOn fun finding : Finding => finding.rule.rank)
            (compareOn message))))))

def compared (finding : Finding) : String × UInt64 × UInt64 × Rule × String :=
  (finding.place.path, finding.place.line, finding.place.col, finding.rule, finding.message)

theorem compared_eq_iff_sortKey_eq {left right : Finding} :
    left.compared = right.compared ↔ left.sortKey = right.sortKey := by
  simp only [compared, sortKey, toLex_inj, Prod.mk.injEq, UInt64.toNat_inj]
  constructor
  · intro same
    obtain ⟨path, line, col, rule, message⟩ := same
    exact ⟨path, line, col, by rw [rule], message⟩
  · intro same
    obtain ⟨path, line, col, rank, message⟩ := same
    exact ⟨path, line, col, Rule.rank_injective rank, message⟩

theorem order_eq_iff_compared_eq {left right : Finding} :
    order left right = .eq ↔ left.compared = right.compared := by
  rw [compared_eq_iff_sortKey_eq]
  simp only [order, sortKey, Ordering.then_eq_eq, compare_word_eq_iff, compare_eq_iff_eq,
    toLex_inj, Prod.mk.injEq]

/-- Findings that a comparison does not tell apart. -/
inductive Tied : Finding → Finding → Prop
  | calls {left right : CallFinding} (file : left.location.file = right.location.file)
      (line : left.location.line = right.location.line)
      (col : left.location.col = right.location.col) : Tied (.call left) (.call right)
  | declarations {left right : DeclarationFinding}
      (file : left.location.file = right.location.file)
      (line : left.location.line = right.location.line)
      (col : left.location.col = right.location.col) (method : left.method = right.method) :
      Tied (.declaration left) (.declaration right)
  | unreadable (model : UnreadableModel) : Tied (.unreadable model) (.unreadable model)

theorem order_eq_iff_tied {left right : Finding} : order left right = .eq ↔ Tied left right := by
  rw [order_eq_iff_compared_eq]
  constructor
  · intro same
    simp only [compared, Prod.mk.injEq] at same
    obtain ⟨path, line, col, rule, sameMessage⟩ := same
    cases left <;> cases right <;> cases rule
    · exact .calls path line col
    · exact .declarations path line col (Rule.markerDeclaration_message_inj.mp sameMessage)
    · rename_i left right
      have sameModel : left = right := by
        cases left
        cases right
        cases path
        cases sameMessage
        rfl
      rw [sameModel]
      exact .unreadable right
  · intro tied
    cases tied with
    | calls file line col =>
        simp [compared, place, Place.path, Place.line, Place.col, rule, message, *]
    | declarations file line col method =>
        simp [compared, place, Place.path, Place.line, Place.col, rule, message, *]
    | unreadable model => rfl

theorem order_call_eq_iff {left right : CallFinding} :
    order (.call left) (.call right) = .eq ↔
      left.location.file = right.location.file ∧ left.location.line = right.location.line ∧
        left.location.col = right.location.col := by
  rw [order_eq_iff_tied]
  constructor
  · rintro ⟨file, line, col⟩
    exact ⟨file, line, col⟩
  · rintro ⟨file, line, col⟩
    exact .calls file line col

/-! ## Sorting other arrangements -/

def tiedWith (finding : Finding) (findings : List Finding) : List Finding :=
  findings.filter fun other => order finding other = .eq

theorem withKey_eq_tiedWith (finding : Finding) (findings : List Finding) :
    withKey finding.sortKey findings = tiedWith finding findings := by
  unfold withKey tiedWith
  congr 1
  funext other
  rw [decide_eq_decide, order_eq_iff_compared_eq, compared_eq_iff_sortKey_eq, eq_comm]

theorem sorted_eq_iff_withKey_eq {left right : List Finding} :
    sorted left = sorted right ↔ ∀ key, withKey key left = withKey key right := by
  constructor
  · intro same key
    rw [← withKey_sorted, same, withKey_sorted]
  · exact sorted_eq_of_withKey_eq

/-- Two lists are sorted into the same exactly when their ties stand alike. -/
theorem sorted_eq_iff_tiedWith_eq {left right : List Finding} :
    sorted left = sorted right ↔ ∀ finding, tiedWith finding left = tiedWith finding right := by
  rw [sorted_eq_iff_withKey_eq]
  constructor
  · intro ties finding
    rw [← withKey_eq_tiedWith, ← withKey_eq_tiedWith, ties]
  · intro ties key
    by_cases occurs : ∃ finding : Finding, finding.sortKey = key
    · obtain ⟨finding, rfl⟩ := occurs
      rw [withKey_eq_tiedWith, withKey_eq_tiedWith, ties finding]
    · have none (findings : List Finding) : withKey key findings = [] := by
        rw [List.eq_nil_iff_forall_not_mem]
        intro finding member
        exact occurs ⟨finding, (mem_withKey.mp member).2⟩
      rw [none, none]

/-- What stands around two lists does not matter to whether they are sorted into
the same. -/
theorem sorted_surrounded_eq_iff {before left right after : List Finding} :
    sorted (before ++ (left ++ after)) = sorted (before ++ (right ++ after)) ↔
      sorted left = sorted right := by
  simp only [sorted_eq_iff_withKey_eq, withKey_append, List.append_cancel_left_eq,
    List.append_cancel_right_eq]

/-- Of findings that compare equal the one in front comes out first. -/
theorem eq_of_sorted_cons_eq {left right : Finding} {leftRest rightRest : List Finding}
    (tied : order left right = .eq)
    (same : sorted (left :: leftRest) = sorted (right :: rightRest)) : left = right := by
  have ties := sorted_eq_iff_tiedWith_eq.mp same left
  have selfTied : order left left = .eq := Std.ReflCmp.compare_self
  rw [tiedWith, tiedWith, List.filter_cons_of_pos (by simpa using selfTied),
    List.filter_cons_of_pos (by simpa using tied)] at ties
  exact (List.cons.inj ties).1

theorem sorted_eq_of_perm {left right : List Finding} (perm : left.Perm right)
    (tiesEqual : ∀ first ∈ right, ∀ second ∈ right, order first second = .eq → first = second) :
    sorted left = sorted right := by
  refine List.Perm.eq_of_pairwise ?_ (sorted_ascending left) (sorted_ascending right)
    ((sorted_perm left).trans (perm.trans (sorted_perm right).symm))
  intro first second firstMember secondMember below above
  apply tiesEqual first (perm.subset ((sorted_perm left).subset firstMember)) second
    ((sorted_perm right).subset secondMember)
  rw [order_eq_iff_compared_eq, compared_eq_iff_sortKey_eq]
  exact le_antisymm below above

/-- All arrangements of findings are sorted into one list exactly when no two of
them differ and compare equal. -/
theorem sorted_arrangements_eq_iff {findings : List Finding} :
    (∀ other : List Finding, other.Perm findings → sorted other = sorted findings) ↔
      ∀ first ∈ findings, ∀ second ∈ findings, order first second = .eq → first = second := by
  constructor
  · intro alike first firstMember second secondMember tied
    have firstFront := alike _ (List.perm_cons_erase firstMember).symm
    have secondFront := alike _ (List.perm_cons_erase secondMember).symm
    exact eq_of_sorted_cons_eq tied (firstFront.trans secondFront.symm)
  · intro tiesEqual other perm
    exact sorted_eq_of_perm perm tiesEqual

/-- Whatever the arrangement, the same is compared at each place of the result. -/
theorem sorted_map_compared_eq_of_perm {left right : List Finding} (perm : left.Perm right) :
    (sorted left).map compared = (sorted right).map compared := by
  have sameKeys : (sorted left).map sortKey = (sorted right).map sortKey := by
    refine List.Perm.eq_of_pairwise (fun _ _ _ _ below above => le_antisymm below above)
      (List.pairwise_map.mpr (sorted_ascending left))
      (List.pairwise_map.mpr (sorted_ascending right)) (List.Perm.map sortKey ?_)
    exact (sorted_perm left).trans (perm.trans (sorted_perm right).symm)
  rw [← List.forall₂_eq_eq_eq, List.forall₂_map_left_iff, List.forall₂_map_right_iff]
    at sameKeys ⊢
  exact sameKeys.imp fun _ _ => compared_eq_iff_sortKey_eq.mpr

end Finding

end InterfaceLint
