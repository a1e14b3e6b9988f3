import InterfaceLint.Finding
import Mathlib.Data.Prod.Lex
import Mathlib.Data.String.Basic
import Mathlib.Order.Lex

/-!
# Stable order of findings

Findings are compared by a key of path, line, column, rule and message, under
the lexicographic order.  Putting findings in order is told by two facts: the
keys of the result ascend, and for each key the findings that carry it stand
as they stood before.  Both facts together leave one result only, which is how
sorting is shown to pass over pieces that are sorted already.
-/

set_option autoImplicit false

namespace InterfaceLint.Finding

/-! ## The key of a finding -/

/-- Path, line, column, rule and message, compared in this order. -/
abbrev SortKey := String ×ₗ ℕ ×ₗ ℕ ×ₗ ℕ ×ₗ String

def sortKey (finding : Finding) : SortKey :=
  toLex (finding.place.path, toLex (finding.place.line.toNat, toLex (finding.place.col.toNat,
    toLex (finding.rule.rank, finding.message))))

def Ascending (findings : List Finding) : Prop :=
  findings.Pairwise fun left right => left.sortKey ≤ right.sortKey

theorem isLE_then_iff_lex {α β : Type} [LinearOrder α] [LE β]
    {first second : Ordering} {left right : α} {leftRest rightRest : β}
    (below : first = .lt ↔ left < right) (same : first = .eq ↔ left = right)
    (rest : second.isLE ↔ leftRest ≤ rightRest) :
    (first.then second).isLE ↔ toLex (left, leftRest) ≤ toLex (right, rightRest) := by
  rw [Ordering.isLE_then_iff_or, Prod.Lex.toLex_le_toLex, below, same, rest]

theorem compare_word_lt_iff (left right : UInt64) :
    compare left right = .lt ↔ left.toNat < right.toNat := by
  rw [Std.compare_eq_lt, UInt64.lt_iff_toNat_lt]

theorem compare_word_eq_iff (left right : UInt64) :
    compare left right = .eq ↔ left.toNat = right.toNat := by
  rw [Std.compare_eq_iff_eq, UInt64.toNat_inj]

theorem before_iff_sortKey_le (left right : Finding) :
    before left right ↔ left.sortKey ≤ right.sortKey := by
  unfold before order sortKey
  refine isLE_then_iff_lex compare_lt_iff_lt compare_eq_iff_eq ?_
  refine isLE_then_iff_lex (compare_word_lt_iff _ _) (compare_word_eq_iff _ _) ?_
  refine isLE_then_iff_lex (compare_word_lt_iff _ _) (compare_word_eq_iff _ _) ?_
  refine isLE_then_iff_lex compare_lt_iff_lt compare_eq_iff_eq ?_
  rw [Ordering.isLE_iff_ne_gt, compare_gt_iff_gt, not_lt]

theorem before_trans (first second third : Finding) (left : before first second)
    (right : before second third) : before first third := by
  rw [before_iff_sortKey_le] at *
  exact left.trans right

theorem before_total (left right : Finding) : (before left right || before right left) = true := by
  rw [Bool.or_eq_true, before_iff_sortKey_le, before_iff_sortKey_le]
  exact le_total _ _

/-! ## Stable sorting -/

def withKey (key : SortKey) (findings : List Finding) : List Finding :=
  findings.filter fun finding => finding.sortKey = key

/-- Whether `arranged` has the findings of `raw` in order, ties as they were. -/
structure StableSort (raw arranged : List Finding) : Prop where
  ascending : Ascending arranged
  ties : ∀ key, withKey key arranged = withKey key raw

theorem mem_withKey {key : SortKey} {findings : List Finding} {finding : Finding} :
    finding ∈ withKey key findings ↔ finding ∈ findings ∧ finding.sortKey = key := by
  simp [withKey]

theorem withKey_append (key : SortKey) (left right : List Finding) :
    withKey key (left ++ right) = withKey key left ++ withKey key right :=
  List.filter_append left right

theorem withKey_flatMap {α : Type} (key : SortKey) (items : List α) (piece : α → List Finding) :
    withKey key (items.flatMap piece) = items.flatMap fun item => withKey key (piece item) :=
  List.filter_flatMap

theorem sorted_perm (findings : List Finding) : (sorted findings).Perm findings :=
  List.mergeSort_perm findings before

theorem sorted_ascending (findings : List Finding) : Ascending (sorted findings) := by
  have pairwise := List.pairwise_mergeSort before_trans before_total findings
  exact pairwise.imp fun {left right} => (before_iff_sortKey_le left right).mp

/-- The findings with one key are a sublist in order already, so sorting keeps
them as a sublist; as their number stays the same, they are all that is there. -/
theorem withKey_sorted (key : SortKey) (findings : List Finding) :
    withKey key (sorted findings) = withKey key findings := by
  have tied : (withKey key findings).Pairwise fun left right => before left right = true := by
    refine List.pairwise_of_forall_mem_list ?_
    intro left leftMember right rightMember
    rw [before_iff_sortKey_le, (mem_withKey.mp leftMember).2, (mem_withKey.mp rightMember).2]
  have kept : (withKey key findings).Sublist (sorted findings) :=
    List.sublist_mergeSort before_trans before_total tied List.filter_sublist
  have within : (withKey key findings).Sublist (withKey key (sorted findings)) := by
    have filtered := kept.filter fun finding => finding.sortKey = key
    rwa [List.filter_eq_self.mpr (fun finding member => by
      simpa using (mem_withKey.mp member).2)] at filtered
  have sameLength : (withKey key findings).length = (withKey key (sorted findings)).length :=
    ((sorted_perm findings).filter _).length_eq.symm
  exact (within.eq_of_length sameLength).symm

theorem sorted_stableSort (findings : List Finding) : StableSort findings (sorted findings) :=
  ⟨sorted_ascending findings, fun key => withKey_sorted key findings⟩

theorem Ascending.head_le {first finding : Finding} {rest : List Finding}
    (ascending : Ascending (first :: rest)) (member : finding ∈ first :: rest) :
    first.sortKey ≤ finding.sortKey := by
  rcases List.mem_cons.mp member with rfl | member
  · exact le_rfl
  · exact (List.pairwise_cons.mp ascending).1 finding member

theorem withKey_cons (key : SortKey) (finding : Finding) (findings : List Finding) :
    withKey key (finding :: findings) =
      if finding.sortKey = key then finding :: withKey key findings else withKey key findings := by
  simp [withKey, List.filter_cons]

theorem mem_of_withKey_sublist {left right : List Finding}
    (ties : ∀ key, (withKey key left).Sublist (withKey key right)) {finding : Finding}
    (member : finding ∈ left) : finding ∈ right := by
  have tied : finding ∈ withKey finding.sortKey left := mem_withKey.mpr ⟨member, rfl⟩
  exact (mem_withKey.mp ((ties finding.sortKey).subset tied)).1

/-- Of two lists in order one is a sublist of the other as soon as it is one key
by key. -/
theorem Ascending.sublist_of_withKey : ∀ {right left : List Finding},
    Ascending left → Ascending right →
      (∀ key, (withKey key left).Sublist (withKey key right)) → left.Sublist right := by
  intro right
  induction right with
  | nil =>
      intro left _ _ ties
      rw [List.sublist_nil, List.eq_nil_iff_forall_not_mem]
      intro finding member
      exact List.not_mem_nil (mem_of_withKey_sublist ties member)
  | cons other others induction =>
      intro left leftAscending rightAscending ties
      have othersAscending : Ascending others := (List.pairwise_cons.mp rightAscending).2
      -- The head on the right matters for its own key only, so it may be left out.
      have skip (tied : (withKey other.sortKey left).Sublist (withKey other.sortKey others)) :
          left.Sublist (other :: others) := by
        refine (induction leftAscending othersAscending ?_).cons other
        intro key
        by_cases here : other.sortKey = key
        · rwa [← here]
        · simpa [withKey_cons, here] using ties key
      cases left with
      | nil => exact List.nil_sublist _
      | cons first rest =>
          by_cases sameKey : first.sortKey = other.sortKey
          · have headTies := ties other.sortKey
            rw [withKey_cons, withKey_cons, if_pos sameKey, if_pos rfl] at headTies
            cases headTies with
            | cons _ tied => exact skip (by rwa [withKey_cons, if_pos sameKey])
            | cons_cons _ tied =>
                have restAscending : Ascending rest := (List.pairwise_cons.mp leftAscending).2
                refine (induction restAscending othersAscending ?_).cons_cons other
                intro key
                by_cases here : other.sortKey = key
                · rwa [← here]
                · simpa [withKey_cons, here] using ties key
          · have above : other.sortKey < first.sortKey := by
              refine lt_of_le_of_ne (rightAscending.head_le ?_) (Ne.symm sameKey)
              exact mem_of_withKey_sublist ties List.mem_cons_self
            have none : withKey other.sortKey (first :: rest) = [] := by
              rw [List.eq_nil_iff_forall_not_mem]
              intro finding member
              obtain ⟨member, here⟩ := mem_withKey.mp member
              exact absurd (leftAscending.head_le member) (by rw [here]; exact not_le_of_gt above)
            exact skip (by rw [none]; exact List.nil_sublist _)

/-- A list in order is known from its findings key by key. -/
theorem Ascending.eq_of_withKey_eq {left right : List Finding} (leftAscending : Ascending left)
    (rightAscending : Ascending right) (ties : ∀ key, withKey key left = withKey key right) :
    left = right := by
  apply List.Sublist.antisymm
  · exact leftAscending.sublist_of_withKey rightAscending fun key => ties key ▸ List.Sublist.refl _
  · exact rightAscending.sublist_of_withKey leftAscending fun key => ties key ▸ List.Sublist.refl _

/-- Two arrangements of the same findings are equal. -/
theorem StableSort.unique {raw left right : List Finding} (leftSort : StableSort raw left)
    (rightSort : StableSort raw right) : left = right := by
  refine leftSort.ascending.eq_of_withKey_eq rightSort.ascending ?_
  intro key
  rw [leftSort.ties, rightSort.ties]

theorem sorted_eq_self {findings : List Finding} (ascending : Ascending findings) :
    sorted findings = findings :=
  (sorted_stableSort findings).unique ⟨ascending, fun _ => rfl⟩

/-- Leaving findings out before sorting leaves the others in the same order. -/
theorem sorted_sublist_sorted {left right : List Finding} (sublist : left.Sublist right) :
    (sorted left).Sublist (sorted right) := by
  apply (sorted_ascending left).sublist_of_withKey (sorted_ascending right)
  intro key
  rw [withKey_sorted, withKey_sorted]
  exact sublist.filter _

theorem sorted_eq_of_withKey_eq {left right : List Finding}
    (ties : ∀ key, withKey key left = withKey key right) : sorted left = sorted right := by
  refine (sorted_stableSort left).unique ⟨sorted_ascending right, ?_⟩
  intro key
  rw [withKey_sorted, ties]

/-- Pieces may be sorted before the whole is, or not. -/
theorem sorted_flatMap_sorted_append {α : Type} (items : List α) (piece : α → List Finding)
    (rest : List Finding) :
    sorted (items.flatMap (fun item => sorted (piece item)) ++ rest) =
      sorted (items.flatMap piece ++ rest) := by
  apply sorted_eq_of_withKey_eq
  intro key
  rw [withKey_append, withKey_append, withKey_flatMap, withKey_flatMap]
  simp only [withKey_sorted]

/-! ## Sorting and changes that keep the keys -/

end InterfaceLint.Finding
