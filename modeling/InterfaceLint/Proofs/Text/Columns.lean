import InterfaceLint.Text.Width

/-!
# Columns of a text

A text is measured from its end, and a sequence may take back columns that were
counted for a part of it.  Of such columns it never takes back more than were
counted, so the width of a text is the sum of what its characters add.  A blank
stands outside of every sequence: in front of any text a row of narrow characters
that ends with a blank takes one column a character.
-/

set_option autoImplicit false

namespace InterfaceLint.Text

/-! ## Tables -/

/-- No range of the one table meets a range of the other. -/
def Ranges.apart (left right : Ranges) : Bool :=
  left.all fun (low, high) => right.all fun (low', high') => high < low' || high' < low

theorem Ranges.has_eq_false_of_apart {left right : Ranges} (apart : left.apart right = true)
    {c : Char} (inLeft : left.has c = true) : right.has c = false := by
  obtain ⟨range, listed, within⟩ := List.any_eq_true.mp inLeft
  rw [Ranges.has, List.any_eq_false]
  intro other member
  have separate := List.all_eq_true.mp (List.all_eq_true.mp apart range listed) other member
  simp only [Bool.or_eq_true, Bool.and_eq_true, decide_eq_true_eq] at within separate ⊢
  omega

theorem khmerSubscripts_apart_zeroWidth : khmerSubscripts.apart zeroWidth = true := by
  decide +kernel

theorem one_le_charWidth {c : Char} (counted : zeroWidth.has c = false) : 1 ≤ charWidth c := by
  unfold charWidth
  grind

/-! ## What a sequence can take back -/

/-- The columns counted for the part of a sequence behind, that the part in front
may take back. -/
def Following.owed : Following → Int
  | .khmerSubscript | .tifinaghJoined | .joinedFlagHalf | .joinedFlagOdd => 1
  | _ => 0

def Context.owed (context : Context) : Int := context.following.owed

theorem Following.owed_bounds (following : Following) :
    0 ≤ following.owed ∧ following.owed ≤ 1 := by
  cases following <;> simp [owed]

theorem Following.owed_of_join? {following joined : Following}
    (joins : following.join? = some joined) : joined.owed = following.owed := by
  cases following <;> cases joins <;> rfl

namespace Context

theorem owed_nonneg (context : Context) : 0 ≤ context.owed := context.following.owed_bounds.1

theorem owed_ite {p : Prop} [Decidable p] {first second : Context} (yes : p → first.owed = 0)
    (no : second.owed = 0) : (if p then first else second).owed = 0 :=
  iteInduction (motive := fun next : Context => next.owed = 0) yes fun _ => no

theorem owed_select_le (context : Context) (add : Selectors → Selectors) :
    (context.select add).owed ≤ context.owed := by
  unfold select
  split
  · exact Int.le_refl _
  · exact context.owed_nonneg

theorem owed_selectEmoji_le (context : Context) : context.selectEmoji.owed ≤ context.owed := by
  unfold selectEmoji
  split
  · exact Int.le_refl _
  · exact context.owed_select_le _

theorem owed_withoutEmoji_le (context : Context) : context.withoutEmoji.owed ≤ context.owed := by
  unfold withoutEmoji
  split
  · exact Int.le_refl _
  · exact context.owed_nonneg

end Context

theorem owed_asFollowing_of_other {c : Char} (other : khmerSubscripts.has c = false) :
    (asFollowing c).owed = 0 := by
  unfold asFollowing
  dsimp only
  -- The tests up to that for a Khmer letter leave nothing owed, and so do those behind it.
  repeat refine Context.owed_ite (fun _ => rfl) ?_
  refine Context.owed_ite (fun letter => absurd letter (by simp [other])) ?_
  repeat refine Context.owed_ite (fun _ => rfl) ?_
  rfl

/-- Of single characters only Khmer letters have something taken back, and they are counted. -/
theorem owed_asFollowing_le (c : Char) : (asFollowing c).owed ≤ charWidth c := by
  cases letter : khmerSubscripts.has c with
  | true =>
      have notZero := Ranges.has_eq_false_of_apart khmerSubscripts_apart_zeroWidth letter
      have counted := one_le_charWidth notZero
      have atMost : (asFollowing c).owed ≤ 1 := (asFollowing c).following.owed_bounds.2
      omega
  | false =>
      rw [owed_asFollowing_of_other letter]
      exact Int.natCast_nonneg _

/-! ## One character -/

/-- A step adds at least as many columns as it leaves owed beyond what was owed before. -/
def Pays (context : Context) (step : Int × Context) : Prop :=
  step.2.owed ≤ context.owed + step.1

theorem Pays.ite {context : Context} {p : Prop} [Decidable p] {first second : Int × Context}
    (yes : p → Pays context first) (no : ¬ p → Pays context second) :
    Pays context (if p then first else second) :=
  iteInduction yes no

theorem Pays.of_owed_le {context next : Context} {columns : Int} (covered : next.owed ≤ columns) :
    Pays context (columns, next) := by
  have nonneg := context.owed_nonneg
  change next.owed ≤ context.owed + columns
  omega

theorem Pays.of_kept {context next : Context} (kept : next.owed ≤ context.owed) :
    Pays context (0, next) := by
  change next.owed ≤ context.owed + 0
  omega

theorem asFollowing_pays (c : Char) (context : Context) :
    Pays context (charWidth c, asFollowing c) :=
  .of_owed_le (owed_asFollowing_le c)

theorem inSequence?_pays {c : Char} {context : Context} {step : Int × Context}
    (sequence : inSequence? c context.following = some step) : Pays context step := by
  obtain ⟨added, next⟩ := step
  change next.owed ≤ context.following.owed + added
  generalize context.following = following at sequence ⊢
  unfold inSequence? at sequence
  dsimp only at sequence
  split at sequence <;> grind [Following.owed, Context.owed, Context.after, Context.start]

/-- A sequence that goes on pays, and so does the character on its own where none does. -/
theorem sequence_pays {c : Char} {context : Context} {sequence? : Option (Int × Context)}
    (goesOn : ∀ step, sequence? = some step → Pays context step) :
    Pays context (sequence?.getD (charWidth c, asFollowing c)) := by
  cases sequence? with
  | none => exact asFollowing_pays c context
  | some step => exact goesOn step rfl

theorem measureChar_pays (c : Char) (context : Context) :
    Pays context (measureChar c context) := by
  have alone {columns : Int} (nonneg : 0 ≤ columns) {next : Context} (free : next.owed = 0) :
      Pays context (columns, next) := .of_owed_le (by omega)
  -- One step for each test of the definition; only the last one can take columns back.
  unfold measureChar
  refine .ite (fun _ => ?ascii) fun _ => ?_
  case ascii =>
    refine .ite (fun _ => alone (by decide) rfl) fun _ => ?_
    exact .ite (fun _ => alone (by decide) rfl) fun _ => alone (by decide) rfl
  refine .ite (fun _ => asFollowing_pays c context) fun _ => ?_
  refine .ite (fun _ => .of_kept context.owed_selectEmoji_le) fun _ => ?_
  refine .ite (fun _ => .of_kept (context.owed_select_le _)) fun _ => ?_
  refine .ite (fun _ => .of_kept (context.owed_select_le _)) fun _ => ?_
  refine .ite (fun _ => alone (by decide) rfl) fun _ => ?_
  refine .ite (fun _ => alone (by decide) rfl) fun _ => ?_
  refine sequence_pays fun step sequence => ?_
  dsimp only [Context.unselected, Context.after] at sequence
  cases joins : context.following.join? with
  | none =>
      rw [joins] at sequence
      exact inSequence?_pays sequence
  | some joined =>
      rw [joins] at sequence
      dsimp only at sequence
      split at sequence
      · cases sequence
        exact .of_kept (Int.le_of_eq (Following.owed_of_join? joins))
      · split at sequence
        · cases sequence
          exact .of_kept (Int.le_refl _)
        · exact inSequence?_pays sequence

theorem measure_pays (c : Char) (context : Context) : Pays context (measure c context) := by
  unfold measure
  refine .ite (fun _ => ?_) fun _ => measureChar_pays c context
  refine .ite (fun _ => ?_) fun _ => ?_
  · have nonneg : (0 : Int) ≤ if context.following.isJoinedEmoji then 0 else 2 := by
      split <;> decide
    exact .of_owed_le nonneg
  · have pays := measureChar_pays c context.withoutEmoji
    have less := context.owed_withoutEmoji_le
    unfold Pays at pays ⊢
    omega

/-! ## A whole text -/

def addColumns (c : Char) (behind : Int × Context) : Int × Context :=
  (behind.1 + (measure c behind.2).1, (measure c behind.2).2)

def measured (text : List Char) : Int × Context := text.foldr addColumns (0, .start)

theorem measured_cons (c : Char) (text : List Char) :
    measured (c :: text) = addColumns c (measured text) := rfl

theorem width_eq (text : List Char) : width text = (measured text).1.toNat := rfl

theorem owed_le_measured (text : List Char) : (measured text).2.owed ≤ (measured text).1 := by
  induction text with
  | nil => exact Int.le_refl 0
  | cons c text ih =>
      have pays := measure_pays c (measured text).2
      change (measure c (measured text).2).2.owed ≤
        (measured text).1 + (measure c (measured text).2).1
      unfold Pays at pays
      omega

/-- No columns are taken back that were not counted. -/
theorem width_cast (text : List Char) : (width text : Int) = (measured text).1 := by
  have covered := owed_le_measured text
  have nonneg := (measured text).2.owed_nonneg
  rw [width_eq]
  omega

/-! ## Narrow characters -/

def IsNarrow (c : Char) : Prop := c.toNat ≤ 0xA0 ∧ c ≠ '\n'

theorem isNarrow_blank : IsNarrow ' ' := ⟨by decide, by decide⟩

theorem isNarrow_of_isDigit {c : Char} (digit : c.isDigit = true) : IsNarrow c := by
  simp only [Char.isDigit, Bool.and_eq_true, decide_eq_true_eq, ge_iff_le, UInt32.le_iff_toNat_le]
    at digit
  have atMost : c.toNat ≤ 57 := digit.2
  refine ⟨by omega, ?_⟩
  rintro rfl
  exact absurd digit.1 (by decide)

theorem measure_start {c : Char} (narrow : IsNarrow c) : measure c .start = (1, .start) := by
  have noBreak : (c = '\r' && Context.start.following = .lineFeed) = false := Bool.and_false _
  unfold measure measureChar
  rw [if_neg (by decide), if_pos narrow.1, if_neg narrow.2, noBreak]
  rfl

/-- A blank counts alone, whatever stands behind it. -/
theorem measure_blank (context : Context) : measure ' ' context = (1, .start) := by
  have alone (context : Context) : measureChar ' ' context = (1, .start) := rfl
  have noEmoji : emojiSelectable.has ' ' = false := by decide
  unfold measure
  rw [noEmoji, alone, alone]
  cases context.selectors.emoji <;> rfl

theorem foldr_narrow {front : List Char} (narrow : ∀ c ∈ front, IsNarrow c) (columns : Int) :
    front.foldr addColumns (columns, .start) = (columns + front.length, .start) := by
  induction front with
  | nil => simp
  | cons c front ih =>
      obtain ⟨here, later⟩ := List.forall_mem_cons.mp narrow
      rw [List.foldr_cons, ih later, addColumns, measure_start here, List.length_cons]
      congr 1
      omega

theorem width_narrow {text : List Char} (narrow : ∀ c ∈ text, IsNarrow c) :
    width text = text.length := by
  rw [width_eq, measured, foldr_narrow narrow]
  omega

theorem width_replicate {c : Char} (narrow : IsNarrow c) (count : Nat) :
    width (List.replicate count c) = count := by
  have all : ∀ d ∈ List.replicate count c, IsNarrow d := fun d member =>
    List.eq_of_mem_replicate member ▸ narrow
  rw [width_narrow all, List.length_replicate]

/-- The blank keeps what is in front of it out of the sequences behind it. -/
theorem width_narrow_append {front : List Char} (narrow : ∀ c ∈ front, IsNarrow c)
    (text : List Char) : width (front ++ ' ' :: text) = front.length + 1 + width text := by
  have blank : measured (' ' :: text) = ((width text : Int) + 1, .start) := by
    rw [measured_cons, addColumns, measure_blank, width_cast]
  rw [width_eq, measured, List.foldr_append, ← measured, blank, foldr_narrow narrow]
  omega

end InterfaceLint.Text
