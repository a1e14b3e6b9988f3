import InterfaceLint.Json.Container
import InterfaceLint.Proofs.Json.Reading
import Mathlib.Data.List.Forall2

/-!
# Reading containers back

Elements and members are read one after the other from every layout of a list
or an object.  The loops over members all go the same way: one step for each
member, then the end; what differs is the state they carry.
-/

set_option autoImplicit false

namespace InterfaceLint.Json

open Reader

/-! ## Elements and members -/

/-- The first character of a value is no blank and closes nothing. -/
structure Opens (c : Char) : Prop where
  solid : isBlank c = false
  notClosing : c ≠ ']' ∧ c ≠ '\x7d'

theorem opens_of_isDigit {c : Char} (digit : isDigit c = true) : Opens c := by
  constructor
  · by_contra blank
    simp only [Bool.not_eq_false, isBlank, Bool.or_eq_true, beq_iff_eq] at blank
    rcases blank with ((rfl | rfl) | rfl) | rfl <;> simp [isDigit] at digit
  · constructor <;> (rintro rfl; simp [isDigit] at digit)

theorem Written.opens {value : Value} {text : List Char} (written : Written value text) :
    ∃ c others, text = c :: others ∧ Opens c := by
  cases written with
  | null => exact ⟨_, _, rfl, by decide, by decide⟩
  | yes => exact ⟨_, _, rfl, by decide, by decide⟩
  | no => exact ⟨_, _, rfl, by decide, by decide⟩
  | natural count =>
      obtain ⟨c, others, digits, digit⟩ := exists_toDigits_cons count.toNat
      exact ⟨c, others, digits, opens_of_isDigit digit⟩
  | text content => exact ⟨_, _, printString_toList content, by decide, by decide⟩
  | emptyList blank => exact ⟨_, _, rfl, by decide, by decide⟩
  | list elements => exact ⟨_, _, rfl, by decide, by decide⟩
  | emptyObject blank => exact ⟨_, _, rfl, by decide, by decide⟩
  | object elements => exact ⟨_, _, rfl, by decide, by decide⟩

theorem Written.eq_null {value : Value} {others : List Char}
    (written : Written value ('n' :: others)) : value = .null := by
  generalize shape : 'n' :: others = text at written
  cases written with
  | null => rfl
  | natural count =>
      obtain ⟨c, _, digits, digit⟩ := exists_toDigits_cons count.toNat
      rw [digits] at shape
      cases shape
      simp [isDigit] at digit
  | text content =>
      rw [printString_toList] at shape
      cases shape
  | yes => cases shape
  | no => cases shape
  | emptyList blank => cases shape
  | list elements => cases shape
  | emptyObject blank => cases shape
  | object elements => cases shape

/-- What stands in front of the first element, and of each further one. -/
inductive Announces : Bool → List Char → Prop
  | first : Announces true []
  | further {gap : List Char} (blank : Blank gap) : Announces false (gap ++ [','])

namespace Reader

variable {α : Type}

theorem nextElement_reads {first : Bool} {lead gap others : List Char} {c : Char}
    (announces : Announces first lead) (blank : Blank gap) (opens : Opens c) :
    (nextElement first).Reads (lead ++ (gap ++ c :: others)) true (c :: others) := by
  have notClosing := opens.notClosing.1
  cases announces with
  | first =>
      refine Reads.token blank opens.solid ?_
      simpa [notClosing] using pure_reads true (c :: others)
  | further leadBlank =>
      rw [List.append_assoc]
      refine Reads.token leadBlank (by decide) ?_
      refine (advance_reads ',' _).bind (Reads.token blank opens.solid ?_)
      simpa [notClosing] using pure_reads true (c :: others)

theorem nextElement_end {gap : List Char} (blank : Blank gap) (first : Bool) (rest : List Char) :
    (nextElement first).Reads (gap ++ ']' :: rest) false (']' :: rest) :=
  Reads.token blank (by decide) (pure_reads false _)

theorem enclosed_reads {content : Reader α} {close : Reader Unit} {opening closing : Char}
    {body rest : List Char} {value : α}
    (reads : content.Reads (body ++ closing :: rest) value (closing :: rest))
    (closes : close.Reads (closing :: rest) () rest) :
    (enclosed content close).Reads (opening :: (body ++ [closing]) ++ rest) value rest := by
  have shape : opening :: (body ++ [closing]) ++ rest = opening :: (body ++ closing :: rest) := by
    simp
  rw [shape]
  exact (advance_reads _ _).bind (reads.closing closes).located

theorem endList_reads (rest : List Char) : endList.Reads (']' :: rest) () rest :=
  Reads.token Blank.nil (by decide) (advance_reads ']' rest)

theorem keyHere_reads (key : String) (rest : List Char) :
    keyHere.Reads ((printString key).toList ++ rest) (some key) rest := by
  rw [printString_toList]
  refine (peek_reads _).bind ?_
  exact (advance_reads '"' _).bind ((readString_reads key rest).map some)

theorem nextKey_reads {first : Bool} {lead gap : List Char} (announces : Announces first lead)
    (blank : Blank gap) (key : String) (rest : List Char) :
    (nextKey first).Reads (lead ++ (gap ++ ((printString key).toList ++ rest))) (some key)
      rest := by
  have reads := keyHere_reads key rest
  rw [printString_toList] at reads ⊢
  cases announces with
  | first => exact Reads.token blank (by decide) reads
  | further leadBlank =>
      rw [List.append_assoc]
      refine Reads.token leadBlank (by decide) ?_
      exact (advance_reads ',' _).bind (Reads.token blank (by decide) reads)

theorem nextKey_end {gap : List Char} (blank : Blank gap) (first : Bool) (rest : List Char) :
    (nextKey first).Reads (gap ++ '\x7d' :: rest) none ('\x7d' :: rest) :=
  Reads.token blank (by decide) (pure_reads none _)

theorem endObject_reads (rest : List Char) : endObject.Reads ('\x7d' :: rest) () rest :=
  Reads.token Blank.nil (by decide) (advance_reads '\x7d' rest)

theorem colon_reads {gap : List Char} (blank : Blank gap) (rest : List Char) :
    colon.Reads (gap ++ ':' :: rest) () rest :=
  Reads.token blank (by decide) (advance_reads ':' rest)

/-- From every layout of the written value, up to a size, the reader takes the
value. -/
def Takes (reader : Reader α) (limit : Nat) (written : Value) (value : α) : Prop :=
  ∀ {gap text rest : List Char}, Blank gap → Written written text → text.length ≤ limit →
    Follows rest → reader.Reads (gap ++ (text ++ rest)) value rest

end Reader

theorem follows_append {gap rest : List Char} (blank : Blank gap) (follows : Follows rest) :
    Follows (gap ++ rest) := by
  cases gap with
  | nil => exact follows
  | cons c gap =>
      intro first same
      cases same
      exact .inl (blank c List.mem_cons_self)

theorem follows_comma (rest : List Char) : Follows (',' :: rest) := by simp [Follows]

theorem follows_closing {c : Char} (closing : c = ']' ∨ c = '\x7d') (rest : List Char) :
    Follows (c :: rest) := by
  rcases closing with rfl | rfl <;> simp [Follows]

namespace Reader

variable {α : Type}

theorem elements_step {readOne : Reader α} {limit steps : Nat} {first : Bool} {item : Value}
    {value : α} {taken result : List α} {lead before body more rest : List Char}
    (takes : readOne.Takes limit item value) (announces : Announces first lead)
    (blank : Blank before) (written : Written item body) (size : body.length ≤ limit)
    (follows : Follows more)
    (continues : (elements readOne steps false (value :: taken)).Reads more result rest) :
    (elements readOne (steps + 1) first taken).Reads (lead ++ (before ++ (body ++ more)))
      result rest := by
  have one := takes Blank.nil written size follows
  obtain ⟨c, others, rfl, opens⟩ := written.opens
  refine (nextElement_reads announces blank opens).bind ?_
  exact one.bind continues

theorem elements_end {readOne : Reader α} {gap : List Char} (blank : Blank gap) (steps : Nat)
    (first : Bool) (taken : List α) (rest : List Char) :
    (elements readOne (steps + 1) first taken).Reads (gap ++ ']' :: rest) taken.reverse
      (']' :: rest) :=
  (nextElement_end blank first rest).bind (pure_reads taken.reverse _)

/-- The elements of a list are read one after the other, up to the bracket. -/
theorem elements_reads {readOne : Reader α} {limit : Nat} {items : List Value} {values : List α}
    (each : List.Forall₂ (readOne.Takes limit) items values) :
    ∀ {body : List Char}, WrittenItems items body → body.length ≤ limit →
      ∀ {steps : Nat} {first : Bool} {lead : List Char} (taken : List α) (rest : List Char),
        items.length < steps → Announces first lead →
          (elements readOne steps first taken).Reads (lead ++ (body ++ ']' :: rest))
            (taken.reverse ++ values) (']' :: rest) := by
  -- The induction is on the elements; what announces the next one changes after the first.
  induction each with
  | nil => intro body written; cases written
  | @cons item value items values takes each induction =>
      intro body written size steps first lead taken rest enough announces
      have closing : Follows (']' :: rest) := follows_closing (.inl rfl) rest
      cases steps with
      | zero => omega
      | succ steps =>
          simp only [List.length_cons] at enough
          cases written with
          | single blankBefore written blankAfter =>
              cases each
              simp only [List.length_append] at size
              rw [List.append_assoc, List.append_assoc]
              refine elements_step takes announces blankBefore written (by omega)
                (follows_append blankAfter closing) ?_
              obtain ⟨steps, rfl⟩ := Nat.exists_eq_succ_of_ne_zero (by omega : steps ≠ 0)
              simpa using elements_end blankAfter steps false (value :: taken) rest
          | @cons _ _ _ _ after others blankBefore written blankAfter elements =>
              simp only [List.length_append, List.length_cons] at size
              have continues := induction elements (by omega) (value :: taken) rest
                (by omega : items.length < steps) (.further blankAfter)
              simp only [List.append_assoc, List.cons_append]
              refine elements_step takes announces blankBefore written (by omega)
                (follows_append blankAfter (follows_comma _)) ?_
              simpa using continues

end Reader

/-! ## Loops over members -/

section Loops

variable {σ β : Type}

/-- One member of an object, in any layout, takes the loop to the next state. -/
def StepsTo (loop : Nat → Bool → σ → Reader β) (limit : Nat) (state : σ) (key : String)
    (content : Value) (next : σ) : Prop :=
  ∀ {steps : Nat} {first : Bool} {lead before front back body more rest : List Char} {result : β},
    Announces first lead → Blank before → Blank front → Blank back → Written content body →
      body.length ≤ limit → Follows more → (loop steps false next).Reads more result rest →
        (loop (steps + 1) first state).Reads
          (lead ++ (before ++ ((printString key).toList ++
            (front ++ ':' :: (back ++ (body ++ more)))))) result rest

def EndsWith (loop : Nat → Bool → σ → Reader β) (state : σ) (result : β) : Prop :=
  ∀ {steps : Nat} {first : Bool} {gap : List Char} (rest : List Char), Blank gap →
    (loop (steps + 1) first state).Reads (gap ++ '\x7d' :: rest) result ('\x7d' :: rest)

/-- The members take the loop from the state to its end with the result. -/
inductive RunsThrough (loop : Nat → Bool → σ → Reader β) (limit : Nat) :
    σ → List (String × Value) → β → Prop
  | done {state : σ} {result : β} (ends : EndsWith loop state result) :
      RunsThrough loop limit state [] result
  | step {state next : σ} {key : String} {content : Value} {members : List (String × Value)}
      {result : β} (steps : StepsTo loop limit state key content next)
      (runs : RunsThrough loop limit next members result) :
      RunsThrough loop limit state ((key, content) :: members) result

variable {loop : Nat → Bool → σ → Reader β} {limit : Nat} {state : σ}
  {members : List (String × Value)} {result : β}

theorem RunsThrough.reads (runs : RunsThrough loop limit state members result) :
    ∀ {body : List Char}, WrittenMembers members body → body.length ≤ limit →
      ∀ {steps : Nat} {first : Bool} {lead : List Char} (rest : List Char),
        members.length < steps → Announces first lead →
          (loop steps first state).Reads (lead ++ (body ++ '\x7d' :: rest)) result
            ('\x7d' :: rest) := by
  induction runs with
  | done ends => intro body written; cases written
  | @step state next key content members result stepsTo runs induction =>
      intro body written size steps first lead rest enough announces
      have closing : Follows ('\x7d' :: rest) := follows_closing (.inr rfl) rest
      cases steps with
      | zero => omega
      | succ steps =>
          simp only [List.length_cons] at enough
          cases written with
          | single blankBefore blankFront blankBack written blankAfter =>
              cases runs with
              | done ends =>
                  simp only [List.length_append, List.length_cons] at size
                  simp only [List.append_assoc, List.cons_append]
                  refine stepsTo announces blankBefore blankFront blankBack written (by omega)
                    (follows_append blankAfter closing) ?_
                  obtain ⟨steps, rfl⟩ := Nat.exists_eq_succ_of_ne_zero (by omega : steps ≠ 0)
                  exact ends rest blankAfter
          | cons blankBefore blankFront blankBack written blankAfter elements =>
              simp only [List.length_append, List.length_cons] at size
              have continues := induction elements (by omega) rest
                (by omega : members.length < steps) (.further blankAfter)
              simp only [List.append_assoc, List.cons_append]
              refine stepsTo announces blankBefore blankFront blankBack written (by omega)
                (follows_append blankAfter (follows_comma _)) ?_
              simpa using continues

/-- A loop that runs through the members reads what an object encloses. -/
theorem RunsThrough.content (runs : RunsThrough loop limit state members result)
    {text : List Char} (written : Written (.object members) text) (size : text.length ≤ limit)
    {steps : Nat} (enough : limit < steps) :
    ∃ body, text = '\x7b' :: (body ++ ['\x7d']) ∧
      ∀ rest, (loop steps true state).Reads (body ++ '\x7d' :: rest) result ('\x7d' :: rest) := by
  cases written with
  | emptyObject blank =>
      cases runs with
      | done ends =>
          obtain ⟨steps, rfl⟩ := Nat.exists_eq_succ_of_ne_zero (by omega : steps ≠ 0)
          exact ⟨_, rfl, fun rest => ends rest blank⟩
  | object elements =>
      have counted := elements.length_le
      simp only [List.length_cons, List.length_append] at size
      exact ⟨_, rfl, fun rest => runs.reads elements (by omega) rest (by omega) .first⟩

end Loops

namespace Reader

variable {α : Type}

theorem members_stepsTo {readOne : Reader α} {limit : Nat} {key : String} {content : Value}
    {value : α} (takes : readOne.Takes limit content value) (taken : List (String × α)) :
    StepsTo (members readOne) limit taken key content ((key, value) :: taken) := by
  intro steps first lead before front back body more rest result announces blankBefore blankFront
    blankBack written size follows continues
  refine (nextKey_reads announces blankBefore key _).bind ?_
  refine (colon_reads blankFront _).bind ?_
  exact (takes blankBack written size follows).bind continues

def TakesMember (reader : Reader α) (limit : Nat) (written : String × Value)
    (member : String × α) : Prop :=
  written.1 = member.1 ∧ reader.Takes limit written.2 member.2

theorem members_runsThrough {readOne : Reader α} {limit : Nat} {contents : List (String × Value)}
    {values : List (String × α)}
    (each : List.Forall₂ (readOne.TakesMember limit) contents values) :
    ∀ taken, RunsThrough (members readOne) limit taken contents (taken.reverse ++ values) := by
  induction each with
  | nil =>
      intro taken
      refine .done fun rest blank => (nextKey_end blank _ rest).bind ?_
      simpa using pure_reads taken.reverse ('\x7d' :: rest)
  | @cons content value contents values here each induction =>
      intro taken
      obtain ⟨key, content⟩ := content
      obtain ⟨sameKey, value⟩ := value
      obtain ⟨rfl, takes⟩ := here
      refine .step (members_stepsTo takes taken) ?_
      simpa using induction ((key, value) :: taken)

/-- The elements of a list are read from what it encloses. -/
theorem elements_content {readOne : Reader α} {limit : Nat} {items : List Value}
    {values : List α} (each : List.Forall₂ (readOne.Takes limit) items values) {text : List Char}
    (written : Written (.list items) text) (size : text.length ≤ limit) {steps : Nat}
    (enough : limit < steps) :
    ∃ body, text = '[' :: (body ++ [']']) ∧
      ∀ rest, (elements readOne steps true []).Reads (body ++ ']' :: rest) values
        (']' :: rest) := by
  cases written with
  | emptyList blank =>
      cases each
      obtain ⟨steps, rfl⟩ := Nat.exists_eq_succ_of_ne_zero (by omega : steps ≠ 0)
      exact ⟨_, rfl, fun rest => elements_end blank steps true [] rest⟩
  | list elements =>
      have counted := elements.length_le
      simp only [List.length_cons, List.length_append] at size
      exact ⟨_, rfl, fun rest =>
        elements_reads each elements (by omega) [] rest (by omega) .first⟩

end Reader

/-! ## Any value -/

section Scalars

variable {onList onObject : Reader Value} {limit : Nat}

theorem readScalarOr_null : (readScalarOr onList onObject).Takes limit .null .null := by
  intro gap text rest blank written _ _
  cases written
  refine Reads.token blank (by decide) ?_
  exact (advance_reads 'n' _).bind ((readLetters_reads _ rest).bind (pure_reads _ rest))

theorem readScalarOr_bool (flag : Bool) :
    (readScalarOr onList onObject).Takes limit (.bool flag) (.bool flag) := by
  intro gap text rest blank written _ _
  cases written with
  | yes =>
      refine Reads.token blank (by decide) ?_
      exact (advance_reads 't' _).bind ((readLetters_reads _ rest).bind (pure_reads _ rest))
  | no =>
      refine Reads.token blank (by decide) ?_
      exact (advance_reads 'f' _).bind ((readLetters_reads _ rest).bind (pure_reads _ rest))

theorem readScalarOr_text (content : String) :
    (readScalarOr onList onObject).Takes limit (.text content) (.text content) := by
  intro gap text rest blank written _ _
  cases written
  rw [printString_toList]
  refine Reads.token blank (by decide) ?_
  exact (advance_reads '"' _).bind ((readString_reads content rest).map Value.text)

theorem readScalarOr_natural (count : UInt64) :
    (readScalarOr onList onObject).Takes limit (.number (.natural count))
      (.number (.natural count)) := by
  intro gap text rest blank written _ follows
  cases written
  have reads := (readNumber_reads count follows).map Value.number
  obtain ⟨c, others, digits, digit⟩ := exists_toDigits_cons count.toNat
  have ne : ∀ other, isDigit other = false → c ≠ other := by
    rintro other notDigit rfl
    simp [digit] at notDigit
  rw [digits] at reads ⊢
  refine Reads.token blank (opens_of_isDigit digit).solid ?_
  simpa [ne 'n' rfl, ne 't' rfl, ne 'f' rfl, ne '-' rfl, digit] using reads

end Scalars

/-- Every exportable value is read back from each of its layouts. -/
theorem readValue_takes {levels : Nat} {value : Value} (exportable : Exportable levels value)
    {limit steps : Nat} (enough : limit < steps) :
    (readValue steps levels).Takes limit value value := by
  induction exportable with
  | @null levels => cases levels <;> exact readScalarOr_null
  | @bool levels flag => cases levels <;> exact readScalarOr_bool flag
  | @natural levels count => cases levels <;> exact readScalarOr_natural count
  | @text levels content => cases levels <;> exact readScalarOr_text content
  | list each induction =>
      intro gap text rest blank written size _
      have same := List.forall₂_same.mpr induction
      obtain ⟨body, rfl, reads⟩ := elements_content same written size enough
      exact Reads.token blank (by decide)
        (enclosed_reads ((reads rest).map Value.list) (endList_reads rest))
  | object each induction =>
      intro gap text rest blank written size _
      have same : List.Forall₂ (TakesMember (readValue steps _) limit) _ _ :=
        List.forall₂_same.mpr fun member listed => ⟨rfl, induction member listed⟩
      obtain ⟨body, rfl, reads⟩ := (members_runsThrough same []).content written size enough
      exact Reads.token blank (by decide)
        (enclosed_reads ((reads rest).map Value.object) (endObject_reads rest))

end InterfaceLint.Json
