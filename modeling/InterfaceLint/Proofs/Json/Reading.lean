import InterfaceLint.Json.Scalar
import InterfaceLint.Proofs.Json.Layout

/-!
# Reading scalars back

A reader that succeeds on a text is told by the value it gives and the text
it leaves, so that readers are put together without counting positions.
Words, printed strings and the digits of naturals are read back.
-/

set_option autoImplicit false

namespace InterfaceLint.Json

/-! ## Readers that succeed -/

namespace Reader

variable {α β : Type}

def Reads (reader : Reader α) (text : List Char) (value : α) (rest : List Char) : Prop :=
  ∀ position, ∃ after, reader ⟨text, position⟩ = .ok value ⟨rest, after⟩

theorem Reads.bind {first : Reader α} {next : α → Reader β} {text middle rest : List Char}
    {value : α} {result : β} (reads : first.Reads text value middle)
    (continues : (next value).Reads middle result rest) :
    (first >>= next).Reads text result rest := by
  intro position
  obtain ⟨between, taken⟩ := reads position
  obtain ⟨after, finished⟩ := continues between
  refine ⟨after, ?_⟩
  change EStateM.bind first next _ = _
  simp only [EStateM.bind, taken, finished]

theorem pure_reads (value : α) (text : List Char) :
    (pure value : Reader α).Reads text value text := fun position => ⟨position, rfl⟩

theorem Reads.map {reader : Reader α} {text rest : List Char} {value : α}
    (reads : reader.Reads text value rest) (convert : α → β) :
    (convert <$> reader).Reads text (convert value) rest := by
  intro position
  obtain ⟨after, taken⟩ := reads position
  refine ⟨after, ?_⟩
  change EStateM.map convert reader _ = _
  simp only [EStateM.map, taken]

theorem Reads.located {reader : Reader α} {text rest : List Char} {value : α}
    (reads : reader.Reads text value rest) : (Reader.located reader).Reads text value rest := by
  intro position
  obtain ⟨after, taken⟩ := reads position
  exact ⟨after, by simp [Reader.located, taken]⟩

theorem Reads.closing {reader : Reader α} {close : Reader Unit} {text middle rest : List Char}
    {value : α} (reads : reader.Reads text value middle) (closes : close.Reads middle () rest) :
    (Reader.closing reader close).Reads text value rest := by
  intro position
  obtain ⟨between, taken⟩ := reads position
  obtain ⟨after, closed⟩ := closes between
  exact ⟨after, by simp [Reader.closing, taken, closed]⟩

theorem ofExcept_reads (value : α) (text : List Char) :
    (ofExcept (.ok value)).Reads text value text := pure_reads value text

theorem peek_reads (text : List Char) : peek.Reads text text.head? text :=
  fun position => ⟨position, rfl⟩

theorem advance_reads (c : Char) (rest : List Char) : advance.Reads (c :: rest) () rest :=
  fun position => ⟨position.after c, rfl⟩

/-- Blanks are passed over up to the first other character. -/
theorem blanks_reads {gap rest : List Char} (blank : Blank gap)
    (solid : ∀ c, rest.head? = some c → isBlank c = false) :
    blanks.Reads (gap ++ rest) () rest := by
  induction gap with
  | nil =>
      intro position
      refine ⟨position, ?_⟩
      cases rest with
      | nil => rfl
      | cons c rest => simp [blanks, Cursor.skipBlanks, solid c rfl]
  | cons c gap induction =>
      intro position
      have ⟨here, later⟩ := List.forall_mem_cons.mp blank
      obtain ⟨after, passed⟩ := induction later (position.after c)
      refine ⟨after, ?_⟩
      simpa [blanks, Cursor.skipBlanks, here] using passed

theorem peekToken_reads {gap rest : List Char} (blank : Blank gap)
    (solid : ∀ c, rest.head? = some c → isBlank c = false) :
    peekToken.Reads (gap ++ rest) rest.head? rest :=
  (blanks_reads blank solid).bind (peek_reads rest)

theorem Reads.token {next : Option Char → Reader α} {gap text rest : List Char} {c : Char}
    {value : α} (blank : Blank gap) (solid : isBlank c = false)
    (continues : (next (some c)).Reads (c :: text) value rest) :
    (peekToken >>= next).Reads (gap ++ c :: text) value rest := by
  refine (peekToken_reads blank ?_).bind continues
  intro first same
  cases same
  exact solid

end Reader

open Reader

theorem readLetters_reads (letters rest : List Char) :
    (readLetters letters).Reads (letters ++ rest) () rest := by
  induction letters with
  | nil => exact pure_reads () rest
  | cons letter letters induction =>
      refine (peek_reads _).bind ?_
      simpa using (advance_reads letter _).bind induction

/-! ## Strings -/

theorem hexCode?_control {c : Char} (control : c < ' ') :
    hexCode? '0' '0' (Text.hexDigit (c.toNat / 16)) (Text.hexDigit c.toNat) = some c.toNat := by
  have below : c.toNat < 32 := control
  have each : ∀ code < 32, hexCode? '0' '0' (Text.hexDigit (code / 16)) (Text.hexDigit code) =
      some code := by decide
  exact each _ below

theorem scanString_printChar (taken : List Char) (c : Char) (rest : List Char)
    (position : Position) :
    ∃ after, scanString taken ((printChar c).toList ++ rest) position =
      scanString (c :: taken) rest after := by
  unfold printChar
  by_cases quote : c = '"'
  · subst quote
    exact ⟨_, by simp [scanString, escaped?]; rfl⟩
  by_cases backslash : c = '\\'
  · subst backslash
    exact ⟨_, by simp [scanString, escaped?]; rfl⟩
  by_cases backspace : c = '\x08'
  · subst backspace
    exact ⟨_, by simp [scanString, escaped?]; rfl⟩
  by_cases formFeed : c = '\x0c'
  · subst formFeed
    exact ⟨_, by simp [scanString, escaped?]; rfl⟩
  by_cases newLine : c = '\n'
  · subst newLine
    exact ⟨_, by simp [scanString, escaped?]; rfl⟩
  by_cases carriageReturn : c = '\r'
  · subst carriageReturn
    exact ⟨_, by simp [scanString, escaped?]; rfl⟩
  by_cases tab : c = '\t'
  · subst tab
    exact ⟨_, by simp [scanString, escaped?]; rfl⟩
  simp only [quote, backslash, backspace, formFeed, newLine, carriageReturn, tab, if_false]
  by_cases control : c < ' '
  · have below : c.toNat < 32 := control
    have notTrailing : isTrailingSurrogate c.toNat = false := by
      simp [isTrailingSurrogate]
      omega
    have notLeading : isLeadingSurrogate c.toNat = false := by
      simp [isLeadingSurrogate]
      omega
    exact ⟨_, by simp [control, scanString, hexCode?_control control, notTrailing, notLeading]; rfl⟩
  · refine ⟨position.after c, ?_⟩
    rw [if_neg control, Char.toString, String.toList_singleton, List.singleton_append,
      scanString.eq_def]
    simp [quote, backslash, control]

theorem scanString_printed (content rest : List Char) :
    ∀ (taken : List Char) (position : Position), ∃ after,
      scanString taken (content.flatMap (fun c => (printChar c).toList) ++ '"' :: rest) position =
        .ok (String.ofList (taken.reverse ++ content)) ⟨rest, after⟩ := by
  induction content with
  | nil =>
      intro taken position
      refine ⟨position.after '"', ?_⟩
      rw [List.flatMap_nil, List.nil_append, scanString.eq_def]
      simp
  | cons c content induction =>
      intro taken position
      obtain ⟨between, step⟩ := scanString_printChar taken c
        (content.flatMap (fun c => (printChar c).toList) ++ '"' :: rest) position
      obtain ⟨after, finished⟩ := induction (c :: taken) between
      refine ⟨after, ?_⟩
      rw [List.flatMap_cons, List.append_assoc, step, finished]
      simp

/-- A printed string is read back after its opening quote. -/
theorem readString_reads (content : String) (rest : List Char) :
    readString.Reads (stringTail content ++ rest) content rest := by
  intro position
  obtain ⟨after, finished⟩ := scanString_printed content.toList rest [] position
  exact ⟨after, by simpa [readString, stringTail] using finished⟩

/-! ## Numbers -/

def Follows (rest : List Char) : Prop :=
  ∀ c, rest.head? = some c → isBlank c = true ∨ c = ',' ∨ c = ']' ∨ c = '\x7d'

theorem Follows.mem_head {rest : List Char} (follows : Follows rest) {c : Char}
    (first : rest.head? = some c) : c ∈ [' ', '\n', '\t', '\r', ',', ']', '\x7d'] := by
  rcases follows c first with blank | rfl | rfl | rfl
  · simp only [isBlank, Bool.or_eq_true, beq_iff_eq] at blank
    rcases blank with ((rfl | rfl) | rfl) | rfl <;> decide
  · decide
  · decide
  · decide

theorem Follows.noDigit {rest : List Char} (follows : Follows rest) {c : Char}
    (first : rest.head? = some c) : isDigit c = false := by
  have each : ∀ c ∈ [' ', '\n', '\t', '\r', ',', ']', '\x7d'], isDigit c = false := by
    simp [isDigit]
  exact each c (follows.mem_head first)

theorem isDigit_of_mem_toDigits {number : Nat} {c : Char} (member : c ∈ Nat.toDigits 10 number) :
    isDigit c = true := by
  have digit : c.isDigit = true := Nat.isDigit_of_mem_toDigits (by decide) (by decide) member
  exact digit

theorem exists_toDigits_cons (number : Nat) :
    ∃ c others, Nat.toDigits 10 number = c :: others ∧ isDigit c = true := by
  obtain ⟨c, others, digits⟩ := List.exists_cons_of_ne_nil
    (Nat.toDigits_ne_nil : Nat.toDigits 10 number ≠ [])
  exact ⟨c, others, digits, isDigit_of_mem_toDigits (by rw [digits]; simp)⟩

theorem readDigits_reads {number : Nat} {rest : List Char} (follows : Follows rest) :
    readDigits.Reads (Nat.toDigits 10 number ++ rest)
      ((Nat.toDigits 10 number).map fun c => c.toNat - '0'.toNat) rest := by
  intro position
  have digits : ∀ c ∈ Nat.toDigits 10 number, isDigit c = true := fun c member =>
    isDigit_of_mem_toDigits member
  have stops : rest.takeWhile isDigit = [] ∧ rest.dropWhile isDigit = rest := by
    cases rest with
    | nil => simp
    | cons c rest => simp [follows.noDigit rfl]
  refine ⟨position.plus (Nat.toDigits 10 number).length, ?_⟩
  simp only [readDigits, List.takeWhile_append_of_pos digits, List.dropWhile_append_of_pos digits,
    stops, List.append_nil]

/-- Digits of a number within the limit are all taken. -/
theorem appendDigits_eq {limit : Nat} : ∀ {digits : List Nat} {number : Nat},
    digits.foldl (fun number digit => number * 10 + digit) number ≤ limit →
      appendDigits limit number digits =
        (digits.foldl (fun number digit => number * 10 + digit) number, []) := by
  intro digits
  induction digits with
  | nil => intro number _; rfl
  | cons digit digits induction =>
      intro number within
      rw [List.foldl_cons] at within ⊢
      -- The number only grows, so what fits at the end fits after each digit.
      have grows : ∀ (digits : List Nat) (start : Nat),
          start ≤ digits.foldl (fun number digit => number * 10 + digit) start := by
        intro digits
        induction digits with
        | nil => intro start; exact Nat.le_refl _
        | cons digit digits induction =>
            intro start
            have later := induction (start * 10 + digit)
            rw [List.foldl_cons]
            omega
      have fits := (grows digits (number * 10 + digit)).trans within
      rw [appendDigits, if_pos fits]
      exact induction within

theorem foldl_digits (number : Nat) :
    ((Nat.toDigits 10 number).map fun c => c.toNat - '0'.toNat).foldl
      (fun number digit => number * 10 + digit) 0 = number := by
  have value : Nat.ofDigitChars 10 (Nat.toDigits 10 number) 0 = number :=
    Nat.ofDigitChars_toDigits (by decide) (by decide)
  rw [Nat.ofDigitChars_eq_foldl] at value
  rw [List.foldl_map]
  simpa [Nat.mul_comm] using value

/-- Only zero starts with the digit zero. -/
theorem head?_toDigits_ne_zero (number : Nat) (positive : 0 < number) :
    (Nat.toDigits 10 number).head? ≠ some '0' := by
  induction number using Nat.strongRecOn with
  | ind number induction =>
      rw [Nat.toDigits_eq_if (by decide)]
      split
      · rename_i small
        have each : ∀ digit < 10, 0 < digit → [Nat.digitChar digit].head? ≠ some '0' := by decide
        exact each number small positive
      · have earlier := induction (number / 10) (by omega) (by omega)
        rwa [List.head?_append_of_ne_nil _ Nat.toDigits_ne_nil]

theorem readAfterDigits_reads (count : UInt64) {digits : List Nat}
    (spelled : digits.foldl (fun number digit => number * 10 + digit) 0 = count.toNat)
    {rest : List Char} (follows : Follows rest) :
    (readAfterDigits false digits).Reads rest (.natural count) rest := by
  have within : count.toNat ≤ greatestNatural := by
    have below := count.toNat_lt
    have limit : greatestNatural = 2 ^ 64 - 1 := rfl
    omega
  have taken := appendDigits_eq (spelled.trans_le within)
  rw [spelled] at taken
  have notMark : ∀ c, rest.head? = some c → c ≠ '.' ∧ c ≠ 'e' ∧ c ≠ 'E' := by
    have each : ∀ c ∈ [' ', '\n', '\t', '\r', ',', ']', '\x7d'], c ≠ '.' ∧ c ≠ 'e' ∧ c ≠ 'E' := by
      simp
    exact fun c first => each c (follows.mem_head first)
  rw [readAfterDigits, taken]
  refine (peek_reads rest).bind ?_
  split
  · rename_i point
    exact absurd rfl (notMark _ point).1
  · rename_i mark
    exact absurd rfl (notMark _ mark).2.1
  · rename_i mark
    exact absurd rfl (notMark _ mark).2.2
  · have whole : wholeNumber false count.toNat = pure (.natural count) := by
      simp [wholeNumber]
    simpa [whole] using pure_reads (Number.natural count) rest

/-- The digits of a natural number are read back. -/
theorem readNumber_reads (count : UInt64) {rest : List Char} (follows : Follows rest) :
    (readNumber false).Reads (Nat.toDigits 10 count.toNat ++ rest) (.natural count) rest := by
  refine (peek_reads _).bind ?_
  -- The reader takes a leading zero alone, so zero goes a way of its own.
  by_cases zero : count.toNat = 0
  · have digits : Nat.toDigits 10 count.toNat = ['0'] := by rw [zero]; rfl
    rw [digits]
    have after : (readAfterDigits false [0]).Reads rest (.natural count) rest :=
      readAfterDigits_reads count (by simpa using zero.symm) follows
    refine (advance_reads '0' rest).bind ((peek_reads rest).bind ?_)
    cases first : rest.head? with
    | none => exact after
    | some c => simpa [follows.noDigit first] using after
  · obtain ⟨c, others, digits, digit⟩ := exists_toDigits_cons count.toNat
    have notZero : c ≠ '0' := by
      have first := head?_toDigits_ne_zero count.toNat (by omega)
      rintro rfl
      exact first (by rw [digits]; rfl)
    have reads := (readDigits_reads follows).bind
      (readAfterDigits_reads count (foldl_digits count.toNat) follows)
    simpa [digits, notZero, digit] using reads

end InterfaceLint.Json
