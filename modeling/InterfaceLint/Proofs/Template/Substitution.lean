import InterfaceLint.Proofs.Finding.Ties
import Mathlib.Data.List.Basic

/-!
# Templates are filled at once

Arguments are filled in one after the other, each over the whole text made so
far.  As a placeholder is known by its opening brace, nothing is found in an
argument without one, nor across the end of a piece.  So the outcome is that of
filling all placeholders at the same time, and only the last argument may have
braces of its own.
-/

set_option autoImplicit false

namespace InterfaceLint

namespace Template

/-! ## Pieces of a template -/

/-- A template is put together from texts without an opening brace and from
placeholders. -/
inductive Piece where
  | literal (text : String) (plain : '\x7b' ∉ text.toList)
  | slot (index : Nat)

namespace Piece

def text : Piece → String
  | .literal text _ => text
  | .slot index => "\x7b" ++ toString index ++ "\x7d"

/-- The piece with its argument in place; a placeholder that has none is left as
it is. -/
def filled (arguments : List String) : Piece → String
  | .literal text _ => text
  | .slot index => arguments[index]?.getD (slot index).text

def replaced (index : Nat) (value : String) : Piece → String
  | .literal text _ => text
  | .slot other => if other = index then value else (slot other).text

/-- The text takes the place of the placeholder for good. -/
def fix (index : Nat) (value : String) (plain : '\x7b' ∉ value.toList) : Piece → Piece
  | .literal text textPlain => .literal text textPlain
  | .slot other => if other = index then .literal value plain else .slot other

theorem text_fix (index : Nat) {value : String} (plain : '\x7b' ∉ value.toList) :
    text ∘ fix index value plain = replaced index value := by
  funext piece
  cases piece with
  | literal text textPlain => rfl
  | slot other =>
      rw [Function.comp_apply, fix, replaced]
      split <;> rfl

theorem text_slot (index : Nat) : (slot index).text.toList = placeholder index := by
  simp [text, placeholder]

end Piece

def ofPieces (pieces : List Piece) : String := String.join (pieces.map Piece.text)

/-! ## Placeholders -/

theorem not_mem_toDigits {c : Char} (notDigit : c.isDigit = false) (number : Nat) :
    c ∉ Nat.toDigits 10 number := by
  intro member
  have digit := Nat.isDigit_of_mem_toDigits (by decide) (by decide) member
  rw [notDigit] at digit
  cases digit

theorem toDigits_injective {left right : Nat}
    (same : Nat.toDigits 10 left = Nat.toDigits 10 right) : left = right := by
  have read := congrArg (fun digits => Nat.ofDigitChars 10 digits 0) same
  simpa [Nat.ofDigitChars_toDigits] using read

/-- Behind an opening brace there is the placeholder of one position at most, as
the closing brace is no digit. -/
theorem placeholder_isPrefix_iff {index other : Nat} {rest : List Char} :
    placeholder index <+: placeholder other ++ rest ↔ index = other := by
  constructor
  · rintro ⟨back, whole⟩
    simp only [placeholder, List.cons_append, List.append_assoc, List.nil_append,
      List.cons.injEq, true_and] at whole
    have digits (number : Nat) (rest : List Char) :
        (Nat.toDigits 10 number ++ '\x7d' :: rest).takeWhile (· ≠ '\x7d') =
          Nat.toDigits 10 number := by
      rw [List.takeWhile_append_of_pos]
      · simp
      · intro c member
        rw [decide_eq_true_eq]
        rintro rfl
        exact not_mem_toDigits rfl number member
    have same := congrArg (List.takeWhile (· ≠ '\x7d')) whole
    rw [digits, digits] at same
    exact toDigits_injective same
  · rintro rfl
    exact List.prefix_append _ _

/-! ## Replacing one placeholder -/

section

variable {index : Nat} {value : List Char}

/-- Text without an opening brace is passed over. -/
theorem replaceFrom_plain {text : List Char} (plain : '\x7b' ∉ text) (rest : List Char) :
    replaceFrom (placeholder index) value 0 (text ++ rest) =
      text ++ replaceFrom (placeholder index) value 0 rest := by
  induction text with
  | nil => rfl
  | cons c text induction =>
      rw [List.mem_cons, not_or] at plain
      have absent : (placeholder index).isPrefixOf (c :: (text ++ rest)) = false := by
        rw [Bool.eq_false_iff, ne_eq, List.isPrefixOf_iff_prefix, placeholder, List.cons_append,
          List.cons_prefix_cons]
        exact fun start => plain.1 start.1
      rw [List.cons_append, replaceFrom, absent, if_neg Bool.false_ne_true, induction plain.2,
        List.cons_append]

/-- The rest of an occurrence is passed over without a trace. -/
theorem replaceFrom_length (needle : List Char) (text rest : List Char) :
    replaceFrom needle value text.length (text ++ rest) = replaceFrom needle value 0 rest := by
  induction text with
  | nil => rfl
  | cons c text induction => rw [List.cons_append, List.length_cons, replaceFrom, induction]

theorem replaceFrom_placeholder (rest : List Char) :
    replaceFrom (placeholder index) value 0 (placeholder index ++ rest) =
      value ++ replaceFrom (placeholder index) value 0 rest := by
  have found : (placeholder index).isPrefixOf (placeholder index ++ rest) = true := by
    rw [List.isPrefixOf_iff_prefix, placeholder_isPrefix_iff]
  obtain ⟨c, others, shape⟩ : ∃ c others, placeholder index = c :: others := ⟨_, _, rfl⟩
  rw [shape] at found ⊢
  rw [List.cons_append] at found ⊢
  rw [replaceFrom, found, if_pos rfl, List.length_cons, Nat.add_sub_cancel, replaceFrom_length]

theorem replaceFrom_other {other : Nat} (different : other ≠ index) (rest : List Char) :
    replaceFrom (placeholder index) value 0 (placeholder other ++ rest) =
      placeholder other ++ replaceFrom (placeholder index) value 0 rest := by
  have absent : (placeholder index).isPrefixOf (placeholder other ++ rest) = false := by
    rw [Bool.eq_false_iff, ne_eq, List.isPrefixOf_iff_prefix, placeholder_isPrefix_iff]
    exact Ne.symm different
  -- Behind its opening brace the other placeholder is text without one.
  have plain : '\x7b' ∉ Nat.toDigits 10 other ++ ['\x7d'] := by
    simp [not_mem_toDigits]
  have shape : placeholder other = '\x7b' :: (Nat.toDigits 10 other ++ ['\x7d']) := rfl
  rw [shape, List.cons_append] at absent ⊢
  rw [replaceFrom, absent, if_neg Bool.false_ne_true, replaceFrom_plain plain, List.cons_append]

end

theorem replaceAll_ofPieces (index : Nat) (value : String) (pieces : List Piece) :
    replaceAll (placeholder index) value.toList (ofPieces pieces).toList =
      (String.join (pieces.map (Piece.replaced index value))).toList := by
  rw [replaceAll]
  induction pieces with
  | nil => rfl
  | cons piece pieces induction =>
      rw [ofPieces] at induction ⊢
      rw [List.map_cons, List.map_cons, String.join_cons, String.join_cons, String.toList_append,
        String.toList_append, ← induction]
      cases piece with
      | literal text plain => exact replaceFrom_plain plain _
      | slot other =>
          rw [Piece.text_slot, Piece.replaced]
          split
          · rename_i same
            rw [same]
            exact replaceFrom_placeholder _
          · rename_i different
            rw [Piece.text_slot]
            exact replaceFrom_other different _

/-! ## Filling in all arguments -/

def Piece.filledFrom (index : Nat) (arguments : List String) : Piece → String
  | .literal text _ => text
  | .slot other =>
    if index ≤ other then arguments[other - index]?.getD (slot other).text else (slot other).text

theorem Piece.filledFrom_zero (arguments : List String) :
    filledFrom 0 arguments = filled arguments := by
  funext piece
  cases piece <;> rfl

theorem Piece.filledFrom_nil (index : Nat) : filledFrom index [] = text := by
  funext piece
  cases piece with
  | literal text plain => rfl
  | slot other => simp [filledFrom]

theorem Piece.filledFrom_singleton (index : Nat) (last : String) :
    filledFrom index [last] = replaced index last := by
  funext piece
  cases piece with
  | literal text plain => rfl
  | slot other =>
      rw [filledFrom, replaced]
      rcases Nat.lt_trichotomy other index with below | rfl | above
      · rw [if_neg (by omega), if_neg (by omega)]
      · simp
      · have beyond : [last][other - index]? = none := by
          rw [List.getElem?_eq_none_iff, List.length_singleton]
          omega
        rw [if_pos (by omega), if_neg (by omega), beyond, Option.getD_none]

theorem Piece.filledFrom_cons (index : Nat) {first : String} (plain : '\x7b' ∉ first.toList)
    (arguments : List String) :
    filledFrom index (first :: arguments) =
      filledFrom (index + 1) arguments ∘ fix index first plain := by
  funext piece
  cases piece with
  | literal text textPlain => rfl
  | slot other =>
      rw [Function.comp_apply, filledFrom, fix]
      rcases Nat.lt_trichotomy other index with below | rfl | above
      · rw [if_neg (by omega), if_neg (by omega), filledFrom, if_neg (by omega)]
      · rw [if_pos le_rfl, if_pos rfl, Nat.sub_self]
        rfl
      · have later : other - index = other - (index + 1) + 1 := by omega
        rw [if_pos (by omega), if_neg (by omega), filledFrom, if_pos (by omega), later,
          List.getElem?_cons_succ]

/-- Each argument becomes part of the text before the next one is filled in; as it
has no opening brace, what is made is a template again. -/
theorem fillFrom_ofPieces : ∀ (arguments : List String) (index : Nat) (pieces : List Piece),
    (∀ argument ∈ arguments.dropLast, '\x7b' ∉ argument.toList) →
      fillFrom (ofPieces pieces).toList index arguments =
        (String.join (pieces.map (Piece.filledFrom index arguments))).toList := by
  intro arguments
  induction arguments with
  | nil =>
      intro index pieces _
      rw [fillFrom, ofPieces, Piece.filledFrom_nil]
  | cons first arguments induction =>
      intro index pieces plain
      rw [fillFrom, replaceAll_ofPieces]
      cases arguments with
      | nil =>
          rw [fillFrom, Piece.filledFrom_singleton]
      | cons second arguments =>
          obtain ⟨firstPlain, laterPlain⟩ := List.forall_mem_cons.mp plain
          have made : String.join (pieces.map (Piece.replaced index first)) =
              ofPieces (pieces.map (Piece.fix index first firstPlain)) := by
            rw [ofPieces, List.map_map, Piece.text_fix]
          rw [made, induction (index + 1) _ laterPlain, List.map_map,
            Piece.filledFrom_cons index firstPlain]

theorem fill_ofPieces (pieces : List Piece) {arguments : List String}
    (plain : ∀ argument ∈ arguments.dropLast, '\x7b' ∉ argument.toList) :
    fill (ofPieces pieces) arguments = String.join (pieces.map (Piece.filled arguments)) := by
  rw [fill, fillFrom_ofPieces arguments 0 pieces plain, String.ofList_toList,
    Piece.filledFrom_zero]

end Template

/-- A message is its format with every placeholder that has an argument replaced by
it and all else as it is, if no argument but the last has an opening brace.  So
the message about a declaration has the name of the method in it as it is, and
tells methods of different names apart. -/
theorem message_fills_at_once :
    (∀ (descriptor : Descriptor) (pieces : List Template.Piece) (arguments : List String),
      descriptor.format = Template.ofPieces pieces →
        (∀ argument ∈ arguments.dropLast, '\x7b' ∉ argument.toList) →
          descriptor.message arguments =
            String.join (pieces.map (Template.Piece.filled arguments))) ∧
      (∀ finding : DeclarationFinding,
        (Finding.declaration finding).message =
          "Method '" ++ finding.method ++
            "' must be generic and have an interface type constraint") ∧
      ∀ left right : DeclarationFinding,
        (Finding.declaration left).message = (Finding.declaration right).message ↔
          left.method = right.method := by
  refine ⟨?_, ?_, ?_⟩
  · intro descriptor pieces arguments format plain
    rw [Descriptor.message, format, Template.fill_ofPieces pieces plain]
  · intro finding
    exact Rule.markerDeclaration_message finding.method
  · intro left right
    exact Rule.markerDeclaration_message_inj

/-- A format with a position of two digits, a position without an argument and a brace
that belongs to no placeholder. -/
def crowdedPieces : List Template.Piece :=
  [.slot 10, .literal " of " (by decide), .slot 1, .literal ": " (by decide), .slot 0, .slot 2,
    .literal "0\x7d" (by decide)]

def crowdedDescriptor : Descriptor :=
  { Rule.markerDeclarationDescriptor with
    format := "\x7b10\x7d of \x7b1\x7d: \x7b0\x7d\x7b2\x7d0\x7d" }

theorem message_fills_at_once_crowded :
    crowdedDescriptor.format = Template.ofPieces crowdedPieces ∧
      (∀ argument ∈ ["0\x7d", "", "\x7b0\x7d\x7b"].dropLast, '\x7b' ∉ argument.toList) ∧
      crowdedDescriptor.message ["0\x7d", "", "\x7b0\x7d\x7b"] =
        "\x7b10\x7d of : 0\x7d\x7b0\x7d\x7b0\x7d" := by
  have format : crowdedDescriptor.format = Template.ofPieces crowdedPieces := by decide +kernel
  have plain : ∀ argument ∈ ["0\x7d", "", "\x7b0\x7d\x7b"].dropLast,
      '\x7b' ∉ argument.toList := by decide
  have message := message_fills_at_once.1 crowdedDescriptor crowdedPieces _ format plain
  exact ⟨format, plain, message.trans (by decide +kernel)⟩

end InterfaceLint
