import Mathlib.Data.List.Lex
import Mathlib.Data.String.Basic

/-!
# Order of texts and of their bytes

Texts are compared character by character.  Their UTF-8 bytes compare the same
way: of two characters the greater one has the greater bytes, whatever follows.
-/

set_option autoImplicit false

namespace InterfaceLint.Text

def bytes (text : String) : List UInt8 := text.toUTF8.data.toList

theorem bytes_eq (text : String) : bytes text = text.toList.flatMap String.utf8EncodeChar := by
  rw [bytes, String.toUTF8_eq_toByteArray, ← String.utf8Encode_toList, List.utf8Encode]
  simp

/-! ## One character -/

theorem byte_lt_iff {first second : Nat} (firstFits : first < 256) (secondFits : second < 256) :
    UInt8.ofNat first < UInt8.ofNat second ↔ first < second := by
  rw [UInt8.lt_iff_toNat_lt, UInt8.toNat_ofNat_of_lt' firstFits,
    UInt8.toNat_ofNat_of_lt' secondFits]

theorem byte_eq_iff {first second : Nat} (firstFits : first < 256) (secondFits : second < 256) :
    UInt8.ofNat first = UInt8.ofNat second ↔ first = second := by
  rw [← UInt8.toNat_inj, UInt8.toNat_ofNat_of_lt' firstFits, UInt8.toNat_ofNat_of_lt' secondFits]

theorem encodeChar_lt {first second : Char} (less : first < second) (rest other : List UInt8) :
    String.utf8EncodeChar first ++ rest < String.utf8EncodeChar second ++ other := by
  have below : first.val.toNat < second.val.toNat := less
  have bound : second.val.toNat < 1114112 := by
    rcases second.valid with low | high
    · exact low.trans (by decide)
    · exact high.2
  have twoDigits (value : Nat) : value / 4096 = value / 64 / 64 := by
    rw [Nat.div_div_eq_div_mul]
  have threeDigits (value : Nat) : value / 262144 = value / 64 / 64 / 64 := by
    rw [Nat.div_div_eq_div_mul, Nat.div_div_eq_div_mul]
  -- A longer encoding starts with a greater byte; encodings of one length are the
  -- digits to base 64, each with a constant added.
  fun_cases String.utf8EncodeChar first <;> fun_cases String.utf8EncodeChar second <;>
    simp (disch := omega) only [List.cons_append, List.nil_append, List.cons_lt_cons_iff,
      byte_lt_iff, byte_eq_iff, twoDigits, threeDigits] <;> omega

/-! ## Whole texts -/

theorem encode_lt : ∀ {left right : List Char}, left < right →
    left.flatMap String.utf8EncodeChar < right.flatMap String.utf8EncodeChar := by
  intro left
  induction left with
  | nil =>
      intro right less
      cases right with
      | nil => exact absurd less (List.lt_irrefl _)
      | cons c right =>
          rw [List.flatMap_nil, List.flatMap_cons]
          obtain ⟨byte, bytes, encoded⟩ :=
            List.exists_cons_of_ne_nil (@String.utf8EncodeChar_ne_nil c)
          rw [encoded]
          exact List.nil_lt_cons _ _
  | cons c left induction =>
      intro right less
      cases right with
      | nil => exact absurd less (List.not_lt_nil _)
      | cons d right =>
          rw [List.flatMap_cons, List.flatMap_cons]
          rcases List.cons_lt_cons_iff.mp less with headLess | ⟨rfl, tailLess⟩
          · exact encodeChar_lt headLess _ _
          · exact List.append_left_lt (induction tailLess)

theorem bytes_lt_iff {left right : String} : bytes left < bytes right ↔ left < right := by
  have mono {left right : String} (less : left < right) : bytes left < bytes right := by
    rw [bytes_eq, bytes_eq]
    exact encode_lt less
  constructor
  · intro less
    by_contra notLess
    rcases (not_lt.mp notLess).lt_or_eq with greater | same
    · exact List.lt_asymm less (mono greater)
    · exact List.lt_irrefl _ (same ▸ less)
  · exact mono

theorem bytes_le_iff {left right : String} : bytes left ≤ bytes right ↔ left ≤ right := by
  rw [← not_lt, ← bytes_lt_iff]
  exact Iff.rfl

end InterfaceLint.Text
