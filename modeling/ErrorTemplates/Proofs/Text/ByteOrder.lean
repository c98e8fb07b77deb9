import ErrorTemplates.Text.Bytes
import Mathlib.Tactic.ByContra

/-!
# The order of texts

Texts are compared character by character. Comparing their bytes gives the same order: the first
byte of a character says how many follow, more for larger characters, and the bytes of equally
long characters are the digits of their numbers, the largest first.
-/

namespace ErrorTemplates
namespace Text

/-! ## Characters -/

theorem ofNat_lt_ofNat_iff {one other : Nat} (small : one < 256) (otherSmall : other < 256) :
    UInt8.ofNat one < UInt8.ofNat other ↔ one < other := by
  rw [UInt8.lt_iff_toNat_lt, UInt8.toNat_ofNat_of_lt' small, UInt8.toNat_ofNat_of_lt' otherSmall]

theorem ofNat_eq_ofNat_iff {one other : Nat} (small : one < 256) (otherSmall : other < 256) :
    UInt8.ofNat one = UInt8.ofNat other ↔ one = other := by
  rw [← UInt8.toNat_inj, UInt8.toNat_ofNat_of_lt' small, UInt8.toNat_ofNat_of_lt' otherSmall]

theorem toNat_val_lt (character : Char) : character.val.toNat < 0x110000 := by
  have valid : character.val.isValidChar := character.valid
  simp only [UInt32.isValidChar, Nat.isValidChar] at valid
  omega

/-- The bytes of a smaller character come first, whatever follows them. -/
theorem utf8EncodeChar_append_lt
    {one other : Char}
    (isLess : one < other)
    (rest otherRest : List UInt8) :
    String.utf8EncodeChar one ++ rest < String.utf8EncodeChar other ++ otherRest := by
  have less : one.val.toNat < other.val.toNat := UInt32.lt_iff_toNat_lt.mp isLess
  have bound := toNat_val_lt other
  have digits (value : Nat) :
      value / 4096 = value / 64 / 64 ∧ value / 262144 = value / 4096 / 64 := by
    omega
  have oneDigits := digits one.val.toNat
  have otherDigits := digits other.val.toNat
  fun_cases String.utf8EncodeChar one <;> fun_cases String.utf8EncodeChar other <;>
    simp (disch := omega) only [List.cons_append, List.nil_append, List.cons_lt_cons_iff,
      ofNat_lt_ofNat_iff, ofNat_eq_ofNat_iff, Nat.mod_eq_of_lt] <;> omega

/-! ## Texts -/

theorem utf8_eq_flatMap (text : String) :
    utf8 text = text.toList.flatMap String.utf8EncodeChar := by
  have ofList_eq (characters : List Char) :
      utf8 (String.ofList characters) = characters.flatMap String.utf8EncodeChar := by
    simp [utf8, toList_byteArray, List.utf8Encode]
  rw [← ofList_eq, String.ofList_toList]

theorem flatMap_utf8EncodeChar_lt {one other : List Char} (isLess : one < other) :
    one.flatMap String.utf8EncodeChar < other.flatMap String.utf8EncodeChar := by
  induction isLess with
  | @nil first rest =>
      obtain ⟨byte, others, bytes_eq⟩ :=
        List.exists_cons_of_ne_nil (String.utf8EncodeChar_ne_nil (c := first))
      rw [List.flatMap_cons, bytes_eq]
      exact List.nil_lt_cons _ _
  | @cons first rest others _ inductionHypothesis =>
      exact List.append_left_lt inductionHypothesis
  | @rel first rest second others isLess =>
      exact utf8EncodeChar_append_lt isLess _ _

/-- Comparing texts is comparing their bytes. -/
theorem utf8_lt_utf8_iff {one other : String} : utf8 one < utf8 other ↔ one < other := by
  rw [utf8_eq_flatMap, utf8_eq_flatMap, String.lt_iff]
  refine ⟨fun isLess => ?_, flatMap_utf8EncodeChar_lt⟩
  by_contra notLess
  rcases List.le_iff_lt_or_eq.mp (List.not_lt.mp notLess) with isGreater | isSame
  · exact List.lt_asymm isLess (flatMap_utf8EncodeChar_lt isGreater)
  · rw [isSame] at isLess
    exact List.lt_irrefl _ isLess

end Text
end ErrorTemplates
