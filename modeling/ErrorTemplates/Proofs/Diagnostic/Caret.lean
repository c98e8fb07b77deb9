import ErrorTemplates.Proofs.Diagnostic.Layout
import ErrorTemplates.Proofs.Text.Lines
import Mathlib.Data.List.TakeWhile

/-!
# Carets

The row below a shown line has a caret. The two rows begin alike, so the caret stands below the
character at which an issue was found when the blanks before it take the columns of the text
before that character. The column of a location counts columns, and the caret takes that many
characters of the line instead: it is right exactly when both take the same columns.
-/

namespace ErrorTemplates
namespace Diagnostic

open Text (Measure isPrintable between columnsPassed columnStep displayWidth widthOfFirst SumsUp
  BeginsLine exists_locate_eq)

/-! ## The two rows -/

theorem all_isPrintable_blanks (count : Nat) : (blanks count).toList.all isPrintable = true := by
  rw [blanks, String.toList_ofList, List.all_replicate]
  simp only [show isPrintable ' ' = true by decide]
  split <;> rfl

theorem all_isPrintable_toString (number : Nat) :
    (toString number).toList.all isPrintable = true := by
  change number.repr.toList.all isPrintable = true
  rw [Nat.repr_eq_ofList_toDigits, String.toList_ofList, List.all_eq_true]
  intro character present
  have isDigit : character.isDigit = true :=
    Nat.isDigit_of_mem_toDigits (by decide) (by decide) present
  have bounds : 48 ≤ character.toNat ∧ character.toNat ≤ 57 := by
    simpa [Char.isDigit, UInt32.le_iff_toNat_le] using isDigit
  simp only [isPrintable, Bool.and_eq_true, decide_eq_true_eq]
  omega

end Diagnostic
end ErrorTemplates
