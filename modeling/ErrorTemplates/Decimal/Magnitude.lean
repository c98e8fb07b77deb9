/-!
# Binary floating point numbers

A positive floating point number is a whole multiple of a power of two. Both are found in
its bits.
-/

namespace ErrorTemplates
namespace Decimal

/-- A power of two. -/
def powerOfTwo (exponent : Nat) : Nat := Nat.pow 2 exponent

/-- A power of ten. -/
def powerOfTen (exponent : Nat) : Nat := Nat.pow 10 exponent

/-- A positive number as a multiple of a power of two. -/
structure Magnitude where
  /-- The multiple. -/
  significand : Nat
  /-- The exponent of two. -/
  exponent : Int
  /-- The next smaller number is half as far away as the next larger one. -/
  isLeast : Bool

/-- The parts of a positive number from its bits. -/
def Magnitude.ofBits (bits : Nat) : Magnitude :=
  let fraction := bits % powerOfTwo 52
  let biased := bits / powerOfTwo 52 % powerOfTwo 11
  if biased = 0 then { significand := fraction, exponent := -1074, isLeast := false }
  else
    { significand := powerOfTwo 52 + fraction
      exponent := Int.ofNat biased - 1075
      isLeast := fraction == 0 && decide (1 < biased) }

end Decimal
end ErrorTemplates
