import ErrorTemplates.Decimal.Magnitude

/-!
# Elapsed time

A time in milliseconds with two decimal places. The time is a floating point number, and
what is written is the nearest multiple of a hundredth to its exact value; of two that are
equally near, the even one.
-/

namespace ErrorTemplates
namespace Diagnostic

open Decimal (Magnitude powerOfTwo)

/-- A quotient rounded to the nearest whole number, and to the even one of two. -/
def roundedQuotient (numerator denominator : Nat) : Nat :=
  let quotient := numerator / denominator
  let doubled := 2 * (numerator % denominator)
  if doubled < denominator then quotient
  else if denominator < doubled then quotient + 1
  else if quotient % 2 = 0 then quotient
  else quotient + 1

/-- The hundredths in a positive number. -/
def hundredths (value : Magnitude) : Nat :=
  roundedQuotient (100 * value.significand * powerOfTwo value.exponent.toNat)
    (powerOfTwo (-value.exponent).toNat)

/-- A number of hundredths with a point. -/
def twoPlaces (hundredths : Nat) : String :=
  let rest := hundredths % 100
  toString (hundredths / 100) ++ "." ++ (if rest < 10 then "0" else "") ++ toString rest

/-- A time in milliseconds. -/
def milliseconds (nanoseconds : Nat) : Float :=
  let seconds := Float.ofNat (nanoseconds / 1000000000)
  let rest := Float.ofNat (nanoseconds % 1000000000)
  (seconds + rest / 1000000000.0) * 1000.0

/-- A time in milliseconds with two decimal places. -/
def millisecondText (nanoseconds : Nat) : String :=
  twoPlaces (hundredths (.ofBits (milliseconds nanoseconds).toBits.toNat))

end Diagnostic
end ErrorTemplates
