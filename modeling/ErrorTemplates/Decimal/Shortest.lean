import ErrorTemplates.Decimal.Magnitude

/-!
# The shortest text of a number

A floating point number is written with the fewest digits that read back as the same
number, and among those with the nearest. It has a point with digits on both sides while
its size permits, and an exponent otherwise.
-/

namespace ErrorTemplates
namespace Decimal

/-- Digits with the power of ten of the last one. -/
structure Digits where
  /-- The number that the digits form. -/
  number : Nat
  /-- The exponent of ten. -/
  exponent : Int

namespace Magnitude

/-- A number of quarters of the last binary place is at most a multiple of a power of
ten. -/
def quartersLe (value : Magnitude) (quarters : Nat) (digits : Digits) : Bool :=
  let binary := value.exponent - 2
  quarters * powerOfTwo binary.toNat * powerOfTen (-digits.exponent).toNat ≤
    digits.number * powerOfTen digits.exponent.toNat * powerOfTwo (-binary).toNat

/-- A multiple of a power of ten is at most a number of quarters. -/
def leQuarters (value : Magnitude) (digits : Digits) (quarters : Nat) : Bool :=
  let binary := value.exponent - 2
  digits.number * powerOfTen digits.exponent.toNat * powerOfTwo (-binary).toNat ≤
    quarters * powerOfTwo binary.toNat * powerOfTen (-digits.exponent).toNat

/-- The digits read back as the number. -/
def readsBack (value : Magnitude) (digits : Digits) : Bool :=
  let lower := 4 * value.significand - (if value.isLeast then 1 else 2)
  let upper := 4 * value.significand + 2
  if value.significand % 2 = 0 then
    value.quartersLe lower digits && value.leQuarters digits upper
  else
    !value.leQuarters digits lower && !value.quartersLe upper digits

/-- The number in units of a power of ten, rounded down. -/
def floorAt (value : Magnitude) (exponent : Int) : Nat :=
  value.significand * powerOfTwo value.exponent.toNat * powerOfTen (-exponent).toNat /
    (powerOfTwo (-value.exponent).toNat * powerOfTen exponent.toNat)

/-- The number is less than half a unit above its value rounded down, or exactly half a
unit above an even value. -/
def roundsDown (value : Magnitude) (below : Digits) : Bool :=
  let middle : Digits := { number := 10 * below.number + 5, exponent := below.exponent - 1 }
  let quarters := 4 * value.significand
  if value.leQuarters middle quarters && value.quartersLe quarters middle then
    below.number % 2 = 0
  else value.quartersLe quarters middle

/-- The digits with the given power of ten that read back, the nearer ones first. -/
def digitsAt? (value : Magnitude) (exponent : Int) : Option Digits :=
  let below : Digits := { number := value.floorAt exponent, exponent }
  let above : Digits := { number := value.floorAt exponent + 1, exponent }
  match value.readsBack below, value.readsBack above with
  | true, true => some (if value.roundsDown below then below else above)
  | true, false => some below
  | false, true => some above
  | false, false => none

/-- The largest power of ten with a digit, from the given one downward. -/
def leading (value : Magnitude) : (limit : Nat) -> Int -> Int
  | 0, exponent => exponent
  | limit + 1, exponent =>
      if value.floorAt exponent = 0 then value.leading limit (exponent - 1) else exponent

/-- The first digits that read back, from the given power of ten downward. -/
def search (value : Magnitude) : (limit : Nat) -> Int -> Digits
  | 0, exponent => { number := value.floorAt exponent, exponent }
  | limit + 1, exponent =>
      match value.digitsAt? exponent with
      | some digits => digits
      | none => value.search limit (exponent - 1)

/-- The shortest digits of the number. -/
def shortest (value : Magnitude) : Digits := value.search 20 (value.leading 700 310)

end Magnitude

/-- Digits as text. Numbers from 0.00001 to below 10 to the power of 16 are written
without an exponent. -/
def Digits.text (digits : Digits) : String :=
  let written := (toString digits.number).toList
  let count : Int := written.length
  let point := count + digits.exponent
  if 0 ≤ digits.exponent && point ≤ 16 then
    String.ofList (written ++ List.replicate digits.exponent.toNat '0') ++ ".0"
  else if 0 < point && point ≤ 16 then
    String.ofList (written.take point.toNat) ++ "." ++
      String.ofList (written.drop point.toNat)
  else if -5 < point && point ≤ 0 then
    "0." ++ String.ofList (List.replicate (-point).toNat '0' ++ written)
  else
    let exponent := "e" ++ toString (point - 1)
    match written with
    | [only] => String.singleton only ++ exponent
    | first :: rest => String.singleton first ++ "." ++ String.ofList rest ++ exponent
    | [] => exponent

/-- The digits without zeros at their end. -/
def Digits.trimmed (digits : Digits) : (limit : Nat) -> Digits
  | 0 => digits
  | limit + 1 =>
      if digits.number != 0 && digits.number % 10 = 0 then
        Digits.trimmed
          { number := digits.number / 10, exponent := digits.exponent + 1 } limit
      else digits

/-- The text of a number given by its bits. -/
def floatText (bits : Nat) : String :=
  let sign := if bits / powerOfTwo 63 % 2 = 1 then "-" else ""
  let value := Magnitude.ofBits (bits % powerOfTwo 63)
  if value.significand = 0 then sign ++ "0.0"
  else sign ++ (value.shortest.trimmed 20).text

end Decimal
end ErrorTemplates
