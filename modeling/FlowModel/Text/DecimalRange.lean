/-!
# Range of decimal numbers

Documents write numbers as decimals, a significand times a power of ten. A decimal is in range when the binary
floating-point number of 64 bits that it is taken for is finite. It may be taken for the nearest such number or for a
product: the significand and the power are each rounded to 53 bits, and so is their product. The two ways disagree
only close to the greatest finite number.
-/

namespace FlowModel

/-- Half a step above the greatest binary floating-point number of 64 bits: the least number that is rounded out of
range. -/
def magnitudeLimit : Nat := Nat.pow 2 1024 - Nat.pow 2 970

/-- Whether the nearest number to the significand times ten to the exponent is finite. The count of digits before the
point decides all but the numbers close to the limit, so no large power is computed without need. -/
def decimalInRange (significand exponent : Int) : Bool :=
  let digits := (Nat.toDigits 10 significand.natAbs).length
  let magnitude := digits + exponent
  if significand = 0 ∨ magnitude < 300 then true
  else if 320 < magnitude then false
  else if 0 ≤ exponent then significand.natAbs * Nat.pow 10 exponent.toNat < magnitudeLimit
  else significand.natAbs < magnitudeLimit * Nat.pow 10 (-exponent).toNat

/-- The nearest number of which no more than 53 bits, from the highest one on, are in use; of two the one whose last
such bit is zero. -/
def roundTo53Bits (value : Nat) : Nat :=
  let unit := Nat.pow 2 (value.log2 - 52)
  let quotient := value / unit
  let twice := 2 * (value % unit)
  if unit < twice ∨ (unit = twice ∧ quotient % 2 = 1) then (quotient + 1) * unit else quotient * unit

/-- Greatest exponent of a power of ten that is finite. -/
def greatestPower : Int := 308

/-- Whether the rounded product of the significand and ten to the exponent is finite. A negative exponent stands for a
quotient, which is never out of range. -/
def productInRange (significand : Nat) (exponent : Int) : Bool :=
  if significand = 0 ∨ exponent < 0 then true
  else if greatestPower < exponent then false
  else roundTo53Bits significand * roundTo53Bits (Nat.pow 10 exponent.toNat) < magnitudeLimit

end FlowModel
