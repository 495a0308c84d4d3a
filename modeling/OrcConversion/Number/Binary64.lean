import OrcConversion.Number.Word

/-! Decimal numbers and their nearest numbers of the binary64 format. -/

namespace OrcConversion.Number

/-- The number `mantissa * 10 ^ exponent`. -/
structure Decimal where
  mantissa : Int
  exponent : Int
deriving DecidableEq, Repr

/-- The number `mantissa * 2 ^ exponent`, or an infinity. -/
inductive Binary64 where
  | finite (mantissa : Int) (exponent : Int)
  | infinite (negative : Bool)
deriving DecidableEq, Repr

def powerOfTen (exponent : Nat) : Nat := Nat.pow 10 exponent

def roundQuotient (numerator denominator : Nat) : Nat :=
  let quotient := numerator / denominator
  let remainder := numerator % denominator
  if 2 * remainder < denominator then quotient
  else if denominator < 2 * remainder then quotient + 1
  else quotient + quotient % 2

/-- Largest power of two that is at most a positive quotient. -/
def binaryOrder (numerator denominator : Nat) : Int :=
  let guess : Int := (numerator.log2 : Int) - denominator.log2
  let fits :=
    if 0 ≤ guess then denominator * powerOfTwo guess.toNat ≤ numerator
    else denominator ≤ numerator * powerOfTwo guess.natAbs
  if fits then guess else guess - 1

namespace Binary64

def ofQuotient (negative : Bool) (numerator denominator : Nat) : Binary64 :=
  if numerator = 0 then .finite 0 0
  else
    let exponent := max (binaryOrder numerator denominator - 52) (-1074)
    let mantissa :=
      if 0 ≤ exponent then roundQuotient numerator (denominator * powerOfTwo exponent.toNat)
      else roundQuotient (numerator * powerOfTwo exponent.natAbs) denominator
    if 971 < exponent || (exponent == 971 && powerOfTwo 53 ≤ mantissa) then .infinite negative
    else .finite (if negative then -(mantissa : Int) else mantissa) exponent

/-- Powers of ten beyond which every decimal rounds to an infinity, and below which to zero. -/
def decimalRange : Nat := 400

def ofDecimal (number : Decimal) : Binary64 :=
  let magnitude := number.mantissa.natAbs
  let order : Int := (Nat.toDigits 10 magnitude).length + number.exponent
  let negative := number.mantissa < 0
  if magnitude = 0 || order < -decimalRange then .finite 0 0
  else if decimalRange < order then .infinite negative
  else if 0 ≤ number.exponent then
    ofQuotient negative (magnitude * powerOfTen number.exponent.toNat) 1
  else ofQuotient negative magnitude (powerOfTen number.exponent.natAbs)

/-- Integer part, the fraction dropped; an infinity has none. -/
def truncate? : Binary64 → Option Int
  | .finite mantissa exponent =>
      if 0 ≤ exponent then some (mantissa * powerOfTwo exponent.toNat)
      else some (mantissa.tdiv (powerOfTwo exponent.natAbs))
  | .infinite _ => none

def isWhole : Binary64 → Bool
  | .finite mantissa exponent =>
      0 ≤ exponent || mantissa % powerOfTwo exponent.natAbs == 0
  | .infinite _ => false

def scale (factor : Nat) : Binary64 → Binary64
  | .finite mantissa exponent =>
      let negative := mantissa < 0
      if 0 ≤ exponent then
        ofQuotient negative (mantissa.natAbs * factor * powerOfTwo exponent.toNat) 1
      else ofQuotient negative (mantissa.natAbs * factor) (powerOfTwo exponent.natAbs)
  | .infinite negative => .infinite negative

end Binary64

end OrcConversion.Number
