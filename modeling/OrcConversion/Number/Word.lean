/-! Powers of two and the integers that fit into signed words. -/

namespace OrcConversion.Number

def powerOfTwo (exponent : Nat) : Nat := Nat.pow 2 exponent

def fitsSigned (bits : Nat) (value : Int) : Bool :=
  let bound : Int := powerOfTwo (bits - 1)
  0 ≤ value + bound && value < bound

end OrcConversion.Number
