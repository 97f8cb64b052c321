/-!
Floating-point numbers of 64 bits, read from their bits: a sign, eleven bits of exponent and
fifty-two of fraction. Everything here is exact arithmetic on natural numbers. Powers are written
`Nat.pow`, since what `^` stands for depends on what is imported.
-/
namespace RecordSearch

/-- A 64-bit floating-point number, held as its bits. -/
structure Binary64 where
  bits : UInt64
  deriving DecidableEq, Repr

namespace Binary64

def isNegative (x : Binary64) : Bool := Nat.pow 2 63 ≤ x.bits.toNat

def exponentField (x : Binary64) : Nat := x.bits.toNat / Nat.pow 2 52 % Nat.pow 2 11

def fractionField (x : Binary64) : Nat := x.bits.toNat % Nat.pow 2 52

def isNaN (x : Binary64) : Bool := x.exponentField == 2047 && x.fractionField != 0

def isInfinite (x : Binary64) : Bool := x.exponentField == 2047 && x.fractionField == 0

def isZero (x : Binary64) : Bool := x.exponentField == 0 && x.fractionField == 0

/-- The magnitude of a finite number is `significand * 2 ^ exponent`. -/
def significand (x : Binary64) : Nat :=
  if x.exponentField = 0 then x.fractionField else Nat.pow 2 52 + x.fractionField

def exponent (x : Binary64) : Int :=
  if x.exponentField = 0 then -1074 else (x.exponentField : Int) - 1075

/-- At a power of two the next number below is half as far away as the next above. -/
def isNarrowBelow (x : Binary64) : Bool := x.fractionField == 0 && 1 < x.exponentField

/-- Equality of the numbers: NaN equals nothing, and both zeros are one number. -/
def same (x y : Binary64) : Bool :=
  !x.isNaN && !y.isNaN && (x == y || x.isZero && y.isZero)

/-- Put a number together from its three fields. -/
def ofFields (negative : Bool) (exponent fraction : Nat) : Binary64 :=
  ⟨UInt64.ofNat ((if negative then Nat.pow 2 63 else 0) + exponent * Nat.pow 2 52 + fraction)⟩

/-- The same number as one of 32 bits. Its subnormal values are normal here. -/
def ofBinary32 (bits : UInt32) : Binary64 :=
  let negative := Nat.pow 2 31 ≤ bits.toNat
  let exponent := bits.toNat / Nat.pow 2 23 % Nat.pow 2 8
  let fraction := bits.toNat % Nat.pow 2 23
  if exponent = 255 then ofFields negative 2047 (fraction * Nat.pow 2 29)
  else if exponent ≠ 0 then ofFields negative (exponent + 896) (fraction * Nat.pow 2 29)
  else if fraction = 0 then ofFields negative 0 0
  else
    let leading := fraction.log2
    ofFields negative (leading + 874) ((fraction - Nat.pow 2 leading) * Nat.pow 2 (52 - leading))

end Binary64

end RecordSearch
