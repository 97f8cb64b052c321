import RecordSearch.Decimal.Binary64

/-!
The fewest decimal digits that identify a floating-point number. A decimal identifies a number when
it lies between the midpoints to the two neighbouring numbers; a midpoint itself counts when the
significand is even. The search tries one digit, two digits and so on, and on each grid of decimals
only the two grid points next to the number.
-/
namespace RecordSearch

/-- The decimal number `digits * 10 ^ exponent`. -/
structure Decimal where
  digits : Nat
  exponent : Int
  deriving DecidableEq, Repr

namespace Decimal

/-- Compare a decimal with `count * 2 ^ scale`. -/
def compareBinary (d : Decimal) (count : Nat) (scale : Int) : Ordering :=
  compare (d.digits * Nat.pow 10 d.exponent.toNat * Nat.pow 2 (-scale).toNat)
    (count * Nat.pow 2 scale.toNat * Nat.pow 10 (-d.exponent).toNat)

/-- Move the trailing zeros of the digits, at most `limit`, into the exponent. -/
def stripZeros : Nat → Decimal → Decimal
  | 0, d => d
  | limit + 1, d =>
    if d.digits ≠ 0 ∧ d.digits % 10 = 0 then stripZeros limit ⟨d.digits / 10, d.exponent + 1⟩ else d

end Decimal

namespace Binary64

/-- Whether a decimal is nearer to this number than to any other, measured in quarters of the gap
above it. -/
def identifiedBy (x : Binary64) (d : Decimal) : Bool :=
  -- Below a power of two the neighbour is only half a gap away.
  let scale := x.exponent - 2
  let low := d.compareBinary (4 * x.significand - if x.isNarrowBelow then 1 else 2) scale
  let high := d.compareBinary (4 * x.significand + 2) scale
  if x.significand % 2 = 0 then low != .lt && high != .gt else low == .gt && high == .lt

/-- The largest multiple of `10 ^ step` that is not above the number's magnitude. -/
def gridBelow (x : Binary64) (step : Int) : Decimal :=
  ⟨x.significand * Nat.pow 2 x.exponent.toNat * Nat.pow 10 (-step).toNat /
    (Nat.pow 2 (-x.exponent).toNat * Nat.pow 10 step.toNat), step⟩

/-- The power of ten just above a non-zero magnitude. The binary logarithm gives it up to a few
steps. -/
def decimalPoint (x : Binary64) : Int :=
  let estimate := ((x.significand.log2 : Int) + x.exponent) * 30103 / 100000 - 1
  ((List.range 4).map fun (i : Nat) => estimate + i).find?
    (fun power => Decimal.compareBinary ⟨1, power⟩ x.significand x.exponent == .gt)
    |>.getD (estimate + 4)

/-- The identifying grid point with the given step, the nearer one if there are two; of two equally
near the upper. -/
def onGrid? (x : Binary64) (step : Int) : Option Decimal :=
  -- The number lies between two neighbours on the grid, or on the lower one.
  let below := x.gridBelow step
  let above : Decimal := ⟨below.digits + 1, step⟩
  let nearerBelow :=
    Decimal.compareBinary ⟨2 * below.digits + 1, step⟩ (2 * x.significand) x.exponent == .gt
  match x.identifiedBy below, x.identifiedBy above with
  | true, true => some (if nearerBelow then below else above)
  | true, false => some below
  | false, true => some above
  | false, false => none

/-- The exact magnitude, which every number has as a decimal. -/
def exactDecimal (x : Binary64) : Decimal :=
  if 0 ≤ x.exponent then ⟨x.significand * Nat.pow 2 x.exponent.toNat, 0⟩
  else ⟨x.significand * Nat.pow 5 (-x.exponent).toNat, x.exponent⟩

def shortest (x : Binary64) : Decimal :=
  if x.isZero then ⟨0, 0⟩
  else
    let point := x.decimalPoint
    -- The first grid has one digit; seventeen always suffice.
    ((List.range 17).findSome? fun (i : Nat) => x.onGrid? (point - 1 - i)).getD x.exactDecimal
      |>.stripZeros 17

end Binary64

end RecordSearch
