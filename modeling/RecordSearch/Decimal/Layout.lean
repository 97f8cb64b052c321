import RecordSearch.Decimal.Shortest

/-!
How a floating-point number is written. The digits are the shortest that identify it; a `Layout`
holds what is left to decide.
-/
namespace RecordSearch

/-- Decisions on the written form of a floating-point number. -/
structure Layout where
  /-- The exponents of the leading digit, from and below, that are written without exponent;
  `none` for all. -/
  positional : Option (Int × Int)
  /-- Whether a whole number shows `.0`. -/
  pointZero : Bool

namespace Layout

/-- Texts of values: never an exponent, whole numbers without a point. -/
def plain : Layout := ⟨none, false⟩

/-- Values under inspection: an exponent below a ten-thousandth and from `10 ^ 16` on, and a point
in every number without one. -/
def inspect : Layout := ⟨some (-4, 16), true⟩

/-- Digits with the point where it belongs. -/
def positionalText (layout : Layout) (digits : List Char) (exponent : Int) : List Char :=
  if 0 ≤ exponent then
    digits ++ List.replicate exponent.toNat '0' ++ if layout.pointZero then ['.', '0'] else []
  else
    let places := (-exponent).toNat
    -- The point falls between two digits, or zeros fill up to it.
    if places < digits.length then
      digits.take (digits.length - places) ++ '.' :: digits.drop (digits.length - places)
    else
      '0' :: '.' :: (List.replicate (places - digits.length) '0' ++ digits)

/-- One digit before the point, the others behind it, and the power of ten of the first. -/
def exponentText (digits : List Char) (leading : Int) : List Char :=
  let mantissa := match digits with
    | [] => []
    | [digit] => [digit]
    | digit :: rest => digit :: '.' :: rest
  mantissa ++ 'e' :: (toString leading).toList

def decimalText (layout : Layout) (d : Decimal) : List Char :=
  let digits := Nat.toDigits 10 d.digits
  let leading := d.exponent + digits.length - 1
  match layout.positional with
  | none => layout.positionalText digits d.exponent
  | some (first, last) =>
    if d.digits = 0 ∨ first ≤ leading ∧ leading < last then
      layout.positionalText digits d.exponent
    else exponentText digits leading

/-- A floating-point number as the layout writes it. The zeros keep their signs, NaN has none. -/
def text (layout : Layout) (x : Binary64) : String :=
  if x.isNaN then "NaN"
  else
    let sign := if x.isNegative then "-" else ""
    if x.isInfinite then sign ++ "inf"
    else sign ++ String.ofList (layout.decimalText x.shortest)

end Layout

end RecordSearch
