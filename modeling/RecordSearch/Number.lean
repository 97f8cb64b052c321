import RecordSearch.Decimal.Layout

/-!
Numbers of members: signed and unsigned integers of 64 bits and floating-point numbers. Narrower
numbers are widened before they get here.
-/
namespace RecordSearch

inductive Number where
  | signed (value : Int64)
  | unsigned (value : UInt64)
  | float (value : Binary64)
  deriving DecidableEq, Repr

namespace Number

/-- The text of a number, the form in which searches see it. -/
def text : Number → String
  | signed n => toString n.toInt
  | unsigned n => toString n.toNat
  | float x => Layout.plain.text x

/-- A number under inspection, with its kind. -/
def inspect : Number → String
  | signed n => "I64(" ++ toString n.toInt ++ ")"
  | unsigned n => "U64(" ++ toString n.toNat ++ ")"
  | float x => "F64(" ++ Layout.inspect.text x ++ ")"

/-- Equality within a kind; numbers of different kinds are never the same. -/
def same : Number → Number → Bool
  | signed m, signed n => m == n
  | unsigned m, unsigned n => m == n
  | float x, float y => x.same y
  | _, _ => false

def isInteger : Number → Bool
  | float _ => false
  | _ => true

end Number

end RecordSearch
