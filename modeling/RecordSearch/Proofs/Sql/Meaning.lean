import RecordSearch.Proofs.Sql.Reader
import RecordSearch.Text.Basic

/-!
# What SQL conditions mean

The value of a scalar expression on a row, in the logic of three values: what depends on a missing
value is itself missing, except where one operand decides. A row is selected if its condition is
true, and not if it is unknown.

## Main results

`selects_and`, `selects_or`: for selection the connectives are those of two values.
`selects_holds`: the search of a needle selects the rows whose text holds it.
-/
namespace RecordSearch.Sql

/-- A value of SQL. Texts and integers are all that conditions on members come across. -/
inductive Datum where
  | null
  | integer (n : Int)
  | text (s : String)
  deriving DecidableEq, Repr

/-- The values of the columns, by the joined table if one is named and by their own name. -/
abbrev Row := Option String → String → Datum

namespace Datum

def ofText? : Option String → Datum
  | none => null
  | some s => text s

def ofTruth : Option Bool → Datum
  | none => null
  | some b => integer (if b then 1 else 0)

/-- Whether a value counts as true. Texts are left open, since no test of a member yields one. -/
def truth : Datum → Option Bool
  | null => none
  | integer n => some (n != 0)
  | text _ => none

def text? : Datum → Option String
  | null => none
  | integer n => some (toString n)
  | text s => some s

/-- Comparison by size. Every text is greater than every integer. -/
def exceeds : Datum → Datum → Option Bool
  | integer m, integer n => some (decide (n < m))
  | text s, text t => some (decide (t < s))
  | text _, integer _ => some true
  | integer _, text _ => some false
  | _, _ => none

@[simp]
theorem truth_ofTruth (b : Option Bool) : (ofTruth b).truth = b := by
  rcases b with _ | b
  · rfl
  · cases b <;> rfl

@[simp]
theorem text?_ofText? (s : Option String) : (ofText? s).text? = s := by
  cases s <;> rfl

end Datum

/-- Conjunction: false if either side is, however little is known of the other. -/
def both : Option Bool → Option Bool → Option Bool
  | some false, _ => some false
  | _, some false => some false
  | some true, some true => some true
  | _, _ => none

/-- Alternative: true if either side is. -/
def either : Option Bool → Option Bool → Option Bool
  | some true, _ => some true
  | _, some true => some true
  | some false, some false => some false
  | _, _ => none

theorem both_eq_true_iff {a b : Option Bool} :
    both a b = some true ↔ a = some true ∧ b = some true := by
  rcases a with _ | _ | _ <;> rcases b with _ | _ | _ <;> simp [both]

theorem either_eq_true_iff {a b : Option Bool} :
    either a b = some true ↔ a = some true ∨ b = some true := by
  rcases a with _ | _ | _ <;> rcases b with _ | _ | _ <;> simp [either]

/-- The place of the first occurrence of a needle, counted from one; zero if there is none. -/
def position (needle : List Char) : List Char → Nat
  | [] => if needle.isEmpty then 1 else 0
  | c :: rest =>
    if needle.isPrefixOf (c :: rest) then 1
    else if position needle rest = 0 then 0
    else position needle rest + 1

theorem position_pos_iff {needle text : List Char} :
    0 < position needle text ↔ Text.occursIn needle text = true := by
  induction text with
  | nil =>
    rw [position, Text.occursIn]
    split <;> simp_all
  | cons c rest ih =>
    rw [position, Text.occursIn, Bool.or_eq_true, ← ih]
    by_cases first : needle.isPrefixOf (c :: rest) = true
    · simp [first]
    · -- Behind the first character the place is one more than in the rest, unless there is none.
      simp only [first, Bool.false_eq_true, if_false, false_or]
      split <;> omega

def Datum.place : Option String → Option String → Datum
  | some s, some needle => integer (position needle.toList s.toList)
  | _, _ => null

/-- The upper-case form of a text as the database makes it, which leaves all but ASCII alone. -/
def asciiUpper (text : String) : String := String.ofList (text.toList.map Char.toUpper)

namespace Scalar

def eval (row : Row) : Scalar → Datum
  | column table name => row table name
  | literal text => .text text
  | integer n => .integer n
  | castText inner => .ofText? (inner.eval row).text?
  | upper inner => .ofText? ((inner.eval row).text?.map asciiUpper)
  | instr text needle => .place (text.eval row).text? (needle.eval row).text?
  | caseWhen test yes no => if (test.eval row).truth = some true then yes.eval row else no.eval row
  | greater left right => .ofTruth ((left.eval row).exceeds (right.eval row))
  | notNull inner => .ofTruth (some (inner.eval row != .null))
  | and left right => .ofTruth (both (left.eval row).truth (right.eval row).truth)
  | or left right => .ofTruth (either (left.eval row).truth (right.eval row).truth)

def selects (condition : Scalar) (row : Row) : Bool := (condition.eval row).truth == some true

variable {row : Row}

@[simp]
theorem selects_and (left right : Scalar) :
    (and left right).selects row = (left.selects row && right.selects row) := by
  apply Bool.eq_iff_iff.mpr
  simp [selects, eval, both_eq_true_iff]

@[simp]
theorem selects_or (left right : Scalar) :
    (or left right).selects row = (left.selects row || right.selects row) := by
  apply Bool.eq_iff_iff.mpr
  simp [selects, eval, either_eq_true_iff]

theorem selects_notNull (inner : Scalar) :
    (notNull inner).selects row = (inner.eval row != .null) := by
  simp [selects, eval]

/-- The search of a needle selects the rows whose text holds it, and none without a text. -/
theorem selects_holds (haystack : Scalar) (needle : String) :
    (greater (instr haystack (literal needle)) (integer 0)).selects row =
      (haystack.eval row).text?.any (Text.contains · needle) := by
  have compared : (greater (instr haystack (literal needle)) (integer 0)).eval row =
      .ofTruth ((Datum.place (haystack.eval row).text? (some needle)).exceeds (.integer 0)) := rfl
  rw [selects, compared, Datum.truth_ofTruth]
  cases (haystack.eval row).text? with
  | none => rfl
  | some text =>
    -- Both are there, so the comparison is one of integers.
    have found : 0 < position needle.toList text.toList ↔ Text.contains text needle = true :=
      position_pos_iff
    apply Bool.eq_iff_iff.mpr
    simp [Datum.place, Datum.exceeds, found]

theorem selects_foldl_and (conditions : List Scalar) (first : Scalar) :
    (conditions.foldl and first).selects row =
      (first.selects row && conditions.all (·.selects row)) := by
  induction conditions generalizing first with
  | nil => simp
  | cons condition rest ih => simp [ih, Bool.and_assoc]

theorem selects_foldl_or (conditions : List Scalar) (first : Scalar) :
    (conditions.foldl or first).selects row =
      (first.selects row || conditions.any (·.selects row)) := by
  induction conditions generalizing first with
  | nil => simp
  | cons condition rest ih => simp [ih, Bool.or_assoc]

end Scalar

end RecordSearch.Sql
