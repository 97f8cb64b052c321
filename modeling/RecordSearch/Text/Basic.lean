import RecordSearch.Unicode.Lowercase
import RecordSearch.Unicode.Uppercase

/-!
Texts: their case, their words, the stretches they hold, and how a few small things are written.
-/
namespace RecordSearch.Text

/-! ### Case -/

def upper (text : String) : String := String.ofList (text.toList.flatMap Unicode.uppercase)

def lower (text : String) : String := String.ofList (Unicode.lowercaseText text.toList)

@[simp]
theorem toList_upper (text : String) :
    (upper text).toList = text.toList.flatMap Unicode.uppercase := by
  simp [upper]

/-- Upper-casing works on each part of a text alone. -/
theorem upper_append (left right : String) : upper (left ++ right) = upper left ++ upper right := by
  apply String.toList_injective
  simp

/-! ### Words

The words of a text are its longest stretches without white space, in order. Cutting the text at
every blank and dropping the empty pieces gives exactly these. `words_append_cons` is the equation
from which the rest follows.
-/

def words (text : List Char) : List (List Char) :=
  (text.splitOnP Unicode.isWhiteSpace).filter (!·.isEmpty)

/-- Whether a text holds nothing but white space. -/
def isBlank (text : List Char) : Bool := text.all Unicode.isWhiteSpace

@[simp]
theorem words_nil : words [] = [] := by simp [words, List.splitOnP_nil]

/-- A blank cuts the words of a text in two, whatever stands on either side. -/
theorem words_append_cons {blank : Char} (h : Unicode.isWhiteSpace blank = true)
    (left right : List Char) :
    words (left ++ blank :: right) = words left ++ words right := by
  simp [words, List.splitOnP_append_cons _ _ h]

/-- A blank in front belongs to no word. -/
theorem words_cons_blank {blank : Char} (h : Unicode.isWhiteSpace blank = true)
    (rest : List Char) : words (blank :: rest) = words rest := by
  simpa using words_append_cons h [] rest

/-! ### Occurrence -/

/-- Whether `needle` is a stretch of `text`. The empty needle is a stretch of every text. -/
def occursIn (needle : List Char) : List Char → Bool
  | [] => needle.isEmpty
  | c :: rest => needle.isPrefixOf (c :: rest) || occursIn needle rest

/-- Occurrence is being a contiguous sublist. -/
theorem occursIn_iff {needle text : List Char} : occursIn needle text = true ↔ needle <:+: text := by
  induction text with
  | nil => simp [occursIn]
  | cons c rest ih => simp [occursIn, List.infix_cons_iff, ih]

/-- Whether `text` holds `needle`. -/
def contains (text needle : String) : Bool := occursIn needle.toList text.toList

theorem contains_iff {text needle : String} :
    contains text needle = true ↔ needle.toList <:+: text.toList :=
  occursIn_iff

/-! ### Truth values and digits -/

/-- `true` or `false`. -/
def ofBool (b : Bool) : String := if b then "true" else "false"

/-- The value of a hexadecimal digit, of either case. -/
def hexDigit? (c : Char) : Option Nat :=
  if c.isDigit then some (c.toNat - 48)
  else if 'a' ≤ c ∧ c ≤ 'f' then some (c.toNat - 87)
  else if 'A' ≤ c ∧ c ≤ 'F' then some (c.toNat - 55)
  else none

end RecordSearch.Text
