/-!
What the tables of the Unicode character data are made of: sets of code points, written as closed
ranges, and changes of case. The tables of this folder hold version 17.0 of the data, where they
name no other.
-/
namespace RecordSearch.Unicode

/-! ### Sets of code points -/

/-- Whether a code point lies in one of the ranges, ends included. -/
def inRanges (ranges : List (Nat × Nat)) (code : Nat) : Bool :=
  ranges.any fun range => range.1 ≤ code && code ≤ range.2

theorem inRanges_iff {ranges : List (Nat × Nat)} {code : Nat} :
    inRanges ranges code = true ↔ ∃ range ∈ ranges, range.1 ≤ code ∧ code ≤ range.2 := by
  simp [inRanges]

/-! ### White space -/

/-- The 25 code points with the White_Space property. -/
def whiteSpaceRanges : List (Nat × Nat) := [
  (0x9, 0xD), (0x20, 0x20), (0x85, 0x85), (0xA0, 0xA0), (0x1680, 0x1680), (0x2000, 0x200A),
  (0x2028, 0x2029), (0x202F, 0x202F), (0x205F, 0x205F), (0x3000, 0x3000)]

/-- Whether a character is a blank, which separates words. -/
def isWhiteSpace (c : Char) : Bool := inRanges whiteSpaceRanges c.toNat

/-- Every blank of the core library is one here; the table adds the blanks beyond ASCII. -/
theorem isWhiteSpace_of_isWhitespace {c : Char} (h : c.isWhitespace = true) :
    isWhiteSpace c = true := by
  simp only [Char.isWhitespace, Bool.or_eq_true, decide_eq_true_eq] at h
  rcases h with ((h | h) | h) | h <;> subst h <;> decide

/-! ### Changes of case

Most characters map one to one and their images run in step with them; a few expand into several
characters.
-/

/-- The code points `first, first + stride, …, last`, mapped to `target, target + stride, …`. -/
structure CaseRun where
  first : Nat
  last : Nat
  stride : Nat
  target : Nat

def CaseRun.covers (run : CaseRun) (code : Nat) : Bool :=
  run.first ≤ code && code ≤ run.last && (code - run.first) % run.stride == 0

/-- What a run makes of a code point that it covers. -/
def CaseRun.image (run : CaseRun) (code : Nat) : Nat := run.target + (code - run.first)

/-- A change of case: runs of single characters, and the characters that become several. -/
structure CaseTable where
  runs : List CaseRun
  expansions : List (Nat × List Nat)

/-- The characters that a table makes of one; a character in no entry stands for itself. -/
def CaseTable.image (table : CaseTable) (c : Char) : List Char :=
  match table.expansions.lookup c.toNat with
  | some codes => codes.map Char.ofNat
  | none =>
    match table.runs.find? (·.covers c.toNat) with
    | some run => [Char.ofNat (run.image c.toNat)]
    | none => [c]

end RecordSearch.Unicode
