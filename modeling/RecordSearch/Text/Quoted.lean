import RecordSearch.Unicode.GraphemeExtend
import RecordSearch.Unicode.Printable

/-!
Quoted texts, as needles and values are shown: between double quotes, with a backslash before what
would end or break the line, and the code point in braces for what has no shape of its own.
-/
namespace RecordSearch.Text

/-- The characters written with a letter of their own after the backslash. -/
def escapeLetter? : Char → Option Char
  | '\x00' => some '0'
  | '\t' => some 't'
  | '\r' => some 'r'
  | '\n' => some 'n'
  | '\\' => some '\\'
  | '"' => some '"'
  | _ => none

def escape (c : Char) : List Char :=
  match escapeLetter? c with
  | some letter => ['\\', letter]
  | none =>
    -- A joining mark is escaped too, lest it melt into the character before it.
    if Unicode.isPrintable c && !Unicode.isJoiningMark c then [c]
    else ['\\', 'u', '\x7b'] ++ Nat.toDigits 16 c.toNat ++ ['\x7d']

def quoted (text : String) : String :=
  String.ofList ('"' :: (text.toList.flatMap escape ++ ['"']))

@[simp]
theorem toList_quoted (text : String) :
    (quoted text).toList = '"' :: (text.toList.flatMap escape ++ ['"']) := by
  simp [quoted]

end RecordSearch.Text
