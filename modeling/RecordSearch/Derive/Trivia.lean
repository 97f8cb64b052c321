import RecordSearch.Unicode.Basic

/-!
What may stand between the tokens of a written text and means nothing: blanks and comments. A
comment runs to the end of its line, or it is closed by a mark of its own and may hold others of
that form. A comment that documents something is a token: its opening goes on with an exclamation
mark, or with its last character once more.
-/
namespace RecordSearch.Derive.Trivia

/-- Whether a character separates tokens: white space, or a mark of the writing direction. -/
def isBlank (c : Char) : Bool := Unicode.isWhiteSpace c || c == '\u200e' || c == '\u200f'

/-- What follows a closed comment that is open, with the given number of others open in it. -/
def closeComment? : Nat → List Char → Option (List Char)
  | _, [] => none
  | depth, '/' :: '*' :: rest => closeComment? (depth + 1) rest
  | 0, '*' :: '/' :: rest => some rest
  | depth + 1, '*' :: '/' :: rest => closeComment? depth rest
  | depth, _ :: rest => closeComment? depth rest

theorem length_lt_of_closeComment? {depth : Nat} {text rest : List Char}
    (h : closeComment? depth text = some rest) : rest.length < text.length := by
  fun_induction closeComment? depth text with
  | case1 => simp at h
  | case2 _ _ ih => grind
  | case3 => grind
  | case4 _ _ ih => grind
  | case5 _ _ _ _ _ _ ih => grind

/-- Whether a comment documents something, told by the second character of its opening and by what
follows that. -/
def documents (mark : Char) : List Char → Bool
  | [] => false
  | [c] => c == '!' || c == mark
  | c :: next :: _ => c == '!' || c == mark && next != mark && next != '/'

/-- What follows the comment that a text begins with, if it is one that documents nothing. -/
def skipComment? : List Char → Option (List Char)
  | '/' :: '/' :: rest => if documents '/' rest then none else some (rest.dropWhile (· != '\n'))
  | '/' :: '*' :: rest => if documents '*' rest then none else closeComment? 0 rest
  | _ => none

theorem length_lt_of_skipComment? {text rest : List Char} (h : skipComment? text = some rest) :
    rest.length < text.length := by
  fun_cases skipComment? text with
  | case1 => simp_all [skipComment?]
  | case2 line plain =>
    have kept : (line.dropWhile (· != '\n')).length ≤ line.length :=
      (List.dropWhile_sublist _).length_le
    simp only [skipComment?, plain] at h
    grind
  | case3 => simp_all [skipComment?]
  | case4 body plain =>
    have closed : closeComment? 0 body = some rest := by simpa [skipComment?, plain] using h
    have := length_lt_of_closeComment? closed
    grind
  | case5 => simp_all [skipComment?]

/-- What follows the blanks and comments that a text begins with. -/
def skip (text : List Char) : List Char :=
  match text with
  | [] => []
  | c :: rest =>
    if isBlank c then skip rest
    else
      match _h : skipComment? (c :: rest) with
      | some behind => skip behind
      | none => c :: rest
termination_by text.length
decreasing_by
  · simp
  · exact length_lt_of_skipComment? _h

/-- The first token of a whole text and all behind it. A byte order mark may begin the text. -/
def firstToken : List Char → List Char
  | '\ufeff' :: rest => skip rest
  | text => skip text

def isTrivia (text : String) : Bool := (firstToken text.toList).isEmpty

end RecordSearch.Derive.Trivia
