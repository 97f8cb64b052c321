import RecordSearch.Text.Basic

/-!
Tokens of JSON texts. A string token keeps its `\u` escapes as 16-bit units, because whether they
pair up matters only where the string is read.
-/
namespace RecordSearch.Json

/-- A part of a string: a character, or a 16-bit unit from an escape. -/
inductive Piece where
  | char (c : Char)
  | unit (code : Nat)
  deriving DecidableEq, Repr

/-- The characters of a string, its units joined in pairs. A unit that should be half of a pair and
is not has no character. `lead` is the first half of a pair in progress. -/
def joinPieces : Option Nat → List Piece → Option (List Char)
  | none, [] => some []
  | some _, [] => none
  | none, .char c :: rest => (c :: ·) <$> joinPieces none rest
  | some _, .char _ :: _ => none
  | none, .unit code :: rest =>
    -- The first half of a pair waits for the second, which must not come alone.
    if 0xD800 ≤ code ∧ code < 0xDC00 then joinPieces (some code) rest
    else if 0xDC00 ≤ code ∧ code < 0xE000 then none
    else (Char.ofNat code :: ·) <$> joinPieces none rest
  | some lead, .unit code :: rest =>
    if 0xDC00 ≤ code ∧ code < 0xE000 then
      (Char.ofNat (0x10000 + (lead - 0xD800) * 0x400 + (code - 0xDC00)) :: ·) <$>
        joinPieces none rest
    else none

def Piece.text? (pieces : List Piece) : Option String := String.ofList <$> joinPieces none pieces

inductive Token where
  | openArray
  | closeArray
  | openObject
  | closeObject
  | comma
  | colon
  | null
  | bool (b : Bool)
  | number (digits : List Char)
  | string (pieces : List Piece)
  deriving DecidableEq, Repr

def shortEscape? : Char → Option Char
  | '"' => some '"'
  | '\\' => some '\\'
  | '/' => some '/'
  | 'b' => some '\x08'
  | 'f' => some '\x0c'
  | 'n' => some '\n'
  | 'r' => some '\r'
  | 't' => some '\t'
  | _ => none

/-- The pieces of a string up to its closing quote, and what follows. Control characters must be
escaped. -/
def scanString : List Char → Option (List Piece × List Char)
  | [] => none
  | '"' :: rest => some ([], rest)
  | '\\' :: 'u' :: a :: b :: c :: d :: rest => do
    let code := (← Text.hexDigit? a) * 4096 + (← Text.hexDigit? b) * 256 +
      (← Text.hexDigit? c) * 16 + (← Text.hexDigit? d)
    let (pieces, rest) ← scanString rest
    some (.unit code :: pieces, rest)
  | '\\' :: letter :: rest => do
    let c ← shortEscape? letter
    let (pieces, rest) ← scanString rest
    some (.char c :: pieces, rest)
  | c :: rest => do
    -- A backslash that comes here begins an escape that is cut off.
    if c.toNat < 0x20 ∨ c = '\\' then none
    let (pieces, rest) ← scanString rest
    some (.char c :: pieces, rest)

def scanDigits (text : List Char) : Option (List Char × List Char) :=
  match text.takeWhile Char.isDigit with
  | [] => none
  | digits => some (digits, text.dropWhile Char.isDigit)

/-- The whole part of a number: no zero in front of other digits. -/
def scanWhole (text : List Char) : Option (List Char × List Char) :=
  match scanDigits text with
  | some ('0' :: _ :: _, _) => none
  | found => found

/-- The fraction of a number, if a point follows. -/
def scanFraction : List Char → Option (List Char × List Char)
  | '.' :: rest => do
    let (digits, rest) ← scanDigits rest
    some ('.' :: digits, rest)
  | text => some ([], text)

/-- The exponent of a number, if its mark follows. -/
def scanExponent : List Char → Option (List Char × List Char)
  | mark :: text =>
    if mark = 'e' ∨ mark = 'E' then
      match text with
      | '+' :: rest => (fun found => ('e' :: found.1, found.2)) <$> scanDigits rest
      | '-' :: rest => (fun found => ('e' :: '-' :: found.1, found.2)) <$> scanDigits rest
      | rest => (fun found => ('e' :: found.1, found.2)) <$> scanDigits rest
    else some ([], mark :: text)
  | [] => some ([], [])

def scanNumber (text : List Char) : Option (List Char × List Char) := do
  let (whole, rest) ← scanWhole text
  let (fraction, rest) ← scanFraction rest
  let (exponent, rest) ← scanExponent rest
  some (whole ++ fraction ++ exponent, rest)

/-- The first token of a text that does not start with a blank, and what follows. -/
def scanToken : List Char → Option (Token × List Char)
  | '[' :: rest => some (.openArray, rest)
  | ']' :: rest => some (.closeArray, rest)
  | '\x7b' :: rest => some (.openObject, rest)
  | '\x7d' :: rest => some (.closeObject, rest)
  | ',' :: rest => some (.comma, rest)
  | ':' :: rest => some (.colon, rest)
  | 'n' :: 'u' :: 'l' :: 'l' :: rest => some (.null, rest)
  | 't' :: 'r' :: 'u' :: 'e' :: rest => some (.bool true, rest)
  | 'f' :: 'a' :: 'l' :: 's' :: 'e' :: rest => some (.bool false, rest)
  | '"' :: rest => (fun found => (.string found.1, found.2)) <$> scanString rest
  | '-' :: rest => (fun found => (.number ('-' :: found.1), found.2)) <$> scanNumber rest
  | text => (fun found => (.number found.1, found.2)) <$> scanNumber text

def isBlank (c : Char) : Bool := c == ' ' || c == '\n' || c == '\t' || c == '\r'

/-- The tokens of a text, at most `limit` of them. -/
def scanTokens : Nat → List Char → Option (List Token)
  | 0, _ => none
  | limit + 1, text =>
    match text.dropWhile isBlank with
    | [] => some []
    | text => do
      let (token, rest) ← scanToken text
      (token :: ·) <$> scanTokens limit rest

/-- The tokens of a text. Each takes a character at least, so their number is bounded. -/
def tokens? (text : List Char) : Option (List Token) := scanTokens (text.length + 1) text

end RecordSearch.Json
