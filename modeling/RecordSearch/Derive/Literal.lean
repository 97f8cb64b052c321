import RecordSearch.Derive.Trivia
import RecordSearch.Text.Basic
import RecordSearch.Unicode.Identifier

/-!
String literals. A literal is either escaped, between two quotes, or raw, between two quotes with
the same number of hash signs around them. An identifier may follow the closing quote as a suffix.
-/
namespace RecordSearch.Derive.Literal

def letterEscape? : Char → Option Char
  | 'n' => some '\n'
  | 'r' => some '\r'
  | 't' => some '\t'
  | '0' => some '\x00'
  | '\\' => some '\\'
  | '\'' => some '\''
  | '"' => some '"'
  | _ => none

def charOfCode? (code : Nat) : Option Char :=
  if code.isValidChar then some (Char.ofNat code) else none

/-- Where a reader is within an escaped literal. -/
inductive Place where
  /-- Between two characters. -/
  | plain
  /-- Behind a backslash. -/
  | escape
  /-- Behind the mark of a code of two digits, of which one may be read. -/
  | pair (high : Option Nat)
  /-- Behind the mark of a code in braces. -/
  | mark
  /-- Between the braces, with the value of the digits read. -/
  | braces (value : Nat)
  /-- Behind the end of a line that a backslash has joined to the next one. -/
  | joined
  deriving DecidableEq, Repr

/-- The characters of an escaped literal up to its closing quote, and what follows. -/
def escaped : Place → List Char → Option (List Char × List Char)
  | _, [] => none
  | .plain, c :: rest =>
    if c = '"' then some ([], rest)
    else if c = '\\' then escaped .escape rest
    else (escaped .plain rest).map fun found => (c :: found.1, found.2)
  | .escape, c :: rest =>
    if c = 'x' then escaped (.pair none) rest
    else if c = 'u' then escaped .mark rest
    else if c = '\n' then escaped .joined rest
    else do
      let meant ← letterEscape? c
      let found ← escaped .plain rest
      some (meant :: found.1, found.2)
  | .pair none, c :: rest => do
    let high ← Text.hexDigit? c
    escaped (.pair (some high)) rest
  | .pair (some high), c :: rest => do
    let low ← Text.hexDigit? c
    let found ← escaped .plain rest
    some (Char.ofNat (16 * high + low) :: found.1, found.2)
  | .mark, c :: rest => if c = '\x7b' then escaped (.braces 0) rest else none
  | .braces value, c :: rest =>
    if c = '\x7d' then do
      let meant ← charOfCode? value
      let found ← escaped .plain rest
      some (meant :: found.1, found.2)
    else if c = '_' then escaped (.braces value) rest
    else do
      let digit ← Text.hexDigit? c
      escaped (.braces (16 * value + digit)) rest
  | .joined, c :: rest =>
    if c = ' ' ∨ c = '\t' ∨ c = '\n' ∨ c = '\r' then escaped .joined rest
    else if c = '"' then some ([], rest)
    else if c = '\\' then escaped .escape rest
    else (escaped .plain rest).map fun found => (c :: found.1, found.2)

/-- The characters of a raw literal up to a quote with the given number of hash signs behind it, and
what follows. -/
def raw (hashes : Nat) : List Char → Option (List Char × List Char)
  | [] => none
  | c :: rest =>
    if c = '"' ∧ rest.take hashes = List.replicate hashes '#' then some ([], rest.drop hashes)
    else (raw hashes rest).map fun found => (c :: found.1, found.2)

/-- A text whose lines end in a line feed alone. -/
def joinLineEnds : List Char → List Char
  | [] => []
  | '\r' :: '\n' :: rest => '\n' :: joinLineEnds rest
  | c :: rest => c :: joinLineEnds rest

/-- The literal at the head of a text, and what follows. The lines of an escaped literal end in a
line feed, however they are written; a raw literal is kept as it is. -/
def scan : List Char → Option (List Char × List Char)
  | '"' :: rest => escaped .plain (joinLineEnds rest)
  | 'r' :: rest =>
    -- As many hash signs must close the literal as open it.
    match rest.dropWhile (· == '#') with
    | '"' :: body => raw (rest.takeWhile (· == '#')).length body
    | _ => none
  | _ => none

/-- What follows the suffix of a literal. -/
def dropSuffix : List Char → List Char
  | [] => []
  | c :: rest =>
    if Unicode.isIdentifierStart c then rest.dropWhile Unicode.isIdentifierContinue else c :: rest

/-- The string that a whole text is a literal of, if it holds no other token. -/
def string? (text : String) : Option String := do
  let (characters, rest) ← scan (Trivia.firstToken text.toList)
  if (Trivia.skip (dropSuffix rest)).isEmpty then some (String.ofList characters) else none

end RecordSearch.Derive.Literal
