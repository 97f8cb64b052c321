import RecordSearch.Sql.Clause

/-!
# Tokens of SQL texts

The lexical grammar of SQL, as far as quoting decides what a character means: names between double
quotes, literals between single ones, words and numbers, and marks of one character. It is a machine
that takes one character a step. Comments are no part of it.

## Main result

`readsAs_text`: the tokens of a clause's text can be told from the clause, whatever its names hold.
-/
namespace RecordSearch.Sql

inductive Token where
  /-- A name between double quotes, which has been taken off. -/
  | name (shown : String)
  | literal (shown : String)
  /-- A word without quotes, in upper case since its case does not count. -/
  | word (letters : String)
  | number (n : Nat)
  | mark (c : Char)
  /-- A quote that is opened and never closed. -/
  | unclosed
  deriving DecidableEq, Repr

def isSpace (c : Char) : Bool := [' ', '\t', '\n', '\r', '\x0c'].contains c

def isWordChar (c : Char) : Bool := c.isAlphanum || c == '_' || c == '$' || 0x80 ≤ c.toNat

def Token.ofWord (letters : List Char) : Token :=
  if letters.all Char.isDigit then .number (Nat.ofDigitChars 10 letters 0)
  else .word (String.ofList (letters.map Char.toUpper))

/-- Where the lexer stands: between tokens, or behind the given beginning of one. -/
inductive Place where
  | outside
  | word (letters : List Char)
  | name (shown : List Char)
  /-- Behind a quote in a name, which ends the name unless it is doubled. -/
  | nameQuote (shown : List Char)
  | literal (shown : List Char)
  | literalQuote (shown : List Char)

namespace Place

def finish : Place → List Token
  | outside => []
  | word letters => [.ofWord letters]
  | nameQuote shown => [.name (String.ofList shown)]
  | literalQuote shown => [.literal (String.ofList shown)]
  | name _ => [.unclosed]
  | literal _ => [.unclosed]

/-- A character that belongs to no token before it. -/
def start (c : Char) : Place × List Token :=
  if c = '"' then (name [], [])
  else if c = '\'' then (literal [], [])
  else if isSpace c then (outside, [])
  else if isWordChar c then (word [c], [])
  else (outside, [.mark c])

/-- Where a character leads, and the tokens that it completes. -/
def step (place : Place) (c : Char) : Place × List Token :=
  -- What the character does if it does not belong to the token before it.
  let next := ((start c).1, place.finish ++ (start c).2)
  match place with
  | outside => next
  | word letters => if isWordChar c then (word (letters ++ [c]), []) else next
  | name shown => if c = '"' then (nameQuote shown, []) else (name (shown ++ [c]), [])
  | nameQuote shown => if c = '"' then (name (shown ++ [c]), []) else next
  | literal shown => if c = '\'' then (literalQuote shown, []) else (literal (shown ++ [c]), [])
  | literalQuote shown => if c = '\'' then (literal (shown ++ [c]), []) else next

/-- Whether the token before a place, if any, may end there. -/
def isSettled : Place → Bool
  | name _ => false
  | literal _ => false
  | _ => true

end Place

def lex (place : Place) : List Char → List Token
  | [] => place.finish
  | c :: rest => (place.step c).2 ++ lex (place.step c).1 rest

/-- What follows a token without belonging to it. -/
def Breaks (rest : List Char) : Prop :=
  ∀ c ∈ rest.head?, isWordChar c = false ∧ c ≠ '"' ∧ c ≠ '\''

theorem breaks_nil : Breaks [] := by simp [Breaks]

theorem breaks_cons {c : Char} {rest : List Char}
    (outside : (!isWordChar c && c != '"' && c != '\'') = true) : Breaks (c :: rest) := by
  simpa [Breaks, and_assoc] using outside

/-- A token ends where its text does if the rest does not go on with it. -/
theorem lex_settled {place : Place} (settled : place.isSettled = true) {rest : List Char}
    (breaks : Breaks rest) : lex place rest = place.finish ++ lex .outside rest := by
  cases rest with
  | nil => simp [lex, Place.finish]
  | cons c rest =>
    -- No place of a token that may end here goes on with such a character.
    obtain ⟨noWord, noQuote, noLiteral⟩ := breaks c rfl
    have stepped : place.step c = ((Place.start c).1, place.finish ++ (Place.start c).2) := by
      cases place <;> simp_all [Place.step, Place.isSettled]
    rw [lex, stepped, lex]
    simp [Place.step, Place.finish]

/-! ### Quoted names -/

private theorem lex_name (shown name rest : List Char) :
    lex (.name shown) ((name.flatMap fun c => if c = '"' then [c, c] else [c]) ++ '"' :: rest) =
      lex (.nameQuote (shown ++ name)) rest := by
  -- The name read so far is general: a doubled quote goes through `nameQuote` and back to `name`.
  induction name generalizing shown with
  | nil => simp [lex, Place.step]
  | cons c name ih =>
    by_cases quote : c = '"'
    · simp [quote, lex, Place.step, ih]
    · simp [quote, lex, Place.step, ih]

theorem toList_quoteName (name : String) :
    (quoteName name).toList =
      '"' :: ((name.toList.flatMap fun c => if c = '"' then [c, c] else [c]) ++ ['"']) := by
  simp [quoteName]

theorem lex_quoteName (name : String) {rest : List Char} (breaks : Breaks rest) :
    lex .outside ((quoteName name).toList ++ rest) = .name name :: lex .outside rest := by
  have opened : lex .outside ((quoteName name).toList ++ rest) =
      lex (.nameQuote name.toList) rest := by
    rw [toList_quoteName]
    simpa [lex, Place.step, Place.start, Place.finish] using lex_name [] name.toList rest
  -- The last quote ends the name, since no other one follows.
  rw [opened, lex_settled rfl breaks]
  simp [Place.finish]

/-! ### Clauses -/

def encloseTokens (needed : Bool) (tokens : List Token) : List Token :=
  if needed then .mark '(' :: tokens ++ [.mark ')'] else tokens

def Clause.tokens : Clause → List Token
  | column none name => [.name name]
  | column (some table) name => [.name table, .mark '.', .name name]
  | castText inner =>
    [.word "CAST", .mark '('] ++ inner.tokens ++ [.word "AS", .word "TEXT", .mark ')']
  | truthText inner =>
    [.word "CASE", .word "WHEN"] ++ inner.tokens ++
      [.word "THEN", .literal "true", .word "ELSE", .literal "false", .word "END"]
  | upper inner => [.word "UPPER", .mark '('] ++ inner.tokens ++ [.mark ')']
  | notNull inner => inner.tokens ++ [.word "IS", .word "NOT", .word "NULL"]
  | holds haystack _ =>
    [.word "INSTR", .mark '('] ++ haystack.tokens ++
      [.mark ',', .mark '?', .mark ')', .mark '>', .number 0]
  | and left right =>
    encloseTokens left.isOr left.tokens ++ [.word "AND"] ++ encloseTokens right.isOr right.tokens
  | or left right => left.tokens ++ [.word "OR"] ++ right.tokens

/-- The tokens of a text, if what stands behind it does not go on with the last of them. -/
def ReadsAs (text : String) (tokens : List Token) : Prop :=
  ∀ rest, Breaks rest → lex .outside (text.toList ++ rest) = tokens ++ lex .outside rest

theorem ReadsAs.lex_eq {text : String} {tokens : List Token} (reads : ReadsAs text tokens) :
    lex .outside text.toList = tokens := by
  simpa [lex, Place.finish] using reads [] breaks_nil

/-- The tokens that a text completes, and where it leaves the lexer. -/
def Scans (text : String) (tokens : List Token) (place : Place) : Prop :=
  ∀ rest, lex .outside (text.toList ++ rest) = tokens ++ lex place rest

variable {left joint right : String} {leftTokens jointTokens rightTokens : List Token}

theorem Scans.readsAs {place : Place} (scans : Scans left leftTokens place)
    (settled : place.isSettled = true) : ReadsAs left (leftTokens ++ place.finish) := by
  intro rest breaks
  rw [scans, lex_settled settled breaks, List.append_assoc]

theorem Scans.append (first : Scans left leftTokens .outside) (second : ReadsAs right rightTokens) :
    ReadsAs (left ++ right) (leftTokens ++ rightTokens) := by
  intro rest breaks
  rw [String.toList_append, List.append_assoc, first, second rest breaks, List.append_assoc]

theorem ReadsAs.append (first : ReadsAs left leftTokens) (second : ReadsAs right rightTokens)
    (apart : ∀ rest, Breaks (right.toList ++ rest)) :
    ReadsAs (left ++ right) (leftTokens ++ rightTokens) := by
  intro rest breaks
  rw [String.toList_append, List.append_assoc, first _ (apart rest), second rest breaks,
    List.append_assoc]

theorem ReadsAs.join (first : ReadsAs left leftTokens) (second : ReadsAs right rightTokens)
    (between : Scans joint jointTokens .outside) (apart : ∀ rest, Breaks (joint.toList ++ rest)) :
    ReadsAs (left ++ joint ++ right) (leftTokens ++ jointTokens ++ rightTokens) := by
  rw [String.append_assoc, List.append_assoc]
  refine first.append (between.append second) fun rest => ?_
  rw [String.toList_append, List.append_assoc]
  exact apart _

theorem readsAs_quoteName (name : String) : ReadsAs (quoteName name) [.name name] :=
  fun _ breaks => lex_quoteName name breaks

theorem readsAs_closing : ReadsAs ")" [.mark ')'] := by
  have closed : Scans ")" [.mark ')'] .outside := fun _ => rfl
  exact closed.readsAs rfl

theorem readsAs_enclose (inner : ReadsAs left leftTokens) (needed : Bool) :
    ReadsAs (Expr.enclose needed left) (encloseTokens needed leftTokens) := by
  cases needed with
  | false => exact inner
  | true =>
    have opened : Scans "(" [.mark '('] .outside := fun _ => rfl
    exact (opened.append inner).append readsAs_closing fun _ => breaks_cons rfl

/-- The text of a clause is read as its tokens. -/
theorem readsAs_text (clause : Clause) : ReadsAs clause.text clause.tokens := by
  -- What a constructor writes itself is fixed, so that scanning it is a matter of evaluation; its
  -- operands are read by the hypotheses.
  induction clause with
  | column table name =>
    cases table with
    | none => exact readsAs_quoteName name
    | some table =>
      have dot : Scans "." [.mark '.'] .outside := fun _ => rfl
      exact (readsAs_quoteName table).join (readsAs_quoteName name) dot fun _ => breaks_cons rfl
  | castText inner ih =>
    have opened : Scans "CAST(" [.word "CAST", .mark '('] .outside := fun _ => rfl
    have closed : Scans " AS TEXT)" [.word "AS", .word "TEXT", .mark ')'] .outside := fun _ => rfl
    exact (opened.append ih).append (closed.readsAs rfl) fun _ => breaks_cons rfl
  | truthText inner ih =>
    have opened : Scans "CASE WHEN " [.word "CASE", .word "WHEN"] .outside := fun _ => rfl
    -- The last word is still open: a letter behind it would make another word of it.
    have closed : Scans " THEN 'true' ELSE 'false' END"
        [.word "THEN", .literal "true", .word "ELSE", .literal "false"] (.word "END".toList) :=
      fun _ => rfl
    exact (opened.append ih).append (closed.readsAs rfl) fun _ => breaks_cons rfl
  | upper inner ih =>
    have opened : Scans "UPPER(" [.word "UPPER", .mark '('] .outside := fun _ => rfl
    exact (opened.append ih).append readsAs_closing fun _ => breaks_cons rfl
  | notNull inner ih =>
    have closed : Scans " IS NOT NULL" [.word "IS", .word "NOT"] (.word "NULL".toList) :=
      fun _ => rfl
    exact ih.append (closed.readsAs rfl) fun _ => breaks_cons rfl
  | holds haystack needle ih =>
    have opened : Scans "instr(" [.word "INSTR", .mark '('] .outside := fun _ => rfl
    have closed : Scans ", ?) > 0" [.mark ',', .mark '?', .mark ')', .mark '>'] (.word ['0']) :=
      fun _ => rfl
    exact (opened.append ih).append (closed.readsAs rfl) fun _ => breaks_cons rfl
  | and left right ihLeft ihRight =>
    have joint : Scans " AND " [.word "AND"] .outside := fun _ => rfl
    exact (readsAs_enclose ihLeft left.isOr).join (readsAs_enclose ihRight right.isOr) joint
      fun _ => breaks_cons rfl
  | or left right ihLeft ihRight =>
    have joint : Scans " OR " [.word "OR"] .outside := fun _ => rfl
    exact ihLeft.join ihRight joint fun _ => breaks_cons rfl

end RecordSearch.Sql
