import RecordSearch.Proofs.Sql.Lexer

/-!
# Reading SQL conditions

The grammar of conditions, as a machine that takes one token a step. `OR` binds less tightly than
`AND`, and `AND` less than comparisons; comparisons are taken from the left. What stands in
brackets, those of a call or of a `CASE` included, is read for itself. A question mark is the next
parameter.

## Main result

`readCondition_text`: the text of a clause is read as `Clause.reading` of it.

## Proof strategy

What a clause adds to a machine that stands before an operand is a function of the clause and of the
operators that wait at this level. It is defined for every clause, also for those whose operators
take in less or more than their operands.
-/
namespace RecordSearch.Sql

inductive Scalar where
  | column (table : Option String) (name : String)
  | literal (text : String)
  | integer (n : Nat)
  | castText (inner : Scalar)
  | upper (inner : Scalar)
  | instr (text needle : Scalar)
  | caseWhen (test yes no : Scalar)
  | greater (left right : Scalar)
  | notNull (inner : Scalar)
  | and (left right : Scalar)
  | or (left right : Scalar)
  deriving DecidableEq, Repr

def joinLeft (op : Scalar → Scalar → Scalar) : Option Scalar → Scalar → Scalar
  | none, right => right
  | some left, right => op left right

/-- What has been read between the brackets that are open: the alternatives before the last `OR`,
and the conjunction between that and the last `AND`. -/
structure Level where
  alternatives : Option Scalar
  conjunction : Option Scalar

namespace Level

def empty : Level := ⟨none, none⟩

def conjoin (level : Level) (last : Scalar) : Level :=
  { level with conjunction := some (joinLeft .and level.conjunction last) }

def close (level : Level) (last : Scalar) : Scalar :=
  joinLeft .or level.alternatives (joinLeft .and level.conjunction last)

def alternate (level : Level) (last : Scalar) : Level := ⟨some (level.close last), none⟩

end Level

/-- An open bracket, with the operands that it holds already. -/
inductive Bracket where
  | group
  | castText
  | upper
  | instrText
  | instrNeedle (text : Scalar)
  | caseTest
  | caseYes (test : Scalar)
  | caseNo (test yes : Scalar)

inductive Turn where
  /-- The bracket goes on with another operand. -/
  | next (bracket : Bracket)
  /-- The bracket is complete once the given tokens have come. -/
  | shut (whole : Scalar) (expected : List Token)

/-- What a token behind the operand `last` does to a bracket. -/
def Bracket.turn : Bracket → Scalar → Token → Option Turn
  | group, last, .mark ')' => some (.shut last [])
  | castText, last, .word "AS" => some (.shut (.castText last) [.word "TEXT", .mark ')'])
  | upper, last, .mark ')' => some (.shut (.upper last) [])
  | instrText, last, .mark ',' => some (.next (.instrNeedle last))
  | instrNeedle text, last, .mark ')' => some (.shut (.instr text last) [])
  | caseTest, last, .word "THEN" => some (.next (.caseYes last))
  | caseYes test, last, .word "ELSE" => some (.next (.caseNo test last))
  | caseNo test yes, last, .word "END" => some (.shut (.caseWhen test yes last) [])
  | _, _, _ => none

inductive Phase where
  | operand
  | operator (last : Scalar)
  | bound (left : Scalar)
  | qualified (table : String)

structure Reader where
  /-- Tokens that must come next. -/
  expected : List Token
  phase : Phase
  level : Level
  /-- The open brackets, the innermost first, with what stands in front of each. -/
  brackets : List (Bracket × Level)
  params : List String

namespace Reader

def initial (params : List String) : Reader := ⟨[], .operand, .empty, [], params⟩

def push (reader : Reader) (last : Scalar) : Reader := { reader with phase := .operator last }

def openBracket (reader : Reader) (bracket : Bracket) (expected : List Token) : Reader :=
  { reader with
    expected, phase := .operand, level := .empty
    brackets := (bracket, reader.level) :: reader.brackets }

def operand (reader : Reader) : Token → Option Reader
  | .name shown => some (reader.push (.column none shown))
  | .literal shown => some (reader.push (.literal shown))
  | .number n => some (reader.push (.integer n))
  | .mark '?' =>
    match reader.params with
    | [] => none
    | param :: rest => some { reader.push (.literal param) with params := rest }
  | .mark '(' => some (reader.openBracket .group [])
  | .word "CAST" => some (reader.openBracket .castText [.mark '('])
  | .word "UPPER" => some (reader.openBracket .upper [.mark '('])
  | .word "INSTR" => some (reader.openBracket .instrText [.mark '('])
  | .word "CASE" => some (reader.openBracket .caseTest [.word "WHEN"])
  | _ => none

/-- A token that turns the innermost bracket. -/
def turn (reader : Reader) (last : Scalar) (token : Token) : Option Reader :=
  match reader.brackets with
  | [] => none
  | (bracket, outer) :: rest =>
    match bracket.turn (reader.level.close last) token with
    | none => none
    | some (.next bracket) =>
      some { reader with
        phase := .operand, level := .empty, brackets := (bracket, outer) :: rest }
    | some (.shut whole expected) =>
      some { reader with expected, phase := .operator whole, level := outer, brackets := rest }

def operator (reader : Reader) (last : Scalar) : Token → Option Reader
  | .word "OR" => some { reader with phase := .operand, level := reader.level.alternate last }
  | .word "AND" => some { reader with phase := .operand, level := reader.level.conjoin last }
  | .word "IS" => some { reader.push (.notNull last) with expected := [.word "NOT", .word "NULL"] }
  | .mark '>' => some { reader with phase := .bound last }
  | .mark '.' =>
    match last with
    | .column none table => some { reader with phase := .qualified table }
    | _ => none
  | token => reader.turn last token

def step (reader : Reader) (token : Token) : Option Reader :=
  match reader.expected with
  | next :: rest => if token = next then some { reader with expected := rest } else none
  | [] =>
    match reader.phase, token with
    | .operand, token => reader.operand token
    | .operator last, token => reader.operator last token
    | .bound left, .number n => some (reader.push (.greater left (.integer n)))
    | .bound _, _ => none
    | .qualified table, .name shown => some (reader.push (.column (some table) shown))
    | .qualified _, _ => none

/-- What has been read, if it is complete and every parameter has been used. -/
def finish : Reader → Option Scalar
  | ⟨[], .operator last, level, [], []⟩ => some (level.close last)
  | _ => none

end Reader

def readTokens (tokens : List Token) (params : List String) : Option Scalar :=
  (tokens.foldlM Reader.step (.initial params)).bind Reader.finish

def readCondition (text : String) (params : List String) : Option Scalar :=
  readTokens (lex .outside text.toList) params

/-! ### Clauses -/

def readAlone (read : Level → Level × Scalar) : Scalar := (read .empty).1.close (read .empty).2

/-- Read something in parentheses of its own if it needs them. -/
def readEnclosed (needed : Bool) (read : Level → Level × Scalar) (level : Level) : Level × Scalar :=
  if needed then (level, readAlone read) else read level

/-- What a clause makes of a level at which an operand must stand: the level, and the last operand
read there. -/
def Clause.read : Clause → Level → Level × Scalar
  | column table name, level => (level, .column table name)
  | castText inner, level => (level, .castText (readAlone inner.read))
  | truthText inner, level =>
    (level, .caseWhen (readAlone inner.read) (.literal "true") (.literal "false"))
  | upper inner, level => (level, .upper (readAlone inner.read))
  | notNull inner, level => ((inner.read level).1, .notNull (inner.read level).2)
  | holds haystack needle, level =>
    (level, .greater (.instr (readAlone haystack.read) (.literal needle)) (.integer 0))
  | and left right, level =>
    let first := readEnclosed left.isOr left.read level
    readEnclosed right.isOr right.read (first.1.conjoin first.2)
  | or left right, level =>
    let first := left.read level
    right.read (first.1.alternate first.2)

def Clause.reading (clause : Clause) : Scalar := readAlone clause.read

def Leads (tokens : List Token) (before after : Reader) : Prop :=
  tokens.foldlM Reader.step before = some after

theorem Leads.append {first second : List Token} {before between after : Reader}
    (left : Leads first before between) (right : Leads second between after) :
    Leads (first ++ second) before after := by
  rw [Leads, List.foldlM_append, left]
  exact right

/-- Tokens that are read as an operand, or as operators with a last operand, wherever one may
stand. -/
def ReadAs (tokens : List Token) (params : List String) (read : Level → Level × Scalar) : Prop :=
  ∀ (level : Level) (brackets : List (Bracket × Level)) (more : List String),
    Leads tokens ⟨[], .operand, level, brackets, params ++ more⟩
      ⟨[], .operator (read level).2, (read level).1, brackets, more⟩

/-- What stands in a bracket is read for itself: the tokens in front of it open the bracket, and
those behind it shut the bracket on the operand that is left. -/
theorem ReadAs.within {first tokens last : List Token} {params : List String}
    {read whole : Level → Level × Scalar} (inner : ReadAs tokens params read) (bracket : Bracket)
    (opens : ∀ level brackets params, Leads first ⟨[], .operand, level, brackets, params⟩
      ⟨[], .operand, .empty, (bracket, level) :: brackets, params⟩)
    (shuts : ∀ level brackets params, Leads last
      ⟨[], .operator (read .empty).2, (read .empty).1, (bracket, level) :: brackets, params⟩
      ⟨[], .operator (whole level).2, (whole level).1, brackets, params⟩) :
    ReadAs (first ++ tokens ++ last) params whole := by
  intro level brackets more
  -- The bracket keeps the level outside of it, so that its content starts from an empty one.
  have opened := opens level brackets (params ++ more)
  exact (opened.append (inner .empty _ more)).append (shuts level brackets more)

theorem ReadAs.enclose {tokens : List Token} {params : List String}
    {read : Level → Level × Scalar} (inner : ReadAs tokens params read) (needed : Bool) :
    ReadAs (encloseTokens needed tokens) params (readEnclosed needed read) := by
  cases needed with
  | false => exact inner
  | true =>
    change ReadAs ([.mark '('] ++ tokens ++ [.mark ')']) params fun level => (level, readAlone read)
    exact inner.within .group (fun _ _ _ => rfl) (fun _ _ _ => rfl)

/-- Two sides with a connective between them are read one behind the other. What the connective
makes of the level that the first leaves is the level of the second. -/
theorem ReadAs.join {first second connective : List Token} {params params' : List String}
    {read read' : Level → Level × Scalar} (left : ReadAs first params read)
    (right : ReadAs second params' read') (next : Level → Scalar → Level)
    (joins : ∀ level last brackets params, Leads connective
      ⟨[], .operator last, level, brackets, params⟩
      ⟨[], .operand, next level last, brackets, params⟩) :
    ReadAs (first ++ connective ++ second) (params ++ params')
      fun level => read' (next (read level).1 (read level).2) := by
  intro level brackets more
  rw [List.append_assoc params]
  -- The first side leaves the parameters of the second one.
  have before := left level brackets (params' ++ more)
  exact (before.append (joins _ _ brackets _)).append (right _ brackets more)

theorem readAs_tokens (clause : Clause) : ReadAs clause.tokens clause.params clause.read := by
  -- What a constructor writes itself is fixed, so that reading it is a matter of evaluation; its
  -- operands are read by the hypotheses.
  induction clause with
  | column table name =>
    intro level brackets more
    cases table <;> rfl
  | castText inner ih => exact ih.within .castText (fun _ _ _ => rfl) (fun _ _ _ => rfl)
  | truthText inner ih => exact ih.within .caseTest (fun _ _ _ => rfl) (fun _ _ _ => rfl)
  | upper inner ih => exact ih.within .upper (fun _ _ _ => rfl) (fun _ _ _ => rfl)
  | notNull inner ih =>
    -- No bracket here: the test takes in the last operand that `inner` leaves.
    intro level brackets more
    exact (ih level brackets more).append rfl
  | holds haystack needle ih =>
    intro level brackets more
    have opened : Leads [.word "INSTR", .mark '('] ⟨[], .operand, level, brackets, _⟩
        ⟨[], .operand, .empty, (.instrText, level) :: brackets,
          haystack.params ++ needle :: more⟩ := rfl
    have closed : Leads [.mark ',', .mark '?', .mark ')', .mark '>', .number 0]
        ⟨[], .operator (haystack.read .empty).2, (haystack.read .empty).1,
          (.instrText, level) :: brackets, needle :: more⟩
        ⟨[], .operator ((Clause.holds haystack needle).read level).2, level, brackets, more⟩ := rfl
    -- The tokens that shut this bracket take a parameter. The haystack uses up its own, so that the
    -- needle is the next.
    rw [Clause.params, List.append_assoc]
    exact (opened.append (ih .empty _ (needle :: more))).append closed
  | and left right ihLeft ihRight =>
    -- A side that is an `OR` is read in a level of its own, any other at the level given.
    exact (ihLeft.enclose left.isOr).join (ihRight.enclose right.isOr) .conjoin
      fun _ _ _ _ => rfl
  | or left right ihLeft ihRight => exact ihLeft.join ihRight .alternate fun _ _ _ _ => rfl

theorem readCondition_text (clause : Clause) :
    readCondition clause.text clause.params = some clause.reading := by
  -- Nothing stands around the clause, so the level it leaves is closed by the end of the text.
  have whole := readAs_tokens clause .empty [] []
  rw [List.append_nil] at whole
  rw [readCondition, (readsAs_text clause).lex_eq, readTokens, Reader.initial, whole]
  rfl

example : readCondition "\"a\" IS NOT NULL AND instr(\"a\", ?) > 0 OR instr(UPPER(\"b\"), ?) > 0"
      ["x", "Y"] =
    some (.or
      (.and (.notNull (.column none "a"))
        (.greater (.instr (.column none "a") (.literal "x")) (.integer 0)))
      (.greater (.instr (.upper (.column none "b")) (.literal "Y")) (.integer 0))) :=
  rfl

end RecordSearch.Sql
