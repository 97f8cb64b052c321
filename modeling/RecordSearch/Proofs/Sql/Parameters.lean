import RecordSearch.Proofs.Expr.Needles
import RecordSearch.Proofs.Source.Agreement
import RecordSearch.Proofs.Sql.Structure
import RecordSearch.Sql.Step

/-!
# Question marks and parameters

The clauses of a statement hold as many question marks as the statement has parameters, and each
stands where its parameter is sought. What a name holds cannot change that, since names are quoted.

## Main result

`runAll_inStep`: question marks and parameters stay in step over every run.

## Proof strategy

The invariant of a run is that the clauses are the translations of the predicates that have narrowed
the statement so far, in their order. All else is said of a single clause and its predicate.
-/
namespace RecordSearch

/-- The names that the columns of an expression bear, in the order in which they are written. Of the
path to a column only the last name counts, as the table that the column is of. -/
def Expr.columnNames : Expr → List String
  | param _ => []
  | member target name => (Sql.qualifier target).toList ++ [name]
  | toText inner => inner.columnNames
  | upper inner => inner.columnNames
  | isPresent inner => inner.columnNames
  | contains haystack _ => haystack.columnNames
  | and left right => left.columnNames ++ right.columnNames
  | or left right => left.columnNames ++ right.columnNames

namespace Sql

/-! ### Parameters in the place of question marks -/

/-- A token of a text whose question marks have been given their parameters. -/
inductive BoundToken where
  | plain (token : Token)
  | param (text : String)
  deriving DecidableEq, Repr

/-- Tokens with the parameters in the place of the question marks, the first in that of the first and
so on. There are as many of the ones as of the others. -/
inductive Binds : List Token → List String → List BoundToken → Prop
  | nil : Binds [] [] []
  | plain {token : Token} {tokens : List Token} {params : List String} {bound : List BoundToken}
      (other : token ≠ .mark '?') (rest : Binds tokens params bound) :
      Binds (token :: tokens) params (.plain token :: bound)
  | param {tokens : List Token} {params : List String} {bound : List BoundToken} (text : String)
      (rest : Binds tokens params bound) :
      Binds (.mark '?' :: tokens) (text :: params) (.param text :: bound)

/-- Tokens that take no parameter. -/
def plainTokens (tokens : List Token) : List BoundToken := tokens.map .plain

def encloseBound (needed : Bool) (tokens : List BoundToken) : List BoundToken :=
  if needed then plainTokens [.mark '('] ++ tokens ++ plainTokens [.mark ')'] else tokens

namespace Binds

variable {tokens tokens' : List Token} {params params' : List String}
  {bound bound' : List BoundToken}

theorem append (first : Binds tokens params bound) (second : Binds tokens' params' bound') :
    Binds (tokens ++ tokens') (params ++ params') (bound ++ bound') := by
  induction first with
  | nil => exact second
  | plain other _ ih => exact .plain other ih
  | param text _ ih => exact .param text ih

theorem ofPlain (noMark : Token.mark '?' ∉ tokens) : Binds tokens [] (plainTokens tokens) := by
  induction tokens with
  | nil => exact .nil
  | cons token rest ih =>
    rw [List.mem_cons, not_or] at noMark
    exact .plain (Ne.symm noMark.1) (ih noMark.2)

/-- What stands around tokens and takes no parameter leaves their parameters to them. -/
theorem between (before : List Token) (inner : Binds tokens params bound) (after : List Token)
    (noMark : Token.mark '?' ∉ before ++ after) :
    Binds (before ++ tokens ++ after) params (plainTokens before ++ bound ++ plainTokens after) := by
  rw [List.mem_append, not_or] at noMark
  have whole := ((ofPlain noMark.1).append inner).append (ofPlain noMark.2)
  simpa only [List.nil_append, List.append_nil] using whole

theorem enclose (inner : Binds tokens params bound) (needed : Bool) :
    Binds (encloseTokens needed tokens) params (encloseBound needed bound) := by
  cases needed with
  | false => exact inner
  | true => exact between [.mark '('] inner [.mark ')'] (by decide)

/-- There are as many question marks as parameters. -/
theorem count_eq (binds : Binds tokens params bound) :
    tokens.count (.mark '?') = params.length := by
  induction binds with
  | nil => rfl
  | plain other _ ih => rw [List.count_cons_of_ne other, ih]
  | param text _ ih => rw [List.count_cons_self, ih, List.length_cons]

end Binds

/-! ### What a tree of operators is written as -/

namespace Scalar

def isOr : Scalar → Bool
  | or _ _ => true
  | _ => false

/-- The tokens of a tree. A text that is sought for is a parameter; of the texts that are written
out only `true` and `false` remain. -/
def boundTokens : Scalar → List BoundToken
  | column none name => plainTokens [.name name]
  | column (some table) name => plainTokens [.name table, .mark '.', .name name]
  | literal text => plainTokens [.literal text]
  | integer n => plainTokens [.number n]
  | castText inner =>
    plainTokens [.word "CAST", .mark '('] ++ inner.boundTokens ++
      plainTokens [.word "AS", .word "TEXT", .mark ')']
  | upper inner =>
    plainTokens [.word "UPPER", .mark '('] ++ inner.boundTokens ++ plainTokens [.mark ')']
  | instr text (literal needle) =>
    plainTokens [.word "INSTR", .mark '('] ++ text.boundTokens ++ plainTokens [.mark ','] ++
      [.param needle] ++ plainTokens [.mark ')']
  | instr text needle =>
    plainTokens [.word "INSTR", .mark '('] ++ text.boundTokens ++ plainTokens [.mark ','] ++
      needle.boundTokens ++ plainTokens [.mark ')']
  | caseWhen test yes no =>
    plainTokens [.word "CASE", .word "WHEN"] ++ test.boundTokens ++ plainTokens [.word "THEN"] ++
      yes.boundTokens ++ plainTokens [.word "ELSE"] ++ no.boundTokens ++ plainTokens [.word "END"]
  | greater left right => left.boundTokens ++ plainTokens [.mark '>'] ++ right.boundTokens
  | notNull inner => inner.boundTokens ++ plainTokens [.word "IS", .word "NOT", .word "NULL"]
  | and left right =>
    encloseBound left.isOr left.boundTokens ++ plainTokens [.word "AND"] ++
      encloseBound right.isOr right.boundTokens
  | or left right => left.boundTokens ++ plainTokens [.word "OR"] ++ right.boundTokens

end Scalar

namespace Clause

theorem isOr_tree (clause : Clause) : clause.tree.isOr = clause.isOr := by
  cases clause <;> rfl

/-- In the text of a clause the question marks stand for what is sought for. -/
theorem binds_tokens (clause : Clause) :
    Binds clause.tokens clause.params clause.tree.boundTokens := by
  induction clause with
  | column table name =>
    cases table with
    | none => exact .plain (by simp) .nil
    | some table => exact .plain (by simp) (.plain (by simp) (.plain (by simp) .nil))
  | castText inner ih =>
    exact .between [.word "CAST", .mark '('] ih [.word "AS", .word "TEXT", .mark ')'] (by decide)
  | truthText inner ih =>
    have shown := ih.between [.word "CASE", .word "WHEN"]
      [.word "THEN", .literal "true", .word "ELSE", .literal "false", .word "END"] (by decide)
    simpa [tree, Scalar.boundTokens, tokens, params, plainTokens] using shown
  | upper inner ih => exact .between [.word "UPPER", .mark '('] ih [.mark ')'] (by decide)
  | notNull inner ih => exact .between [] ih [.word "IS", .word "NOT", .word "NULL"] (by decide)
  | holds haystack needle ih =>
    have text := ih.between [.word "INSTR", .mark '('] [.mark ','] (by decide)
    have sought : Binds [.mark '?'] [needle] [.param needle] := .param needle .nil
    have rest := sought.between [] [.mark ')', .mark '>', .number 0] (by decide)
    simpa [tree, Scalar.boundTokens, tokens, params, plainTokens] using text.append rest
  | and left right ihLeft ihRight =>
    have first := (ihLeft.enclose left.isOr).between [] [.word "AND"] (by decide)
    rw [tree, Scalar.boundTokens, isOr_tree, isOr_tree]
    exact first.append (ihRight.enclose right.isOr)
  | or left right ihLeft ihRight =>
    have first := ihLeft.between [] [.word "OR"] (by decide)
    exact first.append ihRight

/-! ### Clauses and their expressions -/

variable {schema : Schema} {placeholder : String} {e : Expr} {clause : Clause}

theorem params_shown (ty : MemberType) (value : Clause) : (shown ty value).params = value.params := by
  cases ty <;> rfl

/-- The parameters of a clause are the needles of its expression. -/
theorem Translates.params_eq (translates : Translates schema placeholder e clause) :
    clause.params = e.needles := by
  induction translates with
  | member resolves single => exact (Expr.needles_eq_nil_of_member resolves).symm
  | toText resolves hasText _ ih => exact (params_shown _ _).trans ih
  | upper _ ih => exact ih
  | isPresent _ ih => exact ih
  | contains needle _ ih => rw [params, ih, Expr.needles]
  | and _ _ ihLeft ihRight => rw [params, ihLeft, ihRight, Expr.needles]
  | or _ _ ihLeft ihRight => rw [params, ihLeft, ihRight, Expr.needles]

end Clause

def Token.name? : Token → Option String
  | name shown => some shown
  | _ => none

def namesOf (tokens : List Token) : List String := tokens.filterMap Token.name?

@[simp]
theorem namesOf_append (first second : List Token) :
    namesOf (first ++ second) = namesOf first ++ namesOf second :=
  List.filterMap_append

/-- What stands around tokens and holds no name leaves their names to them. -/
theorem namesOf_between {before after : List Token} (noneBefore : namesOf before = [])
    (inner : List Token) (noneAfter : namesOf after = []) :
    namesOf (before ++ inner ++ after) = namesOf inner := by
  rw [namesOf_append, namesOf_append, noneBefore, noneAfter, List.nil_append, List.append_nil]

theorem namesOf_encloseTokens (needed : Bool) (tokens : List Token) :
    namesOf (encloseTokens needed tokens) = namesOf tokens := by
  cases needed with
  | false => rfl
  | true =>
    have opening : namesOf [.mark '('] = [] := rfl
    exact namesOf_between opening tokens rfl

namespace Clause

variable {schema : Schema} {placeholder : String} {e : Expr} {clause : Clause}

theorem namesOf_tokens_shown (ty : MemberType) (value : Clause) :
    namesOf (shown ty value).tokens = namesOf value.tokens := by
  have cast : namesOf (castText value).tokens = namesOf value.tokens := namesOf_between rfl _ rfl
  have truth : namesOf (truthText value).tokens = namesOf value.tokens := namesOf_between rfl _ rfl
  cases ty with
  | number => exact cast
  | text => exact cast
  | bool => exact truth
  | _ => rfl

/-- The names in a clause are those that its expression has for columns. -/
theorem Translates.namesOf_tokens (translates : Translates schema placeholder e clause) :
    namesOf clause.tokens = e.columnNames := by
  -- What an operator writes beside its operands are words and marks, and `true` and `false`.
  induction translates with
  | @member target name resolved resolves single =>
    rw [Expr.columnNames]
    cases qualifier target <;> rfl
  | toText resolves hasText _ ih => exact (namesOf_tokens_shown _ _).trans ih
  | upper _ ih => exact (namesOf_between rfl _ rfl).trans ih
  | @isPresent inner value _ ih =>
    have behind : namesOf [.word "IS", .word "NOT", .word "NULL"] = [] := rfl
    rw [tokens, namesOf_append, behind, List.append_nil]
    exact ih
  | contains needle _ ih => exact (namesOf_between rfl _ rfl).trans ih
  | and _ _ ihLeft ihRight =>
    have joint : namesOf [.word "AND"] = [] := rfl
    simp only [tokens, namesOf_append, namesOf_encloseTokens, joint, ihLeft, ihRight,
      List.append_nil, Expr.columnNames]
  | or _ _ ihLeft ihRight =>
    have joint : namesOf [.word "OR"] = [] := rfl
    simp only [tokens, namesOf_append, joint, ihLeft, ihRight, List.append_nil, Expr.columnNames]

end Clause

/-! ### One step -/

variable {α : Type}

/-- The tokens of the clauses of a statement, as they are read from their texts in order. -/
def Query.clauseTokens (query : Query α) : List Token :=
  query.clauses.flatMap fun clause => lex .outside clause.text.toList

theorem Query.clauseTokens_eq (query : Query α) :
    query.clauseTokens = query.clauses.flatMap Clause.tokens :=
  List.flatMap_congr fun clause _ => (readsAs_text clause).lex_eq

/-- The clauses are the translations of the predicates, each of one. -/
def TranslatesAll (schema : Schema) (predicates : List Predicate) (clauses : List Clause) : Prop :=
  List.Forall₂ (fun p clause => Clause.Translates schema p.param p.body clause) predicates clauses

theorem TranslatesAll.params_eq {schema : Schema} {predicates : List Predicate}
    {clauses : List Clause} (translates : TranslatesAll schema predicates clauses) :
    clauses.flatMap Clause.params = predicates.flatMap fun p => p.body.needles := by
  have each := flatMap_eq_of_forall₂ translates fun p _ clause made => made.params_eq.symm
  exact each.symm

variable [Searchable α]

/-- A statement that is narrowed has the translations of the predicates for its last clauses. -/
theorem Query.narrowAll_eq_ok_iff_translatesAll {predicates : List Predicate}
    {query next : Query α} :
    narrowAll predicates query = .ok next ↔
      ∃ clauses, TranslatesAll (Searchable.schema α) predicates clauses ∧
        next = { query with clauses := query.clauses ++ clauses } := by
  rw [narrowAll_eq_ok_iff]
  simp only [Clause.ofExpr_eq_ok_iff, TranslatesAll]

namespace Step

/-- The predicates that a step asks for. -/
def predicates (schema : Schema) : Step → Except SearchError (List Predicate)
  | request asked => asked.predicates schema
  | join _ => .ok []

/-- The predicates that a step narrows a statement by, none if it fails. -/
def narrowed (step : Step) (query : Query α) : List Predicate :=
  match (step.run query).result, step.predicates (Searchable.schema α) with
  | .ok _, .ok predicates => predicates
  | _, _ => []

/-- The predicates that a run narrows a statement by, those of the steps that fail left out. -/
def narrowedBy : List Step → Query α → List Predicate
  | [], _ => []
  | step :: rest, query => step.narrowed query ++ narrowedBy rest ((step.run query).keep query)

/-- A step that succeeds adds the translations of the predicates that it asks for. -/
theorem exists_clauses_of_run {step : Step} {query next : Query α}
    (returned : (step.run query).result = .ok next) :
    ∃ asked clauses, step.predicates (Searchable.schema α) = .ok asked ∧
      TranslatesAll (Searchable.schema α) asked clauses ∧
        next.clauses = query.clauses ++ clauses := by
  cases step with
  | join clause =>
    obtain rfl := Except.ok.inj returned
    exact ⟨[], [], rfl, .nil, (List.append_nil _).symm⟩
  | request asked =>
    cases asked with
    | search text options fields =>
      obtain ⟨predicates, built, taken⟩ := compile_eq_ok_iff.mp returned
      obtain ⟨clauses, made, rfl⟩ := Query.narrowAll_eq_ok_iff_translatesAll.mp taken
      exact ⟨predicates, clauses, built, made, rfl⟩
    | narrow p =>
      have added : ((query.narrow p).result) = .ok next := returned
      rw [Query.result_narrow] at added
      obtain ⟨clause, made, rfl⟩ := map_eq_ok_iff.mp added
      exact ⟨[p], [clause], rfl, .cons (Clause.ofExpr_eq_ok_iff.mp made) .nil, rfl⟩

end Step

namespace TranslatesAll

variable {predicates : List Predicate} {query : Query α}

/-- The clauses stay the translations of what has narrowed the statement. -/
theorem step (translates : TranslatesAll (Searchable.schema α) predicates query.clauses)
    (step : Step) :
    TranslatesAll (Searchable.schema α) (predicates ++ step.narrowed query)
      ((step.run query).keep query).clauses := by
  rw [Step.narrowed, Traced.keep]
  cases returned : (step.run query).result with
  | error e =>
    -- The step is dropped, and so is what it has asked for.
    simpa using translates
  | ok next =>
    obtain ⟨asked, clauses, built, made, added⟩ := Step.exists_clauses_of_run returned
    rw [built]
    simp only [added]
    exact List.rel_append translates made

theorem run (translates : TranslatesAll (Searchable.schema α) predicates query.clauses)
    (steps : List Step) :
    TranslatesAll (Searchable.schema α) (predicates ++ Step.narrowedBy steps query)
      (Step.runAll steps query).clauses := by
  induction steps generalizing predicates query with
  | nil => simpa [Step.narrowedBy, Step.runAll] using translates
  | cons step rest ih =>
    have onward := ih (translates.step step)
    rw [List.append_assoc] at onward
    exact onward

end TranslatesAll

/-! ### Runs -/

/-- How the parameters of a statement keep in step with the question marks of its clauses, if the
given predicates have narrowed it. -/
structure InStep (predicates : List Predicate) (query : Query α) : Prop where
  clauses : query.clauses.length = predicates.length
  /-- The parameters are what the predicates search for. -/
  params : query.params = predicates.flatMap fun p => p.body.needles
  questionMarks : query.clauseTokens.count (.mark '?') = query.params.length
  /-- Every question mark stands where its parameter is sought for. -/
  bound : ∃ trees,
    List.Forall₂ (fun p tree => OperatorTree (Searchable.schema α) p.param p.body tree) predicates
        trees ∧
      Binds query.clauseTokens query.params (trees.flatMap Scalar.boundTokens)
  /-- Every name is read as the name of a member or of a joined table. -/
  names : namesOf query.clauseTokens = predicates.flatMap fun p => p.body.columnNames

theorem Binds.flatMap (clauses : List Clause) :
    Binds (clauses.flatMap Clause.tokens) (clauses.flatMap Clause.params)
      ((clauses.map Clause.tree).flatMap Scalar.boundTokens) := by
  induction clauses with
  | nil => exact .nil
  | cons clause rest ih => exact clause.binds_tokens.append ih

theorem TranslatesAll.inStep {predicates : List Predicate} {query : Query α}
    (translates : TranslatesAll (Searchable.schema α) predicates query.clauses) :
    InStep predicates query := by
  have binds := Binds.flatMap query.clauses
  rw [← Query.clauseTokens_eq] at binds
  constructor
  case clauses => exact translates.length_eq.symm
  case params => exact translates.params_eq
  case questionMarks => exact binds.count_eq
  case bound =>
    refine ⟨query.clauses.map Clause.tree, ?_, binds⟩
    rw [List.forall₂_map_right_iff]
    exact translates.imp fun p clause made =>
      (Clause.mirrors_of_ofExpr (Clause.ofExpr_eq_ok_iff.mpr made)).tree
  case names =>
    rw [Query.clauseTokens_eq, namesOf, List.filterMap_flatMap]
    have each := flatMap_eq_of_forall₂ translates fun p _ clause made => made.namesOf_tokens.symm
    exact each.symm

/-- Over every run of searches, narrowings and joins that starts from a table, the parameters of the
statement keep in step with the question marks of its clauses. -/
theorem runAll_inStep (table : String) (steps : List Step) :
    InStep (Step.narrowedBy steps (Query.ofTable table : Query α))
      (Step.runAll steps (Query.ofTable table : Query α)) := by
  have none : TranslatesAll (Searchable.schema α) [] (Query.ofTable table : Query α).clauses := .nil
  have translates := none.run steps
  rw [List.nil_append] at translates
  exact translates.inStep

end Sql

end RecordSearch
