import RecordSearch.Proofs.Search.Compile
import RecordSearch.Proofs.Sql.Meaning
import RecordSearch.Sql.Query

/-!
# Statements

A statement without joins is read as its table and the conjunction of its clauses, each of them read
as if it stood alone.

## Main results

`Statement.read_text`: the text of such a statement, with its parameters.
`Query.narrowAll_eq_ok_iff`: what narrowing by several predicates adds to a statement.
-/
namespace RecordSearch.Sql

/-- What a statement selects: the rows of a table that meet a condition, or all of them. -/
structure Statement where
  table : String
  condition : Option Scalar
  deriving DecidableEq, Repr

namespace Statement

def ofTokens (params : List String) : List Token → Option Statement
  | [.word "SELECT", .mark '*', .word "FROM", .name table] =>
    if params.isEmpty then some ⟨table, none⟩ else none
  | .word "SELECT" :: .mark '*' :: .word "FROM" :: .name table :: .word "WHERE" :: tokens =>
    (readTokens tokens params).map fun condition => ⟨table, some condition⟩
  | _ => none

/-- Read a statement, with the parameters for its question marks. -/
def read (text : String) (params : List String) : Option Statement :=
  ofTokens params (lex .outside text.toList)

def selects (statement : Statement) (row : Row) : Bool :=
  statement.condition.all (·.selects row)

end Statement

/-! ### The text of a statement -/

/-- The tokens of the clauses behind the first one. -/
def laterTokens (clauses : List Clause) : List Token :=
  clauses.flatMap fun clause => .word "AND" :: encloseTokens true clause.tokens

def conjunction : List Clause → Option Scalar
  | [] => none
  | clause :: rest => some ((rest.map Clause.reading).foldl .and clause.reading)

theorem all_selects_conjunction (clauses : List Clause) (row : Row) :
    (conjunction clauses).all (·.selects row) = clauses.all (·.reading.selects row) := by
  cases clauses with
  | nil => rfl
  | cons clause rest => simp [conjunction, Scalar.selects_foldl_and, Function.comp_def]

private theorem readsAs_later (clauses : List Clause) {start : String} {tokens : List Token}
    (first : ReadsAs start tokens) :
    ReadsAs (clauses.foldl (fun text next => text ++ " AND (" ++ next.text ++ ")") start)
      (tokens ++ laterTokens clauses) := by
  -- The text grows at its end, so what is read of its beginning is general.
  induction clauses generalizing start tokens with
  | nil => simpa [laterTokens] using first
  | cons clause rest ih =>
    have joint : Scans " AND (" [.word "AND", .mark '('] .outside := fun _ => rfl
    have next := (first.join (readsAs_text clause) joint fun _ => breaks_cons rfl).append
      readsAs_closing fun _ => breaks_cons rfl
    simpa [laterTokens, encloseTokens] using ih next

private theorem append_foldl (before : String) (clauses : List Clause) (start : String) :
    before ++ clauses.foldl (fun text next => text ++ " AND (" ++ next.text ++ ")") start =
      clauses.foldl (fun text next => text ++ " AND (" ++ next.text ++ ")") (before ++ start) := by
  induction clauses generalizing start with
  | nil => rfl
  | cons clause rest ih => simp only [List.foldl_cons, ih, ← String.append_assoc]

private theorem readsAs_from (table : String) :
    ReadsAs ("SELECT * FROM " ++ quoteName table)
      [.word "SELECT", .mark '*', .word "FROM", .name table] := by
  have opened : Scans "SELECT * FROM " [.word "SELECT", .mark '*', .word "FROM"] .outside :=
    fun _ => rfl
  exact opened.append (readsAs_quoteName table)

/-- The clauses behind the first one are read into the conjunction that the reader holds. -/
private theorem leads_later (clauses : List Clause) (waiting : Option Scalar) (last : Scalar) :
    ∃ waiting' last',
      Leads (laterTokens clauses)
          ⟨[], .operator last, ⟨none, waiting⟩, [], clauses.flatMap Clause.params⟩
          ⟨[], .operator last', ⟨none, waiting'⟩, [], []⟩ ∧
        joinLeft .and waiting' last' =
          (clauses.map Clause.reading).foldl .and (joinLeft .and waiting last) := by
  induction clauses generalizing waiting last with
  | nil => exact ⟨waiting, last, rfl, rfl⟩
  | cons clause rest ih =>
    -- Behind `AND` all that was read so far waits on the left of this clause.
    obtain ⟨waiting', last', later, whole⟩ := ih (some (joinLeft .and waiting last)) clause.reading
    refine ⟨waiting', last', ?_, whole⟩
    have joint : Leads [.word "AND"]
        ⟨[], .operator last, ⟨none, waiting⟩, [], (clause :: rest).flatMap Clause.params⟩
        ⟨[], .operand, ⟨none, some (joinLeft .and waiting last)⟩, [],
          clause.params ++ rest.flatMap Clause.params⟩ := rfl
    have enclosed := (readAs_tokens clause).enclose true
      ⟨none, some (joinLeft .and waiting last)⟩ [] (rest.flatMap Clause.params)
    exact (joint.append enclosed).append later

theorem Statement.read_text {α : Type} {query : Query α} (noJoins : query.joins = []) :
    read query.text query.params = some ⟨query.table, conjunction query.clauses⟩ := by
  obtain ⟨table, joins, clauses⟩ := query
  obtain rfl : joins = [] := noJoins
  cases clauses with
  | nil =>
    have text : (⟨table, [], []⟩ : Query α).text = "SELECT * FROM " ++ quoteName table :=
      String.append_empty
    rw [read, text, (readsAs_from table).lex_eq]
    rfl
  | cons clause rest =>
    have joint : Scans " WHERE (" [.word "WHERE", .mark '('] .outside := fun _ => rfl
    have first := ((readsAs_from table).join (readsAs_text clause) joint fun _ => breaks_cons rfl)
      |>.append readsAs_closing fun _ => breaks_cons rfl
    have text : (⟨table, [], clause :: rest⟩ : Query α).text =
        rest.foldl (fun text next => text ++ " AND (" ++ next.text ++ ")")
          ("SELECT * FROM " ++ quoteName table ++ " WHERE (" ++ clause.text ++ ")") := by
      change ("SELECT * FROM " ++ quoteName table) ++ Query.whereText (clause :: rest) = _
      rw [Query.whereText, append_foldl, ← String.append_assoc, ← String.append_assoc]
    have opened := (readAs_tokens clause).enclose true .empty [] (rest.flatMap Clause.params)
    obtain ⟨waiting, last, later, whole⟩ := leads_later rest none clause.reading
    have condition : readTokens (encloseTokens true clause.tokens ++ laterTokens rest)
        ((clause :: rest).flatMap Clause.params) = conjunction (clause :: rest) := by
      have led := opened.append later
      rw [readTokens]
      exact (congrArg (·.bind Reader.finish) led).trans (congrArg some whole)
    -- The tokens in front of the condition are those of the statement, whatever comes behind them.
    rw [read, text, (readsAs_later rest first).lex_eq]
    exact congrArg (Option.map fun condition => (⟨table, some condition⟩ : Statement)) condition

/-! ### Narrowing -/

namespace Query

variable {α : Type} [Searchable α]

theorem result_narrow (query : Query α) (p : Predicate) :
    (query.narrow p).result =
      (Clause.ofExpr (Searchable.schema α) p.param p.body).map query.addClause := by
  rw [narrow, Traced.result_bind, Traced.result_ofExcept]
  cases Clause.ofExpr (Searchable.schema α) p.param p.body <;> rfl

/-- Narrowing by predicates adds their clauses in order, if each has one. -/
theorem narrowAll_eq_ok_iff {predicates : List Predicate} {query next : Query α} :
    narrowAll predicates query = .ok next ↔
      ∃ clauses,
        List.Forall₂ (fun p clause =>
            Clause.ofExpr (Searchable.schema α) p.param p.body = .ok clause) predicates clauses ∧
          next = { query with clauses := query.clauses ++ clauses } := by
  induction predicates generalizing query with
  | nil =>
    simp [narrowAll, eq_comm]
  | cons p rest ih =>
    have first : (Source.narrow query p).result =
        (Clause.ofExpr (Searchable.schema α) p.param p.body).map query.addClause :=
      result_narrow query p
    rw [narrowAll_cons, first, bind_eq_ok_iff]
    -- The first clause goes behind those that are there, and the others behind it.
    constructor
    · rintro ⟨narrowed, added, onward⟩
      obtain ⟨clause, made, rfl⟩ := map_eq_ok_iff.mp added
      obtain ⟨clauses, later, rfl⟩ := ih.mp onward
      exact ⟨clause :: clauses, .cons made later, by simp [addClause]⟩
    · rintro ⟨clauses, made, rfl⟩
      cases made with
      | cons made later =>
        refine ⟨_, map_eq_ok_iff.mpr ⟨_, made, rfl⟩, ih.mpr ⟨_, later, ?_⟩⟩
        simp [addClause]

end Query

end RecordSearch.Sql
