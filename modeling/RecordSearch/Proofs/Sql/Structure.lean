import RecordSearch.Proofs.Expr.Resolution
import RecordSearch.Proofs.Sql.Grouping
import RecordSearch.Proofs.Sql.Statement
import RecordSearch.Proofs.Sql.Translation

/-!
# Operators of a predicate in its clause

An expression has a tree of operators in SQL: one for each of its own, except that the text of a
string is the string. The clause that narrows a table is read as that tree, up to the grouping of
chains, unless the predicate tests the presence of a connective.

## Main result

`readCondition_of_narrow`: what the clause of a predicate is read as.

## Proof strategy

A clause is made operator by operator, so its tree is that of the expression and it tests a
connective where the expression does. How such a clause is read is known from its tree.
-/
namespace RecordSearch

namespace Expr

def isConnective : Expr → Bool
  | and _ _ => true
  | or _ _ => true
  | _ => false

/-- Whether a presence test is of a connective. A member is asked of a record, and no operator
yields one. -/
def testsConnective : Expr → Bool
  | param _ => false
  | member _ _ => false
  | toText inner => inner.testsConnective
  | upper inner => inner.testsConnective
  | isPresent inner => inner.isConnective || inner.testsConnective
  | contains haystack _ => haystack.testsConnective
  | and left right => left.testsConnective || right.testsConnective
  | or left right => left.testsConnective || right.testsConnective

/-- A connective is a truth value. -/
theorem isConnective_of_string {schema : Schema} {placeholder : String} {e : Expr}
    {resolved : Resolved} (resolves : e.resolve schema placeholder = .ok resolved)
    (string : resolved.ty = .string) : e.isConnective = false := by
  cases e with
  | and left right =>
    obtain ⟨first, second, -, -, rfl⟩ := resolve_and_eq_ok_iff.mp resolves
    cases string
  | or left right =>
    obtain ⟨first, second, -, -, rfl⟩ := resolve_or_eq_ok_iff.mp resolves
    cases string
  | _ => rfl

end Expr

namespace Sql

/-- The text of a value of a type that has one. A string is its own text. -/
def Scalar.shown : MemberType → Scalar → Scalar
  | .string, value => value
  | .bool, value => .caseWhen value (.literal "true") (.literal "false")
  | _, value => .castText value

/-- The tree of operators that an expression has in SQL. -/
inductive OperatorTree (schema : Schema) (placeholder : String) : Expr → Scalar → Prop
  | member (target : Expr) (name : String) :
      OperatorTree schema placeholder (.member target name) (.column (qualifier target) name)
  | toText {inner : Expr} {tree : Scalar} {resolved : Resolved}
      (resolves : inner.resolve schema placeholder = .ok resolved)
      (hasText : Clause.hasText resolved.ty = true)
      (operand : OperatorTree schema placeholder inner tree) :
      OperatorTree schema placeholder (.toText inner) (tree.shown resolved.ty)
  | upper {inner : Expr} {tree : Scalar} (operand : OperatorTree schema placeholder inner tree) :
      OperatorTree schema placeholder (.upper inner) (.upper tree)
  | isPresent {inner : Expr} {tree : Scalar}
      (operand : OperatorTree schema placeholder inner tree) :
      OperatorTree schema placeholder (.isPresent inner) (.notNull tree)
  | contains {haystack : Expr} {tree : Scalar} (needle : String)
      (operand : OperatorTree schema placeholder haystack tree) :
      OperatorTree schema placeholder (.contains haystack needle)
        (.greater (.instr tree (.literal needle)) (.integer 0))
  | and {left right : Expr} {a b : Scalar} (first : OperatorTree schema placeholder left a)
      (second : OperatorTree schema placeholder right b) :
      OperatorTree schema placeholder (.and left right) (.and a b)
  | or {left right : Expr} {a b : Scalar} (first : OperatorTree schema placeholder left a)
      (second : OperatorTree schema placeholder right b) :
      OperatorTree schema placeholder (.or left right) (.or a b)

variable {schema : Schema} {placeholder : String} {e : Expr}

theorem OperatorTree.unique {a b : Scalar} (one : OperatorTree schema placeholder e a)
    (other : OperatorTree schema placeholder e b) : a = b := by
  induction one generalizing b with
  | member target name =>
    cases other
    rfl
  | toText resolves _ _ ih =>
    cases other with
    | toText resolves' _ operand =>
      obtain rfl := Except.ok.inj (resolves.symm.trans resolves')
      rw [ih operand]
  | upper _ ih =>
    cases other with
    | upper operand => rw [ih operand]
  | isPresent _ ih =>
    cases other with
    | isPresent operand => rw [ih operand]
  | contains needle _ ih =>
    cases other with
    | contains _ operand => rw [ih operand]
  | and _ _ ihLeft ihRight =>
    cases other with
    | and first second => rw [ihLeft first, ihRight second]
  | or _ _ ihLeft ihRight =>
    cases other with
    | or first second => rw [ihLeft first, ihRight second]

/-! ### The clause of an expression -/

namespace Clause

/-- What a clause shares with the expression that it was made of. -/
structure Mirrors (schema : Schema) (placeholder : String) (clause : Clause) (e : Expr) : Prop where
  tree : OperatorTree schema placeholder e clause.tree
  connective : clause.isConnective = e.isConnective
  tested : clause.testsConnective = e.testsConnective

theorem Mirrors.toText {value : Clause} {inner : Expr} {resolved : Resolved}
    (mirrors : value.Mirrors schema placeholder inner)
    (resolves : inner.resolve schema placeholder = .ok resolved)
    (hasText : hasText resolved.ty = true) :
    (shown resolved.ty value).Mirrors schema placeholder (.toText inner) := by
  have tree : (shown resolved.ty value).tree = value.tree.shown resolved.ty := by
    cases ty : resolved.ty <;> first | rfl | simp [ty, Clause.hasText] at hasText
  refine ⟨tree ▸ .toText resolves hasText mirrors.tree, ?_, ?_⟩
  · cases ty : resolved.ty with
    | string =>
      -- The clause of a string stays as it is, and that is no connective.
      exact mirrors.connective.trans (Expr.isConnective_of_string resolves ty)
    | _ => first | rfl | simp [ty, Clause.hasText] at hasText
  · refine Eq.trans ?_ mirrors.tested
    cases resolved.ty <;> rfl

theorem mirrors_of_ofExpr {clause : Clause} (made : ofExpr schema placeholder e = .ok clause) :
    clause.Mirrors schema placeholder e := by
  rw [ofExpr_eq_ok_iff] at made
  induction made with
  | member resolves single => exact ⟨.member _ _, rfl, rfl⟩
  | toText resolves hasText _ ih => exact ih.toText resolves hasText
  | upper _ ih => exact ⟨.upper ih.tree, rfl, ih.tested⟩
  | isPresent _ ih =>
    refine ⟨.isPresent ih.tree, rfl, ?_⟩
    rw [testsConnective, ih.connective, ih.tested, Expr.testsConnective]
  | contains needle _ ih => exact ⟨.contains needle ih.tree, rfl, ih.tested⟩
  | and _ _ ihLeft ihRight =>
    refine ⟨.and ihLeft.tree ihRight.tree, rfl, ?_⟩
    rw [testsConnective, ihLeft.tested, ihRight.tested, Expr.testsConnective]
  | or _ _ ihLeft ihRight =>
    refine ⟨.or ihLeft.tree ihRight.tree, rfl, ?_⟩
    rw [testsConnective, ihLeft.tested, ihRight.tested, Expr.testsConnective]

end Clause

/-! ### Narrowing -/

variable {α : Type} [Searchable α]

open Scalar (Regroups)

/-- Narrowing by a predicate adds a clause. It is read as the tree of the predicate, up to the
grouping of chains, exactly if no presence test in the predicate is of a connective. -/
theorem readCondition_of_narrow {query narrowed : Query α} {p : Predicate}
    (returned : (query.narrow p).result = .ok narrowed) :
    ∃ clause condition tree,
      narrowed = query.addClause clause ∧
        readCondition clause.text clause.params = some condition ∧
        (∀ other, OperatorTree (Searchable.schema α) p.param p.body other ↔ other = tree) ∧
        (Regroups condition tree ↔ p.body.testsConnective = false) := by
  rw [Query.result_narrow] at returned
  obtain ⟨clause, made, rfl⟩ := map_eq_ok_iff.mp returned
  -- The clause is read as its own tree or not, and that tree is the one of the predicate.
  have mirrors := Clause.mirrors_of_ofExpr made
  refine ⟨clause, clause.reading, clause.tree, rfl, readCondition_text clause, fun other => ?_, ?_⟩
  · exact ⟨fun one => one.unique mirrors.tree, fun same => same ▸ mirrors.tree⟩
  · rw [← mirrors.tested]
    exact clause.reading_regroups_iff

/-- A record with two texts. -/
structure Note where
  title : String
  body : String

instance : Searchable Note where
  schema := ⟨"Note", 0, fun _ => [.ofType "title" .string, .ofType "body" .string]⟩
  record note
    | "title" => .string note.title
    | "body" => .string note.body
    | _ => .absent

/-- There is a title, and one of the texts holds a digit. -/
def Note.titledDigit : Expr :=
  let title : Expr := .member (.param "c") "title"
  .and (.isPresent (.toText title))
    (.or (.contains title "1") (.contains (.upper (.member (.param "c") "body")) "2"))

theorem readCondition_of_narrow_note :
    ∃ (narrowed : Query Note) (clause : Clause) (condition tree : Scalar),
      ((Query.ofTable "notes" : Query Note).narrow ⟨"c", Note.titledDigit⟩).result =
          .ok narrowed ∧
        narrowed = (Query.ofTable "notes").addClause clause ∧
        readCondition clause.text clause.params = some condition ∧
        (∀ other, OperatorTree (Searchable.schema Note) "c" Note.titledDigit other ↔
          other = tree) ∧
        Regroups condition tree := by
  obtain ⟨narrowed, returned⟩ : ∃ narrowed,
      ((Query.ofTable "notes" : Query Note).narrow ⟨"c", Note.titledDigit⟩).result =
        .ok narrowed := ⟨_, rfl⟩
  obtain ⟨clause, condition, tree, added, read, meant, same⟩ := readCondition_of_narrow returned
  exact ⟨narrowed, clause, condition, tree, returned, added, read, meant, same.mpr (by decide)⟩

/-- Each text holds a digit. -/
def Note.bothDigits : Expr :=
  .and (.contains (.member (.param "c") "title") "1") (.contains (.member (.param "c") "body") "2")

/-- The test of a conjunction for presence is read as a conjunction, with a test of its last operand
alone. -/
theorem readCondition_of_narrow_bothDigits :
    ∃ (narrowed : Query Note) (clause : Clause) (title body : Scalar),
      ((Query.ofTable "notes" : Query Note).narrow ⟨"c", .isPresent Note.bothDigits⟩).result =
          .ok narrowed ∧
        narrowed = (Query.ofTable "notes").addClause clause ∧
        readCondition clause.text clause.params = some (.and title (.notNull body)) ∧
        OperatorTree (Searchable.schema Note) "c" (.isPresent Note.bothDigits)
          (.notNull (.and title body)) ∧
        ¬ Regroups (.and title (.notNull body)) (.notNull (.and title body)) := by
  refine ⟨_, .notNull (.and (.holds (.column none "title") "1") (.holds (.column none "body") "2")),
    _, _, rfl, rfl, readCondition_text _, ?_, fun same => ?_⟩
  · exact .isPresent (.and (.contains "1" (.member _ _)) (.contains "2" (.member _ _)))
  · -- Regrouping would keep the number of connectives that are tested: none and one.
    exact absurd same.testedConnectives_eq (by decide)

end Sql

end RecordSearch
