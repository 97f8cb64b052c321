import RecordSearch.Expr.Eval
import RecordSearch.Expr.Resolve
import RecordSearch.Field
import RecordSearch.Selection

/-!
Predicates on records, and the predicate of one term: some candidate's text holds it. The candidates
are the explicit fields, or the eligible members if there are none. A candidate that may be absent is
guarded by a test of its presence.
-/
namespace RecordSearch

/-- A test over a placeholder. -/
structure Predicate where
  param : String
  body : Expr
  deriving DecidableEq, Repr

namespace Predicate

def accepts {α : Type} [Searchable α] (p : Predicate) (item : α) : Bool :=
  p.body.test p.param (Searchable.record item)

def text (p : Predicate) : String := p.param ++ " => " ++ p.body.text

end Predicate

/-! ### The predicate of a term -/

/-- A text to be searched, over the builder's placeholder. -/
structure Candidate where
  value : Expr
  isNullable : Bool
  deriving DecidableEq, Repr

namespace Predicate

def builtParam : String := "c"

/-- A member as a candidate; what is no string is converted. -/
def candidateOfMember (m : Member) : Candidate :=
  let value := Expr.member (.param builtParam) m.name
  ⟨if m.ty.isString then value else .toText value, m.isNullable⟩

/-- A field as a candidate, which it is only if it resolves to a string. -/
def candidateOfField (schema : Schema) (field : Field) : Except SearchError Candidate := do
  let value := field.bind builtParam
  let resolved ← value.resolve schema builtParam
  if resolved.ty.isString then return ⟨value, resolved.isNullable⟩
  else throw (.fieldNotText field.text resolved.ty.name)

/-- The candidates of a search. The first field that is none decides the error. -/
def candidates (schema : Schema) (options : Options) (fields : List Field) :
    Except SearchError (List Candidate) :=
  if fields.isEmpty then .ok ((schema.selected options.mode).map candidateOfMember)
  else fields.mapM (candidateOfField schema)

/-- The test of one candidate. The guard looks at the value before it is folded. -/
def comparison (options : Options) (term : String) (candidate : Candidate) : Expr :=
  let folded := if options.ignoreCase then Expr.upper candidate.value else candidate.value
  let test := Expr.contains folded term
  -- The guard repeats the value, and is of use only where the value can be absent.
  if candidate.isNullable then .and (.isPresent candidate.value) test else test

/-- The alternative of all tests, from the left; no tests have none. -/
def anyOf : List Expr → Option Expr
  | [] => none
  | first :: rest => some (rest.foldl .or first)

def build (schema : Schema) (options : Options) (fields : List Field) (term : String) :
    Except SearchError Predicate := do
  let found ← candidates schema options fields
  match anyOf (found.map (comparison options (options.fold term))) with
  | some body => return ⟨builtParam, body⟩
  | none => throw (.noSearchableFields schema.typeName)

end Predicate

end RecordSearch
