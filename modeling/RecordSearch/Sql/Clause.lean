import RecordSearch.Expr.Text

/-!
Conditions in SQL. A needle never enters the text of a clause: it is a parameter, and the text has a
question mark in its place.
-/
namespace RecordSearch.Sql

/-- A condition on a row, or a part of one. -/
inductive Clause where
  /-- A column, of a joined table if one is named. -/
  | column (table : Option String) (name : String)
  | castText (inner : Clause)
  /-- The text of a truth value. -/
  | truthText (inner : Clause)
  | upper (inner : Clause)
  | notNull (inner : Clause)
  | holds (haystack : Clause) (needle : String)
  | and (left right : Clause)
  | or (left right : Clause)
  deriving DecidableEq, Repr

/-- A name between double quotes; a quote in it is written twice. -/
def quoteName (name : String) : String :=
  String.ofList ('"' :: ((name.toList.flatMap fun c => if c = '"' then [c, c] else [c]) ++ ['"']))

namespace Clause

def isOr : Clause → Bool
  | or _ _ => true
  | _ => false

/-- The text of a clause. An alternative under a conjunction gets parentheses, nothing else does. -/
def text : Clause → String
  | column none name => quoteName name
  | column (some table) name => quoteName table ++ "." ++ quoteName name
  | castText inner => "CAST(" ++ inner.text ++ " AS TEXT)"
  | truthText inner => "CASE WHEN " ++ inner.text ++ " THEN 'true' ELSE 'false' END"
  | upper inner => "UPPER(" ++ inner.text ++ ")"
  | notNull inner => inner.text ++ " IS NOT NULL"
  | holds haystack _ => "instr(" ++ haystack.text ++ ", ?) > 0"
  | and left right =>
    Expr.enclose left.isOr left.text ++ " AND " ++ Expr.enclose right.isOr right.text
  | or left right => left.text ++ " OR " ++ right.text

/-- The parameters of a clause, in the order of their question marks. -/
def params : Clause → List String
  | column _ _ => []
  | castText inner => inner.params
  | truthText inner => inner.params
  | upper inner => inner.params
  | notNull inner => inner.params
  | holds haystack needle => haystack.params ++ [needle]
  | and left right => left.params ++ right.params
  | or left right => left.params ++ right.params

end Clause

end RecordSearch.Sql
