import RecordSearch.Expr.Basic
import RecordSearch.Text.Quoted

/-!
The text of an expression, which reads like the body of a lambda. Only an alternative under a
conjunction gets parentheses.
-/
namespace RecordSearch.Expr

def isOr : Expr → Bool
  | or _ _ => true
  | _ => false

/-- A text between parentheses if it needs them. -/
def enclose (needed : Bool) (text : String) : String := if needed then "(" ++ text ++ ")" else text

def text : Expr → String
  | param name => name
  | member target name => target.text ++ "." ++ name
  | toText inner => inner.text ++ ".to_string()"
  | upper inner => inner.text ++ ".to_uppercase()"
  | isPresent inner => inner.text ++ " != null"
  | contains haystack needle => haystack.text ++ ".contains(" ++ Text.quoted needle ++ ")"
  | and left right =>
    enclose left.isOr left.text ++ " && " ++ enclose right.isOr right.text
  | or left right => left.text ++ " || " ++ right.text

end RecordSearch.Expr
