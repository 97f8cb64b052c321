/-! The types of fields as they are written. -/
namespace RecordSearch.Derive

mutual

inductive FieldType where
  /-- A path without arguments. -/
  | named (path : List String)
  /-- A path with arguments behind its last segment; there may be none between the brackets. -/
  | applied (path : List String) (arguments : TypeArguments)
  | reference (lifetime : Option String) (target : FieldType)
  | array (item : FieldType) (length : Nat)
  | slice (item : FieldType)
  | parenthesized (inner : FieldType)
  /-- A type that is held together without being enclosed in anything visible. -/
  | group (inner : FieldType)
  | pointer (target : FieldType)
  | tuple (items : TypeArguments)
  | function
  | never
  | dynamic (bound : String)
  deriving Repr

/-- The arguments of a type, or the items of a tuple. -/
inductive TypeArguments where
  | nil
  | type (head : FieldType) (tail : TypeArguments)
  | lifetime (name : String) (tail : TypeArguments)
  deriving Repr

end

def lifetimeText (name : String) : String := "'" ++ name

namespace TypeArguments

def lifetimes : TypeArguments → List String
  | nil => []
  | type _ tail => tail.lifetimes
  | lifetime name tail => name :: tail.lifetimes

/-- Whether the last argument is a lifetime. -/
def endsInLifetime : TypeArguments → Bool
  | nil => false
  | lifetime _ nil => true
  | type _ tail => tail.endsInLifetime
  | lifetime _ tail => tail.endsInLifetime

end TypeArguments

/-- Arguments between angle brackets, given the texts of their types. Lifetimes come first. A
lifetime that was written last leaves its place behind the types, where a comma remains. -/
def bracketText (arguments : TypeArguments) (types : List String) : String :=
  let items := arguments.lifetimes.map lifetimeText ++ types
  let close := if arguments.endsInLifetime && !types.isEmpty then ",>" else ">"
  "<" ++ String.intercalate "," items ++ close

/-- Items between parentheses, a comma behind each. -/
def tupleText (items : List String) : String :=
  "(" ++ String.join (items.map (· ++ ",")) ++ ")"

mutual

/-- The text of a type, without any blank. -/
def FieldType.text : FieldType → String
  | .named path => String.intercalate "::" path
  | .applied path arguments =>
    String.intercalate "::" path ++ bracketText arguments arguments.typeTexts
  | .reference none target => "&" ++ target.text
  | .reference (some lifetime) target => "&" ++ lifetimeText lifetime ++ target.text
  | .array item length => "[" ++ item.text ++ ";" ++ toString length ++ "]"
  | .slice item => "[" ++ item.text ++ "]"
  | .parenthesized inner => "(" ++ inner.text ++ ")"
  | .group inner => inner.text
  | .pointer target => "*const" ++ target.text
  | .tuple items => tupleText items.typeTexts
  | .function => "fn()"
  | .never => "!"
  | .dynamic bound => "dyn" ++ bound

/-- The texts of the types among the arguments, in their order. -/
def TypeArguments.typeTexts : TypeArguments → List String
  | .nil => []
  | .type head tail => head.text :: tail.typeTexts
  | .lifetime _ tail => tail.typeTexts

end

end RecordSearch.Derive
