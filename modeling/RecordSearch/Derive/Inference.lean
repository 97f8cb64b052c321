import RecordSearch.Derive.FieldType
import RecordSearch.Derive.Kind

/-!
What the written type of a field says about its member: whether it may be absent, and its kind. Only
the syntax is looked at, so a name is taken for the type that usually bears it.
-/
namespace RecordSearch.Derive

/-- The type inside an optional type: the first argument, if it is a type. -/
def FieldType.optionInner? : FieldType → Option FieldType
  | .applied path (.type inner _) => if path.getLast? = some "Option" then some inner else none
  | _ => none

/-- The kind of the type that a name stands for. -/
def Kind.ofTypeName (name : String) : Kind :=
  if name ∈ ["String", "str", "Cow"] then .string
  else if name ∈ ["i8", "i16", "i32", "i64", "isize", "u8", "u16", "u32", "u64", "usize"] then
    .number
  else if name ∈ ["f32", "f64"] then .float
  else if name = "bool" then .bool
  else if name ∈ ["Vec", "VecDeque", "LinkedList", "HashMap", "HashSet", "BTreeMap", "BTreeSet",
      "BinaryHeap"] then .collection
  else .text

def Kind.ofPath (path : List String) : Kind :=
  match path.getLast? with
  | some name => ofTypeName name
  | none => .text

/-- The kind of a member from the type of its field, which may be behind references, parentheses and
groups. A type that is neither a path nor a sequence says nothing. -/
def FieldType.kind? : FieldType → Option Kind
  | .named path => some (.ofPath path)
  | .applied path _ => some (.ofPath path)
  | .reference _ target => target.kind?
  | .parenthesized inner => inner.kind?
  | .group inner => inner.kind?
  | .array _ _ => some .collection
  | .slice _ => some .collection
  | .pointer _ => none
  | .tuple _ => none
  | .function => none
  | .never => none
  | .dynamic _ => none

end RecordSearch.Derive
