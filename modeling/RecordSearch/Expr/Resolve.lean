import RecordSearch.Error
import RecordSearch.Expr.Text
import RecordSearch.Schema

/-!
The type of an expression over a record type. Tests have the type of a declared truth value, so
one set of types serves members and expressions. A conversion to text or to upper case is accepted
of everything but the record itself; whether text comes out is left to evaluation.
-/
namespace RecordSearch

/-- The type of an expression, and whether its value may be absent. -/
structure Resolved where
  ty : MemberType
  isNullable : Bool
  deriving DecidableEq, Repr

namespace Expr

/-- What a missing member is reported to be missing in: the record type, if the member was asked of
the placeholder. -/
def ownerName (schema : Schema) : Expr → String
  | param _ => schema.typeName
  | target => target.text

/-- Resolve an expression in which `placeholder` stands for a record of the schema's type. The
first fault from the left is reported, that of a part before that of the whole. -/
def resolve (schema : Schema) (placeholder : String) : Expr → Except SearchError Resolved
  | param name =>
    if name = placeholder then .ok ⟨.record schema.root, false⟩
    else .error (.unboundParameter name)
  | member target name => do
    let parent ← target.resolve schema placeholder
    match parent.ty with
    | .record table =>
      -- A member may be absent if any record on the way to it may be.
      match findMember? (schema.members table) name with
      | some found => .ok ⟨found.ty, parent.isNullable || found.isNullable⟩
      | none => .error (.unknownMember (target.ownerName schema) name)
    | _ => .error (.notARecord target.text)
  | toText inner => do
    if inner = param placeholder then throw (.recordNotText (toText inner).text)
    let resolved ← inner.resolve schema placeholder
    return ⟨.string, resolved.isNullable⟩
  | upper inner => do
    if inner = param placeholder then throw (.recordNotText (upper inner).text)
    let resolved ← inner.resolve schema placeholder
    return ⟨.string, resolved.isNullable⟩
  | isPresent inner => do
    let _ ← inner.resolve schema placeholder
    return ⟨.bool, false⟩
  | contains haystack _ => do
    let _ ← haystack.resolve schema placeholder
    return ⟨.bool, false⟩
  | and left right => do
    let _ ← left.resolve schema placeholder
    let _ ← right.resolve schema placeholder
    return ⟨.bool, false⟩
  | or left right => do
    let _ ← left.resolve schema placeholder
    let _ ← right.resolve schema placeholder
    return ⟨.bool, false⟩

end Expr

end RecordSearch
