/-! Why a search cannot be compiled for a record type, or a predicate cannot narrow a table. -/
namespace RecordSearch

inductive SearchError where
  /-- No member is eligible. -/
  | noSearchableFields (typeName : String)
  | unknownMember (owner name : String)
  /-- A member was asked of something that is not a record. -/
  | notARecord (name : String)
  /-- An explicit field is no text. -/
  | fieldNotText (field found : String)
  /-- The record itself was used as a text. -/
  | recordNotText (expr : String)
  | unboundParameter (name : String)
  deriving DecidableEq, Repr

def SearchError.message : SearchError → String
  | noSearchableFields typeName => "could not determine searchable fields for " ++ typeName
  | unknownMember owner name => owner ++ " has no member named '" ++ name ++ "'"
  | notARecord name => "member '" ++ name ++ "' is not a nested record"
  | fieldNotText field found =>
    "field `" ++ field ++ "` evaluates to " ++ found ++ ", expected text (use `into_text`)"
  | recordNotText expr => "`" ++ expr ++ "` has no text form; name a member of the record"
  | unboundParameter name => "unbound parameter '" ++ name ++ "'"

/-! ### Narrowing a table -/

namespace Sql

inductive Reason where
  | recordText
  | floatText
  | collectionText
  deriving DecidableEq, Repr

def Reason.message : Reason → String
  | recordText => "nested records have no SQL text form"
  | floatText => "SQLite renders floats differently (`10.0`, `1.0e+20`)"
  | collectionText => "collections have no SQL text form"

inductive SqlError where
  | search (error : SearchError)
  | unsupported (expr : String) (reason : Reason)
  deriving DecidableEq, Repr

def SqlError.message : SqlError → String
  | search error => "search failed: " ++ error.message
  | unsupported expr reason => "cannot translate `" ++ expr ++ "` to SQL: " ++ reason.message

end Sql

end RecordSearch
