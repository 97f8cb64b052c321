/-! Why no member table can be derived. -/
namespace RecordSearch.Derive

inductive AttributeError where
  /-- Nothing stands behind the attribute's name. -/
  | argumentsMissing
  /-- A value is assigned to the attribute itself. -/
  | argumentsAssigned
  /-- An entry begins with a reserved word. -/
  | reservedWord (word : String)
  /-- The path of an entry breaks off at a reserved word. -/
  | brokenPath
  /-- An entry goes on where it should end. -/
  | commaMissing
  /-- An attribute stands in front of what an entry assigns. -/
  | nestedAttribute
  | kindGivenTwice
  | unknownKind (name : String)
  /-- A flag is a path of several segments. -/
  | qualifiedFlag
  | notText
  | unknownKey
  | unknownEntry
  deriving DecidableEq, Repr

def kindList : String := "String, Number, Float, Bool, Text, Record, Collection"

def AttributeError.message : AttributeError → String
  | argumentsMissing => "expected attribute arguments in parentheses: #[search(...)]"
  | argumentsAssigned => "expected parentheses: #[search(...)]"
  | reservedWord word => "expected identifier, found keyword `" ++ word ++ "`"
  | brokenPath => "expected path segment after `::`"
  | commaMissing => "expected `,`"
  | nestedAttribute => "unexpected attribute inside of attribute"
  | kindGivenTwice => "search type given twice"
  | unknownKind name =>
    "unknown search type: '" ++ name ++ "'. Expected one of: " ++ kindList
  | qualifiedFlag => "expected search type (" ++ kindList ++ "), skip, or readonly"
  | notText => "expected a string literal"
  | unknownKey => "unknown attribute. Expected: rename or ty"
  | unknownEntry =>
    "unknown search attribute. Expected a search type, skip, readonly, " ++
      "rename = \"...\", or ty = \"...\""

inductive DeriveError where
  | hasParameters
  /-- A struct without named fields. -/
  | noNamedFields
  | noStruct
  | badAttribute (error : AttributeError)
  /-- The type of a field without an explicit kind says nothing. -/
  | noKind
  /-- The constant for a member's name cannot be declared. -/
  | invalidConstant (constant : String)
  deriving DecidableEq, Repr

def DeriveError.message : DeriveError → String
  | hasParameters => "Searchable cannot be derived for generic structs; implement it manually"
  | noNamedFields => "Searchable can only be derived for structs with named fields"
  | noStruct => "Searchable can only be derived for structs"
  | badAttribute error => error.message
  | noKind =>
    "cannot infer a search type for this field; add #[search(<type>)] or #[search(skip)]"
  | invalidConstant constant => "the name `" ++ constant ++ "` is not an identifier"

end RecordSearch.Derive
