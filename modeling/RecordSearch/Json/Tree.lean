import RecordSearch.Json.Token

/-!
JSON values. Objects keep their members in order and repeated names apart; a number keeps its
digits.
-/
namespace RecordSearch

inductive Json where
  | null
  | bool (b : Bool)
  | number (digits : List Char)
  | string (pieces : List Json.Piece)
  | array (items : List Json)
  | object (members : List (List Json.Piece × Json))

namespace Json

mutual

/-- The value at the head of the tokens, and what follows. The first argument bounds the number of
steps. -/
def takeValue : Nat → List Token → Option (Json × List Token)
  | 0, _ => none
  | _ + 1, .null :: rest => some (.null, rest)
  | _ + 1, .bool b :: rest => some (.bool b, rest)
  | _ + 1, .number digits :: rest => some (.number digits, rest)
  | _ + 1, .string pieces :: rest => some (.string pieces, rest)
  | _ + 1, .openArray :: .closeArray :: rest => some (.array [], rest)
  | limit + 1, .openArray :: rest => do
    let (items, rest) ← takeItems limit rest
    some (.array items, rest)
  | _ + 1, .openObject :: .closeObject :: rest => some (.object [], rest)
  | limit + 1, .openObject :: rest => do
    let (members, rest) ← takeMembers limit rest
    some (.object members, rest)
  | _ + 1, _ => none

/-- The items of an array up to its closing bracket; at least one. -/
def takeItems : Nat → List Token → Option (List Json × List Token)
  | 0, _ => none
  | limit + 1, tokens => do
    let (item, rest) ← takeValue limit tokens
    match rest with
    | .closeArray :: rest => some ([item], rest)
    | .comma :: rest =>
      let (items, rest) ← takeItems limit rest
      some (item :: items, rest)
    | _ => none

/-- The members of an object up to its closing brace; at least one. -/
def takeMembers : Nat → List Token → Option (List (List Piece × Json) × List Token)
  | 0, _ => none
  | limit + 1, .string name :: .colon :: tokens => do
    let (value, rest) ← takeValue limit tokens
    match rest with
    | .closeObject :: rest => some ([(name, value)], rest)
    | .comma :: rest =>
      let (members, rest) ← takeMembers limit rest
      some ((name, value) :: members, rest)
    | _ => none
  | _ + 1, _ => none

end

/-- The value that a whole text holds. A token takes part in two steps at most. -/
def parse? (text : String) : Option Json := do
  let tokens ← tokens? text.toList
  match ← takeValue (2 * tokens.length + 1) tokens with
  | (value, []) => some value
  | _ => none

end Json

end RecordSearch
