import RecordSearch.Number
import RecordSearch.Text.Basic
import RecordSearch.Text.Quoted

/-!
What a record answers for one of its members. A nested record is known by the text it shows and by
its own answers, so a record of any depth is a tree of functions from names to values.
-/
namespace RecordSearch

/-- A member's value, absence included. -/
inductive Value where
  | string (text : String)
  | number (n : Number)
  | bool (b : Bool)
  /-- A value known only by the text it shows. -/
  | text (shown : String)
  | record (shown : String) (field : String → Value)
  | absent

/-- A record as searches see it: the value of each member by name. -/
abbrev Record := String → Value

namespace Value

instance : Inhabited Value := ⟨absent⟩

def isAbsent : Value → Bool
  | absent => true
  | _ => false

def isString : Value → Bool
  | string _ => true
  | _ => false

def isRecord : Value → Bool
  | record _ _ => true
  | _ => false

def asString? : Value → Option String
  | string s => some s
  | _ => none

/-- The answers of a nested record. -/
def asRecord? : Value → Option Record
  | record _ field => some field
  | _ => none

/-- The text of a value; only an absent one has none. -/
def toText? : Value → Option String
  | string s => some s
  | number n => some n.text
  | bool b => some (Text.ofBool b)
  | text shown => some shown
  | record shown _ => some shown
  | absent => none

def kind : Value → String
  | string _ => "string"
  | number _ => "number"
  | bool _ => "bool"
  | text _ => "text"
  | record _ _ => "record"
  | absent => "none"

/-- A value under inspection: its kind and what it holds, texts quoted. -/
def inspect : Value → String
  | string s => "String(" ++ Text.quoted s ++ ")"
  | number n => "Number(" ++ n.inspect ++ ")"
  | bool b => "Bool(" ++ Text.ofBool b ++ ")"
  | text shown => "Text(" ++ Text.quoted shown ++ ")"
  | record shown _ => "Record(" ++ Text.quoted shown ++ ")"
  | absent => "None"

/-- Equality of values of one kind. Records and opaque values are compared by the texts they show,
numbers as `Number.same` does. -/
def same : Value → Value → Bool
  | string s, string t => s == t
  | number m, number n => m.same n
  | bool a, bool b => a == b
  | text s, text t => s == t
  | record s _, record t _ => s == t
  | absent, absent => true
  | _, _ => false

theorem toText?_eq_none_iff {v : Value} : v.toText? = none ↔ v.isAbsent = true := by
  cases v <;> simp [toText?, isAbsent]

end Value

end RecordSearch
