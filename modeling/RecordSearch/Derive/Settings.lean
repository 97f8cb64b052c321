import RecordSearch.Derive.Error
import RecordSearch.Derive.Item
import RecordSearch.Derive.Kind

/-!
The settings that a field's attribute makes. The form of all entries is checked before the first
entry takes effect; then the entries are taken one by one, and the first that makes no sense decides
the error.
-/
namespace RecordSearch.Derive

structure Settings where
  kind : Option Kind
  skip : Bool
  readonly : Bool
  rename : Option String
  deriving DecidableEq, Repr

namespace Settings

def default : Settings := ⟨none, false, false, none⟩

/-- Words that are no names. -/
def reservedWords : List String :=
  ["_", "abstract", "as", "async", "await", "become", "box", "break", "const", "continue", "do",
    "dyn", "else", "enum", "extern", "false", "final", "fn", "for", "if", "impl", "in", "let",
    "loop", "macro", "match", "mod", "move", "mut", "override", "priv", "pub", "ref", "return",
    "static", "struct", "trait", "true", "try", "type", "typeof", "unsafe", "unsized", "use",
    "virtual", "where", "while", "yield"]

/-- Check the path of an entry. The word `unsafe` may be a path of its own; no other path has a
reserved word. -/
def checkPath : List String → Except AttributeError Unit
  | [] => .ok ()
  | "unsafe" :: rest => if rest.isEmpty then .ok () else .error .commaMissing
  | first :: rest =>
    if first ∈ reservedWords then .error (.reservedWord first)
    else if rest.any (· ∈ reservedWords) then .error .brokenPath
    else .ok ()

/-- Check the form of an entry: its path, then what it assigns. -/
def checkForm (entry : Entry) : Except AttributeError Unit := do
  checkPath entry.path
  if entry.hasAttribute then .error .nestedAttribute

def setKind (settings : Settings) (name : String) : Except AttributeError Settings :=
  match Kind.ofName? name with
  | some kind => .ok { settings with kind := some kind }
  | none => .error (.unknownKind name)

/-- Take a flag. A name that is no flag is that of a kind, which no other may precede. -/
def addFlag (settings : Settings) : List String → Except AttributeError Settings
  | ["skip"] => .ok { settings with skip := true }
  | ["readonly"] => .ok { settings with readonly := true }
  | [name] => if settings.kind.isSome then .error .kindGivenTwice else settings.setKind name
  | _ => .error .qualifiedFlag

/-- Take an assignment of a text. It replaces what was there before. -/
def assign (settings : Settings) (path : List String) (text : String) :
    Except AttributeError Settings :=
  if path = ["rename"] then .ok { settings with rename := some text }
  else if path = ["ty"] then settings.setKind text
  else .error .unknownKey

def add (settings : Settings) : Entry → Except AttributeError Settings
  | .flag path => settings.addFlag path
  | .assign path value =>
    match value.text? with
    | some text => settings.assign path text
    | none => .error .notText
  | .call _ => .error .unknownEntry

/-- The settings that a list of entries makes. -/
def ofEntries (entries : List Entry) : Except AttributeError Settings := do
  -- A fault of form in a later entry is reported before a fault of sense in an earlier one.
  entries.forM checkForm
  entries.foldlM add default

def ofArguments : Arguments → Except AttributeError Settings
  | .absent => .error .argumentsMissing
  | .assigned => .error .argumentsAssigned
  | .entries entries => ofEntries entries

/-- The settings of a field: those of its first attribute for the derivation. -/
def ofAttributes (attributes : List Attribute) : Except AttributeError Settings :=
  match attributes.find? Attribute.isSearch with
  | some found => ofArguments found.arguments
  | none => .ok default

end Settings

end RecordSearch.Derive
