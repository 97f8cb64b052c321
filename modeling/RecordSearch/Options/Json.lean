import RecordSearch.Json.Tree
import RecordSearch.Options.Basic

/-!
Options in JSON. Flags are the number of their bits, a mode is its name, and options are an object
in which both members may be missing. Reading takes two more forms: a mode as an object with its
name for the only key, and options as an array of their members in order.
-/
namespace RecordSearch

open Json (Piece)

def Json.natural? (digits : List Char) : Option Nat :=
  if digits.all Char.isDigit then
    some (digits.foldl (fun value c => value * 10 + (c.toNat - 48)) 0)
  else none

/-- The flags of a number from 0 to 255, written without sign, point or exponent. -/
def Flags.ofJson? : Json → Option Flags
  | .number digits => do
    let value ← Json.natural? digits
    if value < 256 then some ⟨UInt8.ofNat value⟩ else none
  | _ => none

def Mode.ofName? (name : String) : Option Mode :=
  if name = "strict" then some .strict else if name = "all" then some .all else none

def Mode.ofJson? : Json → Option Mode
  | .string pieces => Piece.text? pieces >>= Mode.ofName?
  | .object [(key, .null)] => Piece.text? key >>= Mode.ofName?
  | _ => none

def Json.bool? : Json → Option Bool
  | .bool b => some b
  | _ => none

namespace Options

/-- The two members of options while they are read. -/
structure Given where
  mode : Option Mode
  ignoreCase : Option Bool

/-- Read one member. A member may be given once; unknown members are passed over. -/
def Given.read (given : Given) (key : List Piece) (value : Json) : Option Given := do
  let name ← Piece.text? key
  if name = "mode" then
    if given.mode.isSome then none
    let mode ← Mode.ofJson? value
    some { given with mode := some mode }
  else if name = "ignore_case" then
    if given.ignoreCase.isSome then none
    let ignore ← value.bool?
    some { given with ignoreCase := some ignore }
  else some given

/-- What was not given has its default. -/
def Given.options (given : Given) : Options :=
  ⟨given.mode.getD default.mode, given.ignoreCase.getD default.ignoreCase⟩

def ofJson? : Json → Option Options
  | .object members => do
    let given ← members.foldlM (fun (given : Given) member => given.read member.1 member.2)
      (⟨none, none⟩ : Given)
    some given.options
  | .array [] => some default
  | .array [mode] => do
    let mode ← Mode.ofJson? mode
    some ⟨mode, default.ignoreCase⟩
  | .array [mode, ignore] => do
    let mode ← Mode.ofJson? mode
    let ignore ← ignore.bool?
    some ⟨mode, ignore⟩
  | _ => none

def toJsonText (options : Options) : String :=
  "\x7b\"mode\":\"" ++ options.mode.name ++ "\",\"ignore_case\":" ++
    Text.ofBool options.ignoreCase ++ "\x7d"

end Options

def Flags.toJsonText (flags : Flags) : String := toString flags.bits.toNat

end RecordSearch
