import RecordSearch.Text.Basic

/-!
Options of a search: which members it looks at and whether case counts. They can also be written as
a set of flags, one bit each.
-/
namespace RecordSearch

/-- Which members a search without explicit fields looks at. -/
inductive Mode where
  /-- Public, writable strings. -/
  | strict
  /-- Every public member that is not a collection. -/
  | all
  deriving DecidableEq, Repr, Inhabited

def Mode.name : Mode → String
  | strict => "strict"
  | all => "all"

/-- A set of flags, as the bits of a byte. Bits without a meaning are kept. -/
structure Flags where
  bits : UInt8
  deriving DecidableEq, Repr

namespace Flags

def empty : Flags := ⟨0⟩
def laxMode : Flags := ⟨1⟩
def ignoreCase : Flags := ⟨2⟩

/-- Whether all flags of `other` are set. -/
def contains (flags other : Flags) : Bool := flags.bits &&& other.bits == other.bits

def union (flags other : Flags) : Flags := ⟨flags.bits ||| other.bits⟩

def isEmpty (flags : Flags) : Bool := flags.bits == 0

end Flags

structure Options where
  mode : Mode
  ignoreCase : Bool
  deriving DecidableEq, Repr

namespace Options

def default : Options := ⟨.strict, false⟩

instance : Inhabited Options := ⟨default⟩

def strict (options : Options) : Options := { options with mode := .strict }

def all (options : Options) : Options := { options with mode := .all }

def withIgnoreCase (options : Options) (ignore : Bool) : Options :=
  { options with ignoreCase := ignore }

/-- A text as the options compare it. -/
def fold (options : Options) (text : String) : String :=
  if options.ignoreCase then Text.upper text else text

/-- A mode alone, with case counting. -/
def ofMode (mode : Mode) : Options := ⟨mode, false⟩

def ofFlags (flags : Flags) : Options :=
  ⟨if flags.contains .laxMode then .all else .strict, flags.contains .ignoreCase⟩

def toFlags (options : Options) : Flags :=
  let mode := if options.mode = .all then Flags.empty.union .laxMode else .empty
  if options.ignoreCase then mode.union .ignoreCase else mode

/-- Flags keep every option. -/
theorem ofFlags_toFlags (options : Options) : ofFlags options.toFlags = options := by
  obtain ⟨mode, ignore⟩ := options
  cases mode <;> cases ignore <;> decide

end Options

end RecordSearch
