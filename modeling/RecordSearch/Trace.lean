import RecordSearch.Options.Basic
import RecordSearch.Predicate

/-!
Computations that report events and may fail. The events up to a failure are kept.
-/
namespace RecordSearch

/-- What is reported while a search is compiled. -/
inductive Event where
  /-- A search begins, with the number of its terms and of its explicit fields. -/
  | compiling (terms : Nat) (options : Options) (fields : Nat)
  | narrowing (predicate : Predicate)
  /-- A predicate became a clause with so many parameters. -/
  | clauseMade (table clause : String) (params : Nat)
  deriving DecidableEq, Repr

namespace Event

/-- The level at which an event is reported. -/
def level : Event → String
  | compiling _ _ _ => "DEBUG"
  | narrowing _ => "TRACE"
  | clauseMade _ _ _ => "DEBUG"

def message : Event → String
  | compiling _ _ _ => "compiling search"
  | narrowing _ => "narrowing by term"
  | clauseMade _ _ _ => "translated predicate"

end Event

/-- A result with the events that led to it. -/
structure Traced (ε α : Type) where
  events : List Event
  result : Except ε α

namespace Traced

variable {ε α β : Type}

def ofExcept (result : Except ε α) : Traced ε α := ⟨[], result⟩

def emit (event : Event) : Traced ε Unit := ⟨[event], .ok ()⟩

protected def bind (x : Traced ε α) (f : α → Traced ε β) : Traced ε β :=
  match x.result with
  | .ok a => ⟨x.events ++ (f a).events, (f a).result⟩
  | .error e => ⟨x.events, .error e⟩

instance : Monad (Traced ε) where
  pure a := ofExcept (.ok a)
  bind := Traced.bind

@[simp]
theorem pure_eq (a : α) : (pure a : Traced ε α) = ⟨[], .ok a⟩ := rfl

@[simp]
theorem ofExcept_ok_bind (a : α) (f : α → Traced ε β) : (ofExcept (.ok a) >>= f) = f a := by
  change Traced.bind (ofExcept (.ok a)) f = f a
  simp [Traced.bind, ofExcept]

@[simp]
theorem ofExcept_error_bind (e : ε) (f : α → Traced ε β) :
    (ofExcept (.error e) >>= f) = ⟨[], .error e⟩ :=
  rfl

/-- Three computations in a row report the same events however they are grouped. -/
protected theorem bind_assoc {γ : Type} (x : Traced ε α) (f : α → Traced ε β)
    (g : β → Traced ε γ) : x >>= f >>= g = x >>= fun a => f a >>= g := by
  change Traced.bind (Traced.bind x f) g = Traced.bind x fun a => Traced.bind (f a) g
  obtain ⟨events, result⟩ := x
  cases result with
  | error e => rfl
  | ok a =>
    cases inner : (f a).result with
    | error e => simp [Traced.bind, inner]
    | ok b => simp [Traced.bind, inner]

/-- An event in front of a computation. -/
@[simp]
theorem emit_bind (event : Event) (f : Unit → Traced ε β) :
    (emit event >>= f) = ⟨event :: (f ()).events, (f ()).result⟩ :=
  rfl

end Traced

end RecordSearch
