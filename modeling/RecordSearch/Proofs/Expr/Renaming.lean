import RecordSearch.Expr.Eval
import RecordSearch.Proofs.Expr.Resolution

/-!
# Renaming of placeholders

An expression in which one placeholder takes the place of another means the same as before, unless
the new one was there already and is captured.

## Main results

`eval_rename`: the renamed expression evaluates to what the expression did.
`resolve_rename`: it resolves to the same type, or has the same fault.
`eq_of_mentions`: an expression that resolves mentions the placeholder of the record alone.
`rename_substitutes`: evaluation, resolution and syntax together, and where capture begins.
-/
namespace RecordSearch

/-! ### Faults -/

/-- What is wrong with an expression that does not resolve, told by its parts. -/
inductive Fault where
  | unbound (name : String)
  | notARecord (target : Expr)
  | unknownMember (target : Expr) (name : String)
  /-- A conversion of the record itself. -/
  | ofRecord (conversion : Expr)

namespace Fault

def error (schema : Schema) : Fault → SearchError
  | unbound name => .unboundParameter name
  | notARecord target => .notARecord target.text
  | unknownMember target name => .unknownMember (target.ownerName schema) name
  | ofRecord conversion => .recordNotText conversion.text

/-- The fault over another placeholder. A placeholder that is not bound keeps its name. -/
def rename (old new : String) : Fault → Fault
  | unbound name => unbound name
  | notARecord target => notARecord (target.rename old new)
  | unknownMember target name => unknownMember (target.rename old new) name
  | ofRecord conversion => ofRecord (conversion.rename old new)

end Fault

namespace Expr

/-- Whether one placeholder can take the place of another without capture: it does not occur, or is
the same. -/
def CanRename (old new : String) (e : Expr) : Prop := e.mentions new = true → new = old

variable {schema : Schema} {old new : String}

theorem canRename_and {left right : Expr} :
    (and left right).CanRename old new ↔ left.CanRename old new ∧ right.CanRename old new := by
  simp only [CanRename, mentions, Bool.or_eq_true, or_imp]

theorem canRename_or {left right : Expr} :
    (or left right).CanRename old new ↔ left.CanRename old new ∧ right.CanRename old new := by
  simp only [CanRename, mentions, Bool.or_eq_true, or_imp]

/-- Without capture the renamed placeholder is the new one exactly if it was the old one. -/
theorem rename_eq_param_iff {e : Expr} (free : e.CanRename old new) :
    e.rename old new = param new ↔ e = param old := by
  cases e with
  | param name =>
    by_cases renamed : name = old
    · simp [rename, renamed]
    · have other : name ≠ new := by
        rintro rfl
        exact renamed (free (by simp [mentions]))
      simp [rename, renamed, other]
  | _ => simp [rename]

/-! ### Evaluation -/

theorem eval_rename {e : Expr} (free : e.CanRename old new) (record : Record) :
    (e.rename old new).eval new record = e.eval old record := by
  induction e with
  | param name =>
    have same := rename_eq_param_iff free
    by_cases renamed : name = old
    · simp [rename, renamed, eval]
    · -- Any other placeholder stays, and it is not the new one.
      simp only [rename, renamed, if_false, param.injEq] at same
      simp [rename, renamed, eval, same]
  | member target name ih => simp only [rename, eval, ih free]
  | toText inner ih => simp only [rename, eval, ih free]
  | upper inner ih => simp only [rename, eval, ih free]
  | isPresent inner ih => simp only [rename, eval, ih free]
  | contains haystack needle ih => simp only [rename, eval, ih free]
  | and left right ihLeft ihRight =>
    obtain ⟨freeLeft, freeRight⟩ := canRename_and.mp free
    simp only [rename, eval, ihLeft freeLeft, ihRight freeRight]
  | or left right ihLeft ihRight =>
    obtain ⟨freeLeft, freeRight⟩ := canRename_or.mp free
    simp only [rename, eval, ihLeft freeLeft, ihRight freeRight]

/-! ### Resolution -/

/-- Two outcomes that differ at most by the placeholder in the text of an error. -/
inductive Alike (schema : Schema) (old new : String) :
    Except SearchError Resolved → Except SearchError Resolved → Prop
  | ok (resolved : Resolved) : Alike schema old new (.ok resolved) (.ok resolved)
  | error (fault : Fault) :
      Alike schema old new (.error (fault.error schema))
        (.error ((fault.rename old new).error schema))

theorem Alike.bind {x y : Except SearchError Resolved}
    {f g : Resolved → Except SearchError Resolved} (first : Alike schema old new x y)
    (next : ∀ resolved, Alike schema old new (f resolved) (g resolved)) :
    Alike schema old new (x >>= f) (y >>= g) := by
  cases first with
  | ok resolved => exact next resolved
  | error fault => exact .error fault

theorem Alike.map {x y : Except SearchError Resolved} (first : Alike schema old new x y)
    (f : Resolved → Resolved) : Alike schema old new (x.map f) (y.map f) := by
  cases first with
  | ok resolved => exact .ok (f resolved)
  | error fault => exact .error fault

theorem resolve_rename {e : Expr} (free : e.CanRename old new) :
    Alike schema old new (e.resolve schema old) ((e.rename old new).resolve schema new) := by
  -- Operators fail only where an operand does, so their outcomes are alike step by step.
  induction e with
  | param name =>
    have same := rename_eq_param_iff free
    by_cases renamed : name = old
    · simp only [rename, renamed, if_true, resolve]
      exact .ok _
    · simp only [rename, renamed, if_false, param.injEq, iff_false] at same
      simp only [rename, renamed, same, if_false, resolve]
      exact .error (.unbound name)
  | member target name ih =>
    -- The owner of a missing member is the record type for the one placeholder as for the other.
    simp only [rename, resolve]
    refine (ih free).bind fun parent => ?_
    cases parent.ty with
    | record table =>
      dsimp only
      cases findMember? (schema.members table) name with
      | none => exact .error (.unknownMember target name)
      | some found => exact .ok _
    | _ => exact .error (.notARecord target)
  | toText inner ih =>
    -- The operand is the record itself on both sides or on neither.
    rw [rename, resolve_toText, resolve_toText]
    simp only [rename_eq_param_iff (show inner.CanRename old new from free)]
    split
    · exact .error (.ofRecord (toText inner))
    · exact (ih free).map _
  | upper inner ih =>
    rw [rename, resolve_upper, resolve_upper]
    simp only [rename_eq_param_iff (show inner.CanRename old new from free)]
    split
    · exact .error (.ofRecord (upper inner))
    · exact (ih free).map _
  | isPresent inner ih => exact (ih free).bind fun _ => .ok _
  | contains haystack needle ih => exact (ih free).bind fun _ => .ok _
  | and left right ihLeft ihRight =>
    obtain ⟨freeLeft, freeRight⟩ := canRename_and.mp free
    exact (ihLeft freeLeft).bind fun _ => (ihRight freeRight).bind fun _ => .ok _
  | or left right ihLeft ihRight =>
    obtain ⟨freeLeft, freeRight⟩ := canRename_or.mp free
    exact (ihLeft freeLeft).bind fun _ => (ihRight freeRight).bind fun _ => .ok _

/-- An expression that resolves mentions no placeholder but that of the record. -/
theorem eq_of_mentions {e : Expr} {placeholder name : String} {resolved : Resolved}
    (resolves : e.resolve schema placeholder = .ok resolved) (mentioned : e.mentions name = true) :
    name = placeholder := by
  -- Every operator resolves each of its operands, so an unbound placeholder is met somewhere.
  induction e generalizing resolved with
  | param other =>
    obtain rfl : other = name := by simpa [mentions] using mentioned
    exact (resolve_param_eq_ok_iff.mp resolves).1
  | member target member ih =>
    obtain ⟨parent, -, -, inner, -⟩ := resolve_member_eq_ok_iff.mp resolves
    exact ih inner mentioned
  | toText inner ih =>
    obtain ⟨-, converted, inner, -⟩ := resolve_toText_eq_ok_iff.mp resolves
    exact ih inner mentioned
  | upper inner ih =>
    obtain ⟨-, converted, inner, -⟩ := resolve_upper_eq_ok_iff.mp resolves
    exact ih inner mentioned
  | isPresent inner ih =>
    obtain ⟨tested, inner, -⟩ := resolve_isPresent_eq_ok_iff.mp resolves
    exact ih inner mentioned
  | contains haystack needle ih =>
    obtain ⟨tested, inner, -⟩ := resolve_contains_eq_ok_iff.mp resolves
    exact ih inner mentioned
  | and left right ihLeft ihRight =>
    obtain ⟨first, second, resolvesLeft, resolvesRight, -⟩ := resolve_and_eq_ok_iff.mp resolves
    rcases Bool.or_eq_true_iff.mp mentioned with inLeft | inRight
    · exact ihLeft resolvesLeft inLeft
    · exact ihRight resolvesRight inRight
  | or left right ihLeft ihRight =>
    obtain ⟨first, second, resolvesLeft, resolvesRight, -⟩ := resolve_or_eq_ok_iff.mp resolves
    rcases Bool.or_eq_true_iff.mp mentioned with inLeft | inRight
    · exact ihLeft resolvesLeft inLeft
    · exact ihRight resolvesRight inRight

/-! ### Renaming twice -/

theorem rename_rename {e : Expr} {next : String} (free : e.CanRename old new) :
    (e.rename old new).rename new next = e.rename old next := by
  induction e with
  | param name =>
    have same := rename_eq_param_iff free
    by_cases renamed : name = old
    · simp [rename, renamed]
    · simp only [rename, renamed, if_false, param.injEq, iff_false] at same
      simp [rename, renamed, same]
  | member target name ih => simp only [rename, ih free]
  | toText inner ih => simp only [rename, ih free]
  | upper inner ih => simp only [rename, ih free]
  | isPresent inner ih => simp only [rename, ih free]
  | contains haystack needle ih => simp only [rename, ih free]
  | and left right ihLeft ihRight =>
    obtain ⟨freeLeft, freeRight⟩ := canRename_and.mp free
    simp only [rename, ihLeft freeLeft, ihRight freeRight]
  | or left right ihLeft ihRight =>
    obtain ⟨freeLeft, freeRight⟩ := canRename_or.mp free
    simp only [rename, ihLeft freeLeft, ihRight freeRight]

/-- The placeholders of a renamed expression are the others of the expression and, if the old one is
there, the new one. -/
theorem mentions_rename_iff {e : Expr} {name : String} :
    (e.rename old new).mentions name = true ↔
      e.mentions name = true ∧ name ≠ old ∨ e.mentions old = true ∧ name = new := by
  induction e with
  | param other =>
    by_cases renamed : other = old
    · -- What is renamed is the old placeholder, and becomes the new one.
      simp only [rename, renamed, if_true, mentions, beq_iff_eq, true_and]
      constructor
      · intro same
        exact Or.inr same.symm
      · rintro (⟨same, other⟩ | same)
        · exact absurd same.symm other
        · exact same.symm
    · simp only [rename, renamed, mentions, if_false, beq_iff_eq, false_and, or_false]
      exact ⟨fun same => ⟨same, fun isOld => renamed (same.trans isOld)⟩, And.left⟩
  | member target name ih => exact ih
  | toText inner ih => exact ih
  | upper inner ih => exact ih
  | isPresent inner ih => exact ih
  | contains haystack needle ih => exact ih
  | and left right ihLeft ihRight =>
    simp only [rename, mentions, Bool.or_eq_true, ihLeft, ihRight, or_and_right]
    exact or_or_or_comm
  | or left right ihLeft ihRight =>
    simp only [rename, mentions, Bool.or_eq_true, ihLeft, ihRight, or_and_right]
    exact or_or_or_comm

theorem mentions_rename (old new : String) {e : Expr} {name : String}
    (mentioned : e.mentions name = true) :
    (e.rename old new).mentions (if name = old then new else name) = true := by
  rw [mentions_rename_iff]
  split
  next same => exact Or.inr ⟨same ▸ mentioned, rfl⟩
  next other => exact Or.inl ⟨mentioned, other⟩

/-! ### Substitution -/

/-- No old placeholder is left. -/
theorem mentions_rename_old (different : old ≠ new) (e : Expr) :
    (e.rename old new).mentions old = false := by
  rw [Bool.eq_false_iff, ne_eq, mentions_rename_iff]
  rintro (⟨-, other⟩ | ⟨-, same⟩)
  · exact other rfl
  · exact different same

theorem rename_of_not_mentions {e : Expr} (absent : e.mentions old = false) :
    e.rename old new = e := by
  induction e with
  | param name =>
    have other : name ≠ old := by simpa [mentions] using absent
    rw [rename, if_neg other]
  | member target name ih => rw [rename, ih absent]
  | toText inner ih => rw [rename, ih absent]
  | upper inner ih => rw [rename, ih absent]
  | isPresent inner ih => rw [rename, ih absent]
  | contains haystack needle ih => rw [rename, ih absent]
  | and left right ihLeft ihRight =>
    obtain ⟨absentLeft, absentRight⟩ := Bool.or_eq_false_iff.mp absent
    rw [rename, ihLeft absentLeft, ihRight absentRight]
  | or left right ihLeft ihRight =>
    obtain ⟨absentLeft, absentRight⟩ := Bool.or_eq_false_iff.mp absent
    rw [rename, ihLeft absentLeft, ihRight absentRight]

/-- Renaming changes an expression exactly if the placeholder occurs and another takes its place. -/
theorem rename_eq_self_iff {e : Expr} :
    e.rename old new = e ↔ old = new ∨ e.mentions old = false := by
  constructor
  · intro unchanged
    by_cases same : old = new
    · exact Or.inl same
    · right
      rw [← unchanged]
      exact mentions_rename_old same e
  · rintro (rfl | absent)
    · exact rename_self old e
    · exact rename_of_not_mentions absent

/-- Renaming can be taken back exactly if nothing is captured. -/
theorem rename_rename_eq_self_iff {e : Expr} :
    (e.rename old new).rename new old = e ↔ e.CanRename old new := by
  constructor
  · intro restored mentioned
    by_contra different
    -- The way back leaves no new placeholder, not even one that was there at first.
    rw [← restored, mentions_rename_old different] at mentioned
    cases mentioned
  · intro free
    rw [rename_rename free, rename_self]

theorem Alike.eq_ok_iff {x y : Except SearchError Resolved} (alike : Alike schema old new x y)
    (resolved : Resolved) : y = .ok resolved ↔ x = .ok resolved := by
  cases alike with
  | ok same => exact Iff.rfl
  | error fault => simp

/-- **Substitution.** Unless a placeholder is captured, the renamed expression with the new
placeholder for the record is true of the records that the expression was true of, resolves to what
it resolved to, and can be renamed back; the last exactly then. Whatever is captured, renaming leaves
an expression as it is exactly if there is nothing to replace, and replaces every occurrence. -/
theorem rename_substitutes (old new : String) (e : Expr) :
    (e.CanRename old new →
        (∀ record, (e.rename old new).test new record = e.test old record) ∧
        ∀ schema resolved, (e.rename old new).resolve schema new = .ok resolved ↔
          e.resolve schema old = .ok resolved) ∧
      ((e.rename old new).rename new old = e ↔ e.CanRename old new) ∧
      (e.rename old new = e ↔ old = new ∨ e.mentions old = false) ∧
      (old ≠ new → (e.rename old new).mentions old = false) := by
  refine ⟨fun free => ⟨?_, ?_⟩, ?_, ?_, ?_⟩
  · intro record
    rw [test, test, eval_rename free]
  · intro schema resolved
    exact (resolve_rename free).eq_ok_iff resolved
  · exact rename_rename_eq_self_iff
  · exact rename_eq_self_iff
  · intro different
    exact mentions_rename_old different e

/-- A title or a foreign author: `x` can be renamed to `c`, but not to the foreign `y`. -/
def titleOrAuthor : Expr :=
  .or (.contains (.member (.param "x") "title") "1") (.contains (.member (.param "y") "author") "2")

theorem rename_substitutes_title :
    titleOrAuthor.CanRename "x" "c" ∧
      (∀ record, (titleOrAuthor.rename "x" "c").test "c" record = titleOrAuthor.test "x" record) ∧
      (∀ schema resolved, (titleOrAuthor.rename "x" "c").resolve schema "c" = .ok resolved ↔
        titleOrAuthor.resolve schema "x" = .ok resolved) ∧
      (titleOrAuthor.rename "x" "c").rename "c" "x" = titleOrAuthor ∧
      (titleOrAuthor.rename "x" "c").mentions "x" = false ∧
      (titleOrAuthor.rename "x" "y").rename "y" "x" ≠ titleOrAuthor := by
  have free : titleOrAuthor.CanRename "x" "c" := fun mentioned => absurd mentioned (by decide)
  obtain ⟨same, back, -, replaced⟩ := rename_substitutes "x" "c" titleOrAuthor
  obtain ⟨-, captured, -, -⟩ := rename_substitutes "x" "y" titleOrAuthor
  refine ⟨free, (same free).1, (same free).2, back.mpr free, replaced (by decide), ?_⟩
  rw [ne_eq, captured]
  intro canRename
  exact absurd (canRename rfl) (by decide)

end Expr

end RecordSearch
