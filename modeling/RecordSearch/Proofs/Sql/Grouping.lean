import RecordSearch.Proofs.Sql.Reader

/-!
# Grouping of connectives

A chain of one connective means the same however it is grouped. Conditions that differ only in this
regroup each other.

A presence test binds closely. Behind a conjunction or an alternative it takes in the last operand
alone, and the text of a clause does not put the rest in parentheses.

## Main result

`reading_regroups_iff`: the text of a clause is read as the clause, up to the grouping of chains,
exactly if no presence test in it is of a connective.

## Proof strategy

That a clause with such a test is read as something else is a matter of counting. Regrouping keeps
the number of connectives under presence tests, and reading makes it smaller.
-/
namespace RecordSearch.Sql

/-! ### Regrouping -/

namespace Scalar

/-- Conditions that differ in the grouping of chains of one connective. -/
inductive Regroups : Scalar → Scalar → Prop
  | refl (a : Scalar) : Regroups a a
  | symm {a b : Scalar} : Regroups a b → Regroups b a
  | trans {a b c : Scalar} : Regroups a b → Regroups b c → Regroups a c
  | andAssoc (a b c : Scalar) : Regroups (and (and a b) c) (and a (and b c))
  | orAssoc (a b c : Scalar) : Regroups (or (or a b) c) (or a (or b c))
  | castText {a b : Scalar} : Regroups a b → Regroups (castText a) (castText b)
  | upper {a b : Scalar} : Regroups a b → Regroups (upper a) (upper b)
  | instr {a b c d : Scalar} : Regroups a b → Regroups c d → Regroups (instr a c) (instr b d)
  | caseWhen {a b c d e f : Scalar} : Regroups a b → Regroups c d → Regroups e f →
      Regroups (caseWhen a c e) (caseWhen b d f)
  | greater {a b c d : Scalar} : Regroups a b → Regroups c d → Regroups (greater a c) (greater b d)
  | notNull {a b : Scalar} : Regroups a b → Regroups (notNull a) (notNull b)
  | and {a b c d : Scalar} : Regroups a b → Regroups c d → Regroups (and a c) (and b d)
  | or {a b c d : Scalar} : Regroups a b → Regroups c d → Regroups (or a c) (or b d)

/-- The number of connectives. -/
def connectives : Scalar → Nat
  | column _ _ => 0
  | literal _ => 0
  | integer _ => 0
  | castText inner => inner.connectives
  | upper inner => inner.connectives
  | instr text needle => text.connectives + needle.connectives
  | caseWhen test yes no => test.connectives + yes.connectives + no.connectives
  | greater left right => left.connectives + right.connectives
  | notNull inner => inner.connectives
  | and left right => left.connectives + right.connectives + 1
  | or left right => left.connectives + right.connectives + 1

/-- The number of connectives under presence tests, once for each test. -/
def testedConnectives : Scalar → Nat
  | column _ _ => 0
  | literal _ => 0
  | integer _ => 0
  | castText inner => inner.testedConnectives
  | upper inner => inner.testedConnectives
  | instr text needle => text.testedConnectives + needle.testedConnectives
  | caseWhen test yes no =>
    test.testedConnectives + yes.testedConnectives + no.testedConnectives
  | greater left right => left.testedConnectives + right.testedConnectives
  | notNull inner => inner.connectives + inner.testedConnectives
  | and left right => left.testedConnectives + right.testedConnectives
  | or left right => left.testedConnectives + right.testedConnectives

theorem Regroups.connectives_eq {a b : Scalar} (same : Regroups a b) :
    a.connectives = b.connectives := by
  induction same with
  | refl a => rfl
  | symm _ ih => exact ih.symm
  | trans _ _ first second => exact first.trans second
  | andAssoc a b c =>
    simp only [connectives]
    omega
  | orAssoc a b c =>
    simp only [connectives]
    omega
  | castText _ ih => exact ih
  | upper _ ih => exact ih
  | notNull _ ih => exact ih
  | caseWhen _ _ _ test yes no => simp only [connectives, test, yes, no]
  | instr _ _ first second => simp only [connectives, first, second]
  | greater _ _ first second => simp only [connectives, first, second]
  | and _ _ first second => simp only [connectives, first, second]
  | or _ _ first second => simp only [connectives, first, second]

theorem Regroups.testedConnectives_eq {a b : Scalar} (same : Regroups a b) :
    a.testedConnectives = b.testedConnectives := by
  induction same with
  | refl a => rfl
  | symm _ ih => exact ih.symm
  | trans _ _ first second => exact first.trans second
  | andAssoc a b c => simp only [testedConnectives, Nat.add_assoc]
  | orAssoc a b c => simp only [testedConnectives, Nat.add_assoc]
  | castText _ ih => exact ih
  | upper _ ih => exact ih
  | notNull inner ih => simp only [testedConnectives, inner.connectives_eq, ih]
  | caseWhen _ _ _ test yes no => simp only [testedConnectives, test, yes, no]
  | instr _ _ first second => simp only [testedConnectives, first, second]
  | greater _ _ first second => simp only [testedConnectives, first, second]
  | and _ _ first second => simp only [testedConnectives, first, second]
  | or _ _ first second => simp only [testedConnectives, first, second]

theorem Regroups.joinAnd {a b : Scalar} (same : Regroups a b) (before : Option Scalar) :
    Regroups (joinLeft .and before a) (joinLeft .and before b) := by
  cases before with
  | none => exact same
  | some left => exact .and (.refl left) same

theorem Regroups.joinOr {a b : Scalar} (same : Regroups a b) (before : Option Scalar) :
    Regroups (joinLeft .or before a) (joinLeft .or before b) := by
  cases before with
  | none => exact same
  | some left => exact .or (.refl left) same

theorem regroups_and_joinLeft (before : Option Scalar) (a b : Scalar) :
    Regroups (.and (joinLeft .and before a) b) (joinLeft .and before (.and a b)) := by
  cases before with
  | none => exact .refl _
  | some left => exact .andAssoc left a b

theorem regroups_or_joinLeft (before : Option Scalar) (a b : Scalar) :
    Regroups (.or (joinLeft .or before a) b) (joinLeft .or before (.or a b)) := by
  cases before with
  | none => exact .refl _
  | some left => exact .orAssoc left a b

end Scalar

open Scalar (Regroups)

namespace Clause

/-- The condition that a clause is meant to be: its operators, each with its own operands. -/
def tree : Clause → Scalar
  | column table name => .column table name
  | castText inner => .castText inner.tree
  | truthText inner => .caseWhen inner.tree (.literal "true") (.literal "false")
  | upper inner => .upper inner.tree
  | notNull inner => .notNull inner.tree
  | holds haystack needle => .greater (.instr haystack.tree (.literal needle)) (.integer 0)
  | and left right => .and left.tree right.tree
  | or left right => .or left.tree right.tree

def isConnective : Clause → Bool
  | and _ _ => true
  | or _ _ => true
  | _ => false

/-- Whether a presence test is of a connective. -/
def testsConnective : Clause → Bool
  | column _ _ => false
  | castText inner => inner.testsConnective
  | truthText inner => inner.testsConnective
  | upper inner => inner.testsConnective
  | notNull inner => inner.isConnective || inner.testsConnective
  | holds haystack _ => haystack.testsConnective
  | and left right => left.testsConnective || right.testsConnective
  | or left right => left.testsConnective || right.testsConnective

/-! ### Clauses that are read as they are meant -/

/-- How a clause is read that is read as it is meant: an operand alone, a conjunction behind the
conjunction that waits, and anything behind the alternatives that wait. -/
structure Faithful (clause : Clause) : Prop where
  operand : clause.isConnective = false → ∀ level,
    (clause.read level).1 = level ∧ Regroups (clause.read level).2 clause.tree
  conjunction : clause.isOr = false → ∀ level,
    (clause.read level).1.alternatives = level.alternatives ∧
      Regroups (joinLeft .and (clause.read level).1.conjunction (clause.read level).2)
        (joinLeft .and level.conjunction clause.tree)
  alternative : ∀ before,
    Regroups ((clause.read ⟨before, none⟩).1.close (clause.read ⟨before, none⟩).2)
      (joinLeft .or before clause.tree)

theorem Faithful.alone {clause : Clause} (faithful : clause.Faithful) :
    Regroups (readAlone clause.read) clause.tree :=
  faithful.alternative none

private theorem alternative_of_conjunction {clause : Clause}
    (conjunction : ∀ level, (clause.read level).1.alternatives = level.alternatives ∧
      Regroups (joinLeft .and (clause.read level).1.conjunction (clause.read level).2)
        (joinLeft .and level.conjunction clause.tree)) (before : Option Scalar) :
    Regroups ((clause.read ⟨before, none⟩).1.close (clause.read ⟨before, none⟩).2)
      (joinLeft .or before clause.tree) := by
  obtain ⟨kept, same⟩ := conjunction ⟨before, none⟩
  rw [Level.close, kept]
  exact same.joinOr before

private theorem faithful_of_operand {clause : Clause}
    (operand : ∀ level, (clause.read level).1 = level ∧
      Regroups (clause.read level).2 clause.tree) : clause.Faithful := by
  have conjunction (level : Level) : (clause.read level).1.alternatives = level.alternatives ∧
      Regroups (joinLeft .and (clause.read level).1.conjunction (clause.read level).2)
        (joinLeft .and level.conjunction clause.tree) := by
    obtain ⟨kept, same⟩ := operand level
    rw [kept]
    exact ⟨rfl, same.joinAnd level.conjunction⟩
  exact ⟨fun _ => operand, fun _ => conjunction, alternative_of_conjunction conjunction⟩

/-- An operand of a conjunction, in parentheses if it is an alternative. -/
private theorem Faithful.enclosed {clause : Clause} (faithful : clause.Faithful) (level : Level) :
    (readEnclosed clause.isOr clause.read level).1.alternatives = level.alternatives ∧
      Regroups (joinLeft .and (readEnclosed clause.isOr clause.read level).1.conjunction
          (readEnclosed clause.isOr clause.read level).2)
        (joinLeft .and level.conjunction clause.tree) := by
  cases isOr : clause.isOr with
  | true => exact ⟨rfl, faithful.alone.joinAnd level.conjunction⟩
  | false => exact faithful.conjunction isOr level

theorem faithful_of_testsConnective {clause : Clause} (plain : clause.testsConnective = false) :
    clause.Faithful := by
  induction clause with
  | column table name => exact faithful_of_operand fun level => ⟨rfl, .refl _⟩
  | castText inner ih => exact faithful_of_operand fun level => ⟨rfl, .castText (ih plain).alone⟩
  | truthText inner ih =>
    exact faithful_of_operand fun level =>
      ⟨rfl, .caseWhen (ih plain).alone (.refl _) (.refl _)⟩
  | upper inner ih => exact faithful_of_operand fun level => ⟨rfl, .upper (ih plain).alone⟩
  | notNull inner ih =>
    -- What is tested is no connective, so it is the last operand that the test takes in.
    obtain ⟨single, plain⟩ := Bool.or_eq_false_iff.mp plain
    refine faithful_of_operand fun level => ?_
    obtain ⟨kept, same⟩ := (ih plain).operand single level
    exact ⟨kept, .notNull same⟩
  | holds haystack needle ih =>
    exact faithful_of_operand fun level =>
      ⟨rfl, .greater (.instr (ih plain).alone (.refl _)) (.refl _)⟩
  | and left right ihLeft ihRight =>
    obtain ⟨plainLeft, plainRight⟩ := Bool.or_eq_false_iff.mp plain
    have conjunction (level : Level) :
        ((and left right).read level).1.alternatives = level.alternatives ∧
          Regroups (joinLeft .and ((and left right).read level).1.conjunction
              ((and left right).read level).2)
            (joinLeft .and level.conjunction (and left right).tree) := by
      obtain ⟨keptLeft, sameLeft⟩ := (ihLeft plainLeft).enclosed level
      -- The left side, with all that waits, is the conjunction in front of the right side.
      obtain ⟨keptRight, sameRight⟩ := (ihRight plainRight).enclosed
        ((readEnclosed left.isOr left.read level).1.conjoin
          (readEnclosed left.isOr left.read level).2)
      refine ⟨keptRight.trans keptLeft, sameRight.trans ?_⟩
      exact (Regroups.and sameLeft (.refl _)).trans (Scalar.regroups_and_joinLeft _ _ _)
    exact ⟨nofun, fun _ => conjunction, alternative_of_conjunction conjunction⟩
  | or left right ihLeft ihRight =>
    obtain ⟨plainLeft, plainRight⟩ := Bool.or_eq_false_iff.mp plain
    refine ⟨nofun, nofun, fun before => ?_⟩
    have sameRight := (ihRight plainRight).alternative
      (some ((left.read ⟨before, none⟩).1.close (left.read ⟨before, none⟩).2))
    refine sameRight.trans ?_
    exact (Regroups.or ((ihLeft plainLeft).alternative before) (.refl _)).trans
      (Scalar.regroups_or_joinLeft _ _ _)

end Clause

/-! ### Counting connectives -/

namespace Level

/-- The connectives of what has been read, with the one behind each waiting side. -/
def connectives (level : Level) : Nat :=
  level.alternatives.elim 0 (·.connectives + 1) + level.conjunction.elim 0 (·.connectives + 1)

/-- The connectives under presence tests in what has been read. -/
def testedConnectives (level : Level) : Nat :=
  level.alternatives.elim 0 (·.testedConnectives) + level.conjunction.elim 0 (·.testedConnectives)

@[simp]
theorem connectives_close (level : Level) (last : Scalar) :
    (level.close last).connectives = level.connectives + last.connectives := by
  obtain ⟨alternatives, conjunction⟩ := level
  cases alternatives <;> cases conjunction <;>
    simp [close, joinLeft, connectives, Scalar.connectives] <;> omega

@[simp]
theorem connectives_conjoin (level : Level) (last : Scalar) :
    (level.conjoin last).connectives = level.connectives + last.connectives + 1 := by
  obtain ⟨alternatives, conjunction⟩ := level
  cases conjunction <;> simp [conjoin, joinLeft, connectives, Scalar.connectives] <;> omega

@[simp]
theorem connectives_alternate (level : Level) (last : Scalar) :
    (level.alternate last).connectives = level.connectives + last.connectives + 1 := by
  rw [← connectives_close]
  rfl

@[simp]
theorem testedConnectives_close (level : Level) (last : Scalar) :
    (level.close last).testedConnectives = level.testedConnectives + last.testedConnectives := by
  obtain ⟨alternatives, conjunction⟩ := level
  cases alternatives with
  | none =>
    cases conjunction <;> simp [close, joinLeft, testedConnectives, Scalar.testedConnectives]
  | some waiting =>
    cases conjunction <;>
      simp [close, joinLeft, testedConnectives, Scalar.testedConnectives, Nat.add_assoc]

@[simp]
theorem testedConnectives_conjoin (level : Level) (last : Scalar) :
    (level.conjoin last).testedConnectives =
      level.testedConnectives + last.testedConnectives := by
  obtain ⟨alternatives, conjunction⟩ := level
  cases conjunction with
  | none => simp [conjoin, joinLeft, testedConnectives]
  | some waiting =>
    simp [conjoin, joinLeft, testedConnectives, Scalar.testedConnectives, Nat.add_assoc]

@[simp]
theorem testedConnectives_alternate (level : Level) (last : Scalar) :
    (level.alternate last).testedConnectives =
      level.testedConnectives + last.testedConnectives := by
  rw [← testedConnectives_close]
  rfl

end Level

namespace Clause

section

variable {read : Level → Level × Scalar} {n m : Nat}

private theorem connectives_readAlone
    (counted : ∀ level, (read level).1.connectives + (read level).2.connectives =
      level.connectives + n) : (readAlone read).connectives = n := by
  rw [readAlone, Level.connectives_close, counted]
  simp [Level.connectives, Level.empty]

private theorem connectives_readEnclosed
    (counted : ∀ level, (read level).1.connectives + (read level).2.connectives =
      level.connectives + n) (needed : Bool) (level : Level) :
    (readEnclosed needed read level).1.connectives +
        (readEnclosed needed read level).2.connectives = level.connectives + n := by
  cases needed with
  | false => exact counted level
  | true => exact congrArg (level.connectives + ·) (connectives_readAlone counted)

/-- Reading drops no connective and adds none. -/
theorem connectives_read (clause : Clause) (level : Level) :
    (clause.read level).1.connectives + (clause.read level).2.connectives =
      level.connectives + clause.tree.connectives := by
  induction clause generalizing level with
  | column table name => rfl
  | castText inner ih | truthText inner ih | upper inner ih | holds inner _ ih =>
    exact congrArg (level.connectives + ·) (connectives_readAlone ih)
  | notNull inner ih => exact ih level
  | and left right ihLeft ihRight =>
    have first := connectives_readEnclosed ihLeft left.isOr level
    have second := connectives_readEnclosed ihRight right.isOr
      ((readEnclosed left.isOr left.read level).1.conjoin
        (readEnclosed left.isOr left.read level).2)
    rw [Level.connectives_conjoin, first] at second
    simp only [tree, Scalar.connectives]
    rw [read, second]
    omega
  | or left right ihLeft ihRight =>
    have first := ihLeft level
    have second := ihRight ((left.read level).1.alternate (left.read level).2)
    rw [Level.connectives_alternate, first] at second
    simp only [tree, Scalar.connectives]
    rw [Clause.read, second]
    omega

/-- What waits at a level goes on waiting, and a connective adds to it. -/
theorem connectives_level (clause : Clause) (level : Level) :
    level.connectives + clause.isConnective.toNat ≤ (clause.read level).1.connectives := by
  have enclosed (inner : Clause) (waits : ∀ level,
      level.connectives + inner.isConnective.toNat ≤ (inner.read level).1.connectives)
      (level : Level) :
      level.connectives ≤ (readEnclosed inner.isOr inner.read level).1.connectives := by
    cases inner.isOr with
    | false => exact Nat.le_trans (Nat.le_add_right _ _) (waits level)
    | true => exact Nat.le_refl _
  induction clause generalizing level with
  | notNull inner ih => exact Nat.le_trans (Nat.le_add_right _ _) (ih level)
  | and left right ihLeft ihRight =>
    have first := enclosed left ihLeft level
    have second := enclosed right ihRight
      ((readEnclosed left.isOr left.read level).1.conjoin
        (readEnclosed left.isOr left.read level).2)
    rw [Level.connectives_conjoin] at second
    change level.connectives + 1 ≤ _
    rw [read]
    omega
  | or left right ihLeft ihRight =>
    have first := ihLeft level
    have second := ihRight ((left.read level).1.alternate (left.read level).2)
    rw [Level.connectives_alternate] at second
    change level.connectives + 1 ≤ _
    rw [read]
    omega
  | _ => exact Nat.le_refl _

theorem connectives_last (clause : Clause) (level : Level) :
    (clause.read level).2.connectives + clause.isConnective.toNat ≤ clause.tree.connectives := by
  have all := clause.connectives_read level
  have waiting := clause.connectives_level level
  omega

private theorem testedConnectives_readAlone
    (counted : ∀ level, (read level).1.testedConnectives + (read level).2.testedConnectives + m ≤
      level.testedConnectives + n) : (readAlone read).testedConnectives + m ≤ n := by
  rw [readAlone, Level.testedConnectives_close]
  simpa [Level.testedConnectives, Level.empty] using counted .empty

private theorem testedConnectives_readEnclosed
    (counted : ∀ level, (read level).1.testedConnectives + (read level).2.testedConnectives + m ≤
      level.testedConnectives + n) (needed : Bool) (level : Level) :
    (readEnclosed needed read level).1.testedConnectives +
        (readEnclosed needed read level).2.testedConnectives + m ≤
      level.testedConnectives + n := by
  cases needed with
  | false => exact counted level
  | true =>
    have alone := testedConnectives_readAlone counted
    simp only [readEnclosed, if_true]
    omega

private theorem toNat_or_le (a b : Bool) : (a || b).toNat ≤ a.toNat + b.toNat := by
  cases a <;> cases b <;> decide

/-- Reading puts no connective under a presence test, and takes one out where one is tested. -/
theorem testedConnectives_read (clause : Clause) (level : Level) :
    (clause.read level).1.testedConnectives + (clause.read level).2.testedConnectives +
        clause.testsConnective.toNat ≤
      level.testedConnectives + clause.tree.testedConnectives := by
  induction clause generalizing level with
  | column table name => exact Nat.le_refl _
  | castText inner ih | truthText inner ih | upper inner ih | holds inner _ ih =>
    -- What stands in brackets is read for itself, whatever waits outside of them.
    have alone := testedConnectives_readAlone ih
    simp only [Clause.read, tree, testsConnective, Scalar.testedConnectives]
    omega
  | notNull inner ih =>
    -- Only the last operand comes under the test, and a connective is more than that.
    have inside := ih level
    have last := inner.connectives_last level
    have either := toNat_or_le inner.isConnective inner.testsConnective
    simp only [Clause.read, tree, testsConnective, Scalar.testedConnectives]
    omega
  | and left right ihLeft ihRight =>
    have first := testedConnectives_readEnclosed ihLeft left.isOr level
    have second := testedConnectives_readEnclosed ihRight right.isOr
      ((readEnclosed left.isOr left.read level).1.conjoin
        (readEnclosed left.isOr left.read level).2)
    have either := toNat_or_le left.testsConnective right.testsConnective
    rw [Level.testedConnectives_conjoin] at second
    simp only [Clause.read, tree, testsConnective, Scalar.testedConnectives]
    omega
  | or left right ihLeft ihRight =>
    have first := ihLeft level
    have second := ihRight ((left.read level).1.alternate (left.read level).2)
    have either := toNat_or_le left.testsConnective right.testsConnective
    rw [Level.testedConnectives_alternate] at second
    simp only [Clause.read, tree, testsConnective, Scalar.testedConnectives]
    omega

end

/-! ### Which clauses are read as they are meant -/

theorem reading_regroups_iff (clause : Clause) :
    Regroups clause.reading clause.tree ↔ clause.testsConnective = false := by
  refine ⟨fun same => ?_, fun plain => (faithful_of_testsConnective plain).alone⟩
  -- As many connectives are tested in both, so none was taken out.
  have fewer := testedConnectives_readAlone clause.testedConnectives_read
  rw [← reading, same.testedConnectives_eq] at fewer
  exact Bool.toNat_eq_zero.mp (by omega)

end Clause

end RecordSearch.Sql
