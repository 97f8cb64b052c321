import Mathlib.Data.List.Forall2
import RecordSearch.Expr.Eval
import RecordSearch.Expr.Text

/-!
# Chains of connectives

A chain of conjunctions, or of alternatives, gives the same answer and has the same text however it is
grouped. It comes down to the list of its operands.

## Main results

`Regroups.test_eq`, `Regroups.text_eq`: what does not depend on the grouping of chains.
`exists_chain`: every chain regroups the one in which its operands are joined from the first on.
-/
namespace RecordSearch.Expr

/-- What joins two tests. -/
inductive Connective where
  | conjunction
  | alternative

namespace Connective

def join : Connective → Expr → Expr → Expr
  | conjunction => .and
  | alternative => .or

/-- Whether an expression is a chain of the connective. -/
def joins : Connective → Expr → Bool
  | conjunction, .and _ _ => true
  | alternative, .or _ _ => true
  | _, _ => false

/-- The text between the operands of a chain. -/
def separator : Connective → String
  | conjunction => " && "
  | alternative => " || "

/-- The text of an operand in a chain. -/
def shown : Connective → Expr → String
  | conjunction, e => enclose e.isOr e.text
  | alternative, e => e.text

theorem text_join (k : Connective) (left right : Expr) :
    (k.join left right).text = k.shown left ++ k.separator ++ k.shown right := by
  cases k <;> rfl

/-- A chain needs no parentheses in a chain of its own connective. -/
theorem shown_join (k : Connective) (left right : Expr) :
    k.shown (k.join left right) = k.shown left ++ k.separator ++ k.shown right := by
  cases k <;> rfl

theorem shown_congr (k : Connective) {e e' : Expr} (isOr : e.isOr = e'.isOr)
    (text : e.text = e'.text) : k.shown e = k.shown e' := by
  cases k <;> simp only [shown, isOr, text]

end Connective

/-- Expressions that differ in the grouping of chains of one connective. -/
inductive Regroups : Expr → Expr → Prop
  | refl (a : Expr) : Regroups a a
  | symm {a b : Expr} : Regroups a b → Regroups b a
  | trans {a b c : Expr} : Regroups a b → Regroups b c → Regroups a c
  | assoc (k : Connective) (a b c : Expr) :
      Regroups (k.join (k.join a b) c) (k.join a (k.join b c))
  | join (k : Connective) {a b c d : Expr} :
      Regroups a b → Regroups c d → Regroups (k.join a c) (k.join b d)

namespace Regroups

variable {e e' : Expr}

/-- Grouping does not matter to the answer. -/
theorem test_eq (same : Regroups e e') (placeholder : String) (record : Record) :
    e.test placeholder record = e'.test placeholder record := by
  induction same with
  | refl a => rfl
  | symm _ ih => exact ih.symm
  | trans _ _ first second => exact first.trans second
  | assoc k a b c =>
    cases k with
    | conjunction => exact Bool.and_assoc _ _ _
    | alternative => exact Bool.or_assoc _ _ _
  | join k _ _ first second => cases k <;> simp [Connective.join, first, second]

theorem isOr_eq (same : Regroups e e') : e.isOr = e'.isOr := by
  induction same with
  | refl a => rfl
  | symm _ ih => exact ih.symm
  | trans _ _ first second => exact first.trans second
  | assoc k a b c => cases k <;> rfl
  | join k _ _ first second => cases k <;> rfl

/-- Grouping does not show. -/
theorem text_eq (same : Regroups e e') : e.text = e'.text := by
  induction same with
  | refl a => rfl
  | symm _ ih => exact ih.symm
  | trans _ _ first second => exact first.trans second
  | assoc k a b c => simp only [k.text_join, k.shown_join, String.append_assoc]
  | join k left right first second =>
    rw [k.text_join, k.text_join, k.shown_congr left.isOr_eq first,
      k.shown_congr right.isOr_eq second]

theorem shown_eq (same : Regroups e e') (k : Connective) : k.shown e = k.shown e' :=
  k.shown_congr same.isOr_eq same.text_eq

end Regroups

/-! ### Operands of a chain -/

/-- The operands of a chain of one connective, in order. What is no such chain is an operand itself. -/
def operands (k : Connective) : Expr → List Expr
  | and left right =>
    match k with
    | .conjunction => left.operands k ++ right.operands k
    | .alternative => [and left right]
  | or left right =>
    match k with
    | .conjunction => [or left right]
    | .alternative => left.operands k ++ right.operands k
  | e => [e]

theorem operands_join (k : Connective) (left right : Expr) :
    (k.join left right).operands k = left.operands k ++ right.operands k := by
  cases k <;> rfl

theorem operands_of_not_joins {k : Connective} {e : Expr} (alone : k.joins e = false) :
    e.operands k = [e] := by
  cases k <;> cases e <;> first | rfl | cases alone

/-- Induction along a chain: an expression is an operand of its own, or joins two. -/
theorem chain_induction (k : Connective) {motive : Expr → Prop}
    (single : ∀ e, k.joins e = false → motive e)
    (join : ∀ left right, motive left → motive right → motive (k.join left right)) (e : Expr) :
    motive e := by
  induction e with
  | and left right ihLeft ihRight =>
    cases k with
    | conjunction => exact join left right ihLeft ihRight
    | alternative => exact single _ rfl
  | or left right ihLeft ihRight =>
    cases k with
    | conjunction => exact single _ rfl
    | alternative => exact join left right ihLeft ihRight
  | _ => exact single _ (by cases k <;> rfl)

theorem not_joins_of_mem_operands {k : Connective} {e operand : Expr}
    (member : operand ∈ e.operands k) : k.joins operand = false := by
  induction e using chain_induction k with
  | single e alone =>
    rw [operands_of_not_joins alone, List.mem_singleton] at member
    rw [member, alone]
  | join left right ihLeft ihRight =>
    rw [operands_join, List.mem_append] at member
    exact member.elim ihLeft ihRight

/-- The operands of a chain are joined one by one to what stands before it. -/
theorem Regroups.join_foldl (k : Connective) (before e : Expr) :
    Regroups (k.join before e) ((e.operands k).foldl k.join before) := by
  induction e using chain_induction k generalizing before with
  | single e alone => rw [operands_of_not_joins alone]; exact .refl _
  | join left right ihLeft ihRight =>
    rw [operands_join, List.foldl_append]
    have first : Regroups (k.join before (k.join left right)) (k.join (k.join before left) right) :=
      .symm (.assoc k before left right)
    exact first.trans ((Regroups.join k (ihLeft before) (.refl right)).trans (ihRight _))

/-- A chain regroups the one in which its operands are joined from the first on. -/
theorem exists_chain (k : Connective) (e : Expr) :
    ∃ head tail, e.operands k = head :: tail ∧ Regroups e (tail.foldl k.join head) := by
  induction e using chain_induction k with
  | single e alone => exact ⟨e, [], operands_of_not_joins alone, .refl e⟩
  | join left right ihLeft _ =>
    obtain ⟨head, tail, operands, regrouped⟩ := ihLeft
    refine ⟨head, tail ++ right.operands k, ?_, ?_⟩
    · rw [operands_join, operands, List.cons_append]
    · rw [List.foldl_append]
      exact (Regroups.join k regrouped (.refl right)).trans (.join_foldl k _ right)

/-- Chains of operands that regroup each other do so themselves. -/
theorem Regroups.foldl_join (k : Connective) {before before' : Expr} {operands operands' : List Expr}
    (first : Regroups before before') (others : List.Forall₂ Regroups operands operands') :
    Regroups (operands.foldl k.join before) (operands'.foldl k.join before') := by
  induction others generalizing before before' with
  | nil => exact first
  | cons same _ ih => exact ih (.join k first same)

end RecordSearch.Expr
