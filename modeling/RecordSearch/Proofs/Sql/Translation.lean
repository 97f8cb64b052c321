import RecordSearch.Proofs.Predicate.Matching
import RecordSearch.Proofs.Sql.Meaning
import RecordSearch.Proofs.Unicode.Casing
import RecordSearch.Sql.Conversion

/-!
# Built predicates as conditions

The clause of an expression is made operator by operator. That of a built predicate is the
alternative of the clauses of its comparisons, and a comparison selects a row if the text that its
candidate has there holds the needle.

## Main results

`Clause.ofExpr_eq_ok_iff`: when an expression has a clause, and which.
`Clause.ofExpr_anyOf`: the clause of a predicate from the clauses of its comparisons.
`selects_comparison`: what the clause of a comparison selects.
-/
namespace RecordSearch.Sql

/-! ### Folding -/

def IsAscii (text : String) : Prop := ∀ c ∈ text.toList, c.toNat < 0x80

/-- A text as the database folds it. -/
def foldColumn (options : Options) (text : String) : String :=
  if options.ignoreCase then asciiUpper text else text

/-- On ASCII both sides fold alike. -/
theorem foldColumn_eq_fold {options : Options} {text : String}
    (ascii : options.ignoreCase = true → IsAscii text) :
    foldColumn options text = options.fold text := by
  by_cases ignored : options.ignoreCase = true
  · rw [foldColumn, Options.fold, if_pos ignored, if_pos ignored, asciiUpper, Text.upper]
    congr 1
    rw [List.map_eq_flatMap]
    exact List.flatMap_congr fun c inside =>
      (Unicode.uppercase_of_ascii (ascii ignored c inside)).symm
  · rw [foldColumn, Options.fold, if_neg ignored, if_neg ignored]

namespace Clause

/-! ### What has a clause -/

variable {schema : Schema} {placeholder : String}

/-- Whether a clause has operators only between brackets of its own. -/
def isOperand : Clause → Bool
  | column _ _ => true
  | castText _ => true
  | truthText _ => true
  | upper _ => true
  | _ => false

theorem ofExpr_or_eq_ok_iff {left right : Expr} {clause : Clause} :
    ofExpr schema placeholder (.or left right) = .ok clause ↔
      ∃ a b, ofExpr schema placeholder left = .ok a ∧ ofExpr schema placeholder right = .ok b ∧
        clause = or a b := by
  rw [ofExpr, bind_eq_ok_iff]
  constructor
  · rintro ⟨a, made, others⟩
    obtain ⟨b, made', whole⟩ := bind_eq_ok_iff.mp others
    exact ⟨a, b, made, made', (Except.ok.inj whole).symm⟩
  · rintro ⟨a, b, made, made', rfl⟩
    exact ⟨a, made, bind_eq_ok_iff.mpr ⟨b, made', rfl⟩⟩

theorem ofExpr_member_eq_ok_iff {target : Expr} {name : String} {clause : Clause} :
    ofExpr schema placeholder (.member target name) = .ok clause ↔
      ∃ resolved, (Expr.member target name).resolve schema placeholder = .ok resolved ∧
        resolved.ty.table? = none ∧ clause = column (qualifier target) name := by
  rw [ofExpr, bind_eq_ok_iff]
  simp only [resolveForSql, mapError_eq_ok_iff]
  -- Only a member that is itself a record has no column.
  refine exists_congr fun resolved => and_congr_right fun _ => ?_
  cases resolved.ty <;> simp [MemberType.table?, eq_comm]

/-- Whether the database has a text for what a member of the type holds. -/
def hasText : MemberType → Bool
  | .string => true
  | .number => true
  | .bool => true
  | .text => true
  | _ => false

/-- The text of a member of the given type. -/
def shown : MemberType → Clause → Clause
  | .number, inner => castText inner
  | .text, inner => castText inner
  | .bool, inner => truthText inner
  | _, inner => inner

theorem ofExpr_toText_eq_ok_iff {inner : Expr} {clause : Clause} :
    ofExpr schema placeholder (.toText inner) = .ok clause ↔
      ∃ resolved value, inner.resolve schema placeholder = .ok resolved ∧
        ofExpr schema placeholder inner = .ok value ∧ hasText resolved.ty = true ∧
          clause = shown resolved.ty value := by
  rw [ofExpr, bind_eq_ok_iff]
  simp only [resolveForSql, mapError_eq_ok_iff]
  refine exists_congr fun resolved => ?_
  cases resolved.ty <;>
    cases ofExpr schema placeholder inner <;>
      simp [hasText, shown, Functor.map, Except.map, eq_comm]

/-- How the clause of an expression is made of the clauses of its operands. -/
inductive Translates (schema : Schema) (placeholder : String) : Expr → Clause → Prop
  | member {target : Expr} {name : String} {resolved : Resolved}
      (resolves : (Expr.member target name).resolve schema placeholder = .ok resolved)
      (single : resolved.ty.table? = none) :
      Translates schema placeholder (.member target name) (column (qualifier target) name)
  | toText {inner : Expr} {resolved : Resolved} {value : Clause}
      (resolves : inner.resolve schema placeholder = .ok resolved)
      (hasText : hasText resolved.ty = true) (operand : Translates schema placeholder inner value) :
      Translates schema placeholder (.toText inner) (shown resolved.ty value)
  | upper {inner : Expr} {value : Clause} (operand : Translates schema placeholder inner value) :
      Translates schema placeholder (.upper inner) (upper value)
  | isPresent {inner : Expr} {value : Clause}
      (operand : Translates schema placeholder inner value) :
      Translates schema placeholder (.isPresent inner) (notNull value)
  | contains {haystack : Expr} {value : Clause} (needle : String)
      (operand : Translates schema placeholder haystack value) :
      Translates schema placeholder (.contains haystack needle) (holds value needle)
  | and {left right : Expr} {a b : Clause} (first : Translates schema placeholder left a)
      (second : Translates schema placeholder right b) :
      Translates schema placeholder (.and left right) (and a b)
  | or {left right : Expr} {a b : Clause} (first : Translates schema placeholder left a)
      (second : Translates schema placeholder right b) :
      Translates schema placeholder (.or left right) (or a b)

/-- The translation yields a clause exactly if each operator can be translated over its operands. -/
theorem ofExpr_eq_ok_iff {e : Expr} {clause : Clause} :
    ofExpr schema placeholder e = .ok clause ↔ Translates schema placeholder e clause := by
  constructor
  · intro made
    -- Every operator makes the clauses of its operands first, so the hypotheses apply to those.
    induction e generalizing clause with
    | param name => cases made
    | member target name ih =>
      obtain ⟨resolved, resolves, single, rfl⟩ := ofExpr_member_eq_ok_iff.mp made
      exact .member resolves single
    | toText inner ih =>
      obtain ⟨resolved, value, resolves, valued, hasText, rfl⟩ := ofExpr_toText_eq_ok_iff.mp made
      exact .toText resolves hasText (ih valued)
    | upper inner ih =>
      obtain ⟨value, valued, rfl⟩ := map_eq_ok_iff.mp made
      exact .upper (ih valued)
    | isPresent inner ih =>
      obtain ⟨value, valued, rfl⟩ := map_eq_ok_iff.mp made
      exact .isPresent (ih valued)
    | contains haystack needle ih =>
      obtain ⟨value, valued, whole⟩ := bind_eq_ok_iff.mp made
      obtain rfl := Except.ok.inj whole
      exact .contains needle (ih valued)
    | and left right ihLeft ihRight =>
      obtain ⟨a, first, others⟩ := bind_eq_ok_iff.mp made
      obtain ⟨b, second, whole⟩ := bind_eq_ok_iff.mp others
      obtain rfl := Except.ok.inj whole
      exact .and (ihLeft first) (ihRight second)
    | or left right ihLeft ihRight =>
      obtain ⟨a, b, first, second, rfl⟩ := ofExpr_or_eq_ok_iff.mp made
      exact .or (ihLeft first) (ihRight second)
  · intro translates
    induction translates with
    | member resolves single => exact ofExpr_member_eq_ok_iff.mpr ⟨_, resolves, single, rfl⟩
    | toText resolves hasText _ ih =>
      exact ofExpr_toText_eq_ok_iff.mpr ⟨_, _, resolves, ih, hasText, rfl⟩
    | upper _ ih => exact map_eq_ok_iff.mpr ⟨_, ih, rfl⟩
    | isPresent _ ih => exact map_eq_ok_iff.mpr ⟨_, ih, rfl⟩
    | contains needle _ ih => exact bind_eq_ok_iff.mpr ⟨_, ih, rfl⟩
    | and _ _ ihLeft ihRight =>
      exact bind_eq_ok_iff.mpr ⟨_, ihLeft, bind_eq_ok_iff.mpr ⟨_, ihRight, rfl⟩⟩
    | or _ _ ihLeft ihRight => exact ofExpr_or_eq_ok_iff.mpr ⟨_, _, ihLeft, ihRight, rfl⟩

theorem isOperand_shown (ty : MemberType) (table : Option String) (name : String) :
    (shown ty (column table name)).isOperand = true := by
  cases ty <;> rfl

/-- The text that a member has on a row. Only a truth value that is missing has one. -/
theorem text?_shown (ty : MemberType) (table : Option String) (name : String) (row : Row) :
    ((shown ty (column table name)).reading.eval row).text? =
      if ty = .bool then some (Text.ofBool ((row table name).truth == some true))
      else (row table name).text? := by
  cases ty with
  | number => exact Datum.text?_ofText? _
  | text => exact Datum.text?_ofText? _
  | bool =>
    -- `CASE` asks whether its test is true, so a missing value is shown as `false`.
    change Datum.text? (if (row table name).truth = some true then .text "true"
      else .text "false") = _
    by_cases holds : (row table name).truth = some true
    · simp [holds, Datum.text?, Text.ofBool]
    · simp [holds, Datum.text?, Text.ofBool]
  | _ => rfl

/-! ### Comparisons -/

def folded (options : Options) (value : Clause) : Clause :=
  if options.ignoreCase then upper value else value

/-- The clause of a comparison, from that of the candidate. -/
def comparison (options : Options) (term : String) (isNullable : Bool) (value : Clause) : Clause :=
  if isNullable then and (notNull value) (holds (folded options value) term)
  else holds (folded options value) term

theorem ofExpr_test (options : Options) (term : String) (value : Expr) :
    ofExpr schema placeholder
        (.contains (if options.ignoreCase then .upper value else value) term) =
      (ofExpr schema placeholder value).map fun clause => holds (folded options clause) term := by
  rw [ofExpr]
  by_cases ignored : options.ignoreCase = true
  · simp only [ignored, if_true, ofExpr, folded]
    cases ofExpr schema placeholder value <;> rfl
  · simp only [ignored, Bool.false_eq_true, if_false, folded]
    cases ofExpr schema placeholder value <;> rfl

theorem ofExpr_comparison (options : Options) (term : String) (candidate : Candidate) :
    ofExpr schema placeholder (Predicate.comparison options term candidate) =
      (ofExpr schema placeholder candidate.value).map
        (comparison options term candidate.isNullable) := by
  by_cases guarded : candidate.isNullable = true
  · simp only [Predicate.comparison, guarded, if_true]
    rw [ofExpr, ofExpr_test, ofExpr]
    cases ofExpr schema placeholder candidate.value <;> rfl
  · simp only [Predicate.comparison, guarded, Bool.false_eq_true, if_false]
    rw [ofExpr_test]
    rfl

private theorem ofExpr_foldl_or {tests : List Expr} {first : Expr} {clause : Clause}
    (made : ofExpr schema placeholder (tests.foldl .or first) = .ok clause) :
    ∃ a clauses, ofExpr schema placeholder first = .ok a ∧
      List.Forall₂ (fun test c => ofExpr schema placeholder test = .ok c) tests clauses ∧
        clause = clauses.foldl or a := by
  induction tests generalizing first with
  | nil => exact ⟨clause, [], made, .nil, rfl⟩
  | cons test rest ih =>
    obtain ⟨ab, clauses, joined, others, whole⟩ := ih made
    obtain ⟨a, b, left, right, rfl⟩ := ofExpr_or_eq_ok_iff.mp joined
    exact ⟨a, b :: clauses, left, .cons right others, whole⟩

theorem ofExpr_anyOf {tests : List Expr} {body : Expr} {clause : Clause}
    (joined : Predicate.anyOf tests = some body)
    (made : ofExpr schema placeholder body = .ok clause) :
    ∃ a clauses, List.Forall₂ (fun test c => ofExpr schema placeholder test = .ok c) tests
      (a :: clauses) ∧ clause = clauses.foldl or a := by
  cases tests with
  | nil => simp [Predicate.anyOf] at joined
  | cons first rest =>
    rw [Predicate.anyOf, Option.some.injEq] at joined
    obtain ⟨a, clauses, left, others, whole⟩ := ofExpr_foldl_or (joined ▸ made)
    exact ⟨a, clauses, .cons left others, whole⟩

/-! ### How comparisons are read -/

theorem read_of_isOperand {clause : Clause} (operand : clause.isOperand = true) (level : Level) :
    clause.read level = (level, clause.reading) := by
  cases clause <;> first | rfl | simp [isOperand] at operand

/-- A clause that is read behind an `OR` as it is read alone. -/
def ReadsBehindOr (clause : Clause) : Prop :=
  ∀ before, (clause.read ⟨before, none⟩).1.close (clause.read ⟨before, none⟩).2 =
    joinLeft .or before clause.reading

theorem reading_foldl_or {clauses : List Clause} (alone : ∀ c ∈ clauses, c.ReadsBehindOr)
    (first : Clause) :
    (clauses.foldl or first).reading = (clauses.map reading).foldl .or first.reading := by
  induction clauses generalizing first with
  | nil => rfl
  | cons clause rest ih =>
    -- What was read so far is closed by the `OR` and becomes its left side.
    have behind : (or first clause).reading = .or first.reading clause.reading :=
      alone clause List.mem_cons_self (some first.reading)
    rw [List.foldl_cons, ih (fun c member => alone c (List.mem_cons_of_mem _ member)), behind]
    rfl

variable {options : Options} {term : String} {isNullable : Bool} {value : Clause}

/-- The condition that a comparison is meant to be. -/
def comparisonReading (options : Options) (term : String) (isNullable : Bool) (value : Clause) :
    Scalar :=
  let test := Scalar.greater (.instr (folded options value).reading (.literal term)) (.integer 0)
  if isNullable then .and (.notNull value.reading) test else test

/-- The guard and the test of a comparison take in the candidate and no more. -/
theorem close_read_comparison (operand : value.isOperand = true) (before : Option Scalar) :
    ((comparison options term isNullable value).read ⟨before, none⟩).1.close
        ((comparison options term isNullable value).read ⟨before, none⟩).2 =
      joinLeft .or before (comparisonReading options term isNullable value) := by
  cases isNullable with
  | false => rfl
  | true =>
    -- `IS NOT NULL` takes in the candidate alone, since that has no operator outside of brackets.
    have guard : (notNull value).read ⟨before, none⟩ =
        (⟨before, none⟩, .notNull value.reading) := by
      rw [read, read_of_isOperand operand]
    change (((holds (folded options value) term).read
      (((notNull value).read ⟨before, none⟩).1.conjoin
        ((notNull value).read ⟨before, none⟩).2))).1.close _ = _
    rw [guard]
    rfl

theorem reading_comparison (operand : value.isOperand = true) :
    (comparison options term isNullable value).reading =
      comparisonReading options term isNullable value :=
  close_read_comparison operand none

theorem readsBehindOr_comparison (operand : value.isOperand = true) :
    (comparison options term isNullable value).ReadsBehindOr := by
  intro before
  rw [close_read_comparison operand, reading_comparison operand]

/-! ### What comparisons select -/

theorem text?_folded (options : Options) (value : Clause) (row : Row) :
    ((folded options value).reading.eval row).text? =
      (value.reading.eval row).text?.map (foldColumn options) := by
  by_cases ignored : options.ignoreCase = true
  · have same : foldColumn options = asciiUpper := funext fun s => by simp [foldColumn, ignored]
    have upper : (folded options value).reading = .upper value.reading := by
      rw [folded, if_pos ignored]
      rfl
    rw [upper, same, Scalar.eval, Datum.text?_ofText?]
  · have same : foldColumn options = id := funext fun s => by simp [foldColumn, ignored]
    rw [folded, if_neg ignored, same, Option.map_id_fun, id]

/-- A comparison selects a row if the text of its candidate holds the needle. The guard is of no
effect: what is missing stays missing up to the search of the needle. -/
theorem selects_comparison (operand : value.isOperand = true) (row : Row) :
    (comparison options term isNullable value).reading.selects row =
      ((value.reading.eval row).text?.map (foldColumn options)).any (Text.contains · term) := by
  rw [reading_comparison operand, ← text?_folded]
  cases isNullable with
  | false => exact Scalar.selects_holds _ term
  | true =>
    rw [comparisonReading, if_pos rfl, Scalar.selects_and, Scalar.selects_holds,
      Scalar.selects_notNull]
    -- The guard fails only where there is no text to search.
    by_cases missing : value.reading.eval row = .null
    · rw [text?_folded, missing]
      rfl
    · simp [missing]

/-- A built predicate selects a row if the text of some candidate holds the term there, whatever
the text of a candidate on the row is. -/
theorem selects_of_build {fields : List Field} {p : Predicate} {found : List Candidate}
    {clause : Clause} {row : Row} {text : Candidate → Option String}
    (built : Predicate.build schema options fields term = .ok p)
    (gathered : Predicate.candidates schema options fields = .ok found)
    (made : ofExpr schema p.param p.body = .ok clause)
    (texts : ∀ candidate ∈ found, ∀ value,
      ofExpr schema Predicate.builtParam candidate.value = .ok value →
        value.isOperand = true ∧
          (value.reading.eval row).text?.map (foldColumn options) = text candidate) :
    clause.reading.selects row =
      found.any fun candidate => (text candidate).any (Text.contains · (options.fold term)) := by
  obtain ⟨param, joined⟩ := Predicate.joined_of_build built gathered
  rw [param] at made
  obtain ⟨first, others, each, rfl⟩ := ofExpr_anyOf joined made
  rw [List.forall₂_map_left_iff] at each
  -- Each comparison is read whole between the `OR`s, and selects what it should.
  have meant : ∀ candidate ∈ found, ∀ c,
      ofExpr schema Predicate.builtParam
        (Predicate.comparison options (options.fold term) candidate) = .ok c →
      c.ReadsBehindOr ∧ c.reading.selects row =
        (text candidate).any (Text.contains · (options.fold term)) := by
    intro candidate member c translated
    rw [ofExpr_comparison] at translated
    obtain ⟨value, valued, rfl⟩ := map_eq_ok_iff.mp translated
    obtain ⟨operand, same⟩ := texts candidate member value valued
    exact ⟨readsBehindOr_comparison operand, by rw [selects_comparison operand, same]⟩
  have alone : ∀ c ∈ others, c.ReadsBehindOr := by
    intro c member
    obtain ⟨candidate, inside, translated⟩ :=
      exists_of_mem_right each (List.mem_cons_of_mem first member)
    exact (meant candidate inside c translated).1
  have whole : (others.foldl or first).reading.selects row =
      (first :: others).any fun c => c.reading.selects row := by
    rw [reading_foldl_or alone, Scalar.selects_foldl_or, List.any_map, List.any_cons]
    rfl
  have same := map_eq_of_forall₂ each fun candidate inside c translated =>
    (meant candidate inside c translated).2.symm
  rw [whole]
  simpa [List.any_map, Function.comp_def] using congrArg (List.any · id) same.symm

end Clause

end RecordSearch.Sql
