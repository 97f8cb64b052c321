import RecordSearch.Proofs.Expr.Resolution
import RecordSearch.Proofs.Source.Narrowing
import RecordSearch.Proofs.Sql.Statement
import RecordSearch.Proofs.Sql.Translation

/-!
# Tables and records in memory select alike

A search of the eligible members selects the row of a record exactly if the same search of records
in memory accepts the record. The statement is read back from its text, with its parameters in the
order of the question marks.

## Main result

`searchWith_ofTable_selects`: the two searches select alike.
-/
namespace RecordSearch

/-- The integer that a number is, by its kind. -/
def Number.toInt? : Number → Option Int
  | signed n => some n.toInt
  | unsigned n => some n.toNat
  | float _ => none

theorem Number.text_of_toInt? {n : Number} {i : Int} (integer : n.toInt? = some i) :
    n.text = toString i := by
  cases n with
  | signed n =>
    obtain rfl := Option.some.inj integer
    rfl
  | unsigned n =>
    obtain rfl := Option.some.inj integer
    rfl
  | float x => simp [toInt?] at integer

namespace Sql

/-- How a column holds the value of a member. What no text is made of may be held in any way. -/
inductive Stores : MemberType → Value → Datum → Prop
  | string (s : String) : Stores .string (.string s) (.text s)
  | number {n : Number} {i : Int} (integer : n.toInt? = some i) :
      Stores .number (.number n) (.integer i)
  | bool (b : Bool) : Stores .bool (.bool b) (.integer (if b then 1 else 0))
  | text {s : String} {d : Datum} (same : d.text? = some s) : Stores .text (.text s) d
  | absent {ty : MemberType} (optional : ty ≠ .bool) : Stores ty .absent .null
  | other {ty : MemberType} {v : Value} {d : Datum} (untranslated : Clause.hasText ty = false) :
      Stores ty v d

theorem Stores.text?_string {v : Value} {d : Datum} (stored : Stores .string v d) :
    d.text? = v.asString? := by
  cases stored with
  | string s => rfl
  | absent => rfl
  | other untranslated => simp [Clause.hasText] at untranslated

/-- The database makes the same text of what it holds as the search in memory of the value. -/
theorem Stores.text?_shown {ty : MemberType} {v : Value} {d : Datum} (stored : Stores ty v d)
    (translated : Clause.hasText ty = true) (notString : ty.isString = false) :
    (if ty = .bool then some (Text.ofBool (d.truth == some true)) else d.text?) = v.toText? := by
  cases stored with
  | string s => simp [MemberType.isString] at notString
  | number integer => simp [Datum.text?, Value.toText?, Number.text_of_toInt? integer]
  | bool b => cases b <;> rfl
  | text same => simpa [Value.toText?] using same
  | absent optional => simp [optional, Datum.text?, Value.toText?]
  | other untranslated => simp [untranslated] at translated

theorem text?_candidateOfMember {schema : Schema} {m : Member} {value : Clause} {record : Record}
    {row : Row} (distinct : (schema.rootMembers.map Member.name).Nodup)
    (inside : m ∈ schema.rootMembers)
    (made : Clause.ofExpr schema Predicate.builtParam (Predicate.candidateOfMember m).value =
      .ok value)
    (stored : Stores m.ty (record m.name) (row none m.name)) :
    value.isOperand = true ∧ (value.reading.eval row).text? =
      if m.ty.isString then (record m.name).asString? else (record m.name).toText? := by
  by_cases string : m.ty.isString = true
  · rw [Predicate.candidateOfMember, if_pos string, Clause.ofExpr_member_eq_ok_iff] at made
    obtain ⟨-, -, -, rfl⟩ := made
    rw [MemberType.isString_iff] at string
    rw [string] at stored ⊢
    exact ⟨rfl, stored.text?_string⟩
  · rw [Predicate.candidateOfMember, if_neg string, Clause.ofExpr_toText_eq_ok_iff] at made
    obtain ⟨resolved, column, resolves, columned, translated, rfl⟩ := made
    obtain ⟨-, -, -, rfl⟩ := Clause.ofExpr_member_eq_ok_iff.mp columned
    rw [Expr.resolve_member_of_mem distinct inside] at resolves
    obtain rfl := Except.ok.inj resolves
    refine ⟨Clause.isOperand_shown _ _ _, ?_⟩
    -- The clause goes by the resolved type, the text of the value by the declared one.
    rw [Clause.text?_shown, if_neg string]
    exact stored.text?_shown translated (by simpa using string)

theorem toText?_of_asString? {v : Value} {text : String} (string : v.asString? = some text) :
    v.toText? = some text := by
  cases v <;> simp_all [Value.asString?, Value.toText?]

variable {α : Type} [Searchable α]

/-- The row holds every member of the record. -/
def StoresRecord (item : α) (row : Row) : Prop :=
  ∀ m ∈ (Searchable.schema α).rootMembers,
    Stores m.ty (Searchable.record item m.name) (row none m.name)

/-- Every member of the record has a text of ASCII, or none. -/
def HasAsciiTexts (item : α) : Prop :=
  ∀ m ∈ (Searchable.schema α).rootMembers,
    ∀ text ∈ (Searchable.record item m.name).toText?, IsAscii text

variable {options : Options} {item : α} {row : Row}

theorem text?_of_selected {m : Member} {value : Clause}
    (distinct : ((Searchable.schema α).rootMembers.map Member.name).Nodup)
    (inside : m ∈ (Searchable.schema α).rootMembers)
    (made : Clause.ofExpr (Searchable.schema α) Predicate.builtParam
      (Predicate.candidateOfMember m).value = .ok value)
    (stored : StoresRecord item row) (ascii : options.ignoreCase = true → HasAsciiTexts item) :
    value.isOperand = true ∧ (value.reading.eval row).text?.map (foldColumn options) =
      m.text? options (Searchable.record item) := by
  obtain ⟨operand, same⟩ := text?_candidateOfMember distinct inside made (stored m inside)
  refine ⟨operand, ?_⟩
  rw [same, Member.text?]
  -- The two foldings agree on the text of the member, which is of ASCII where case is ignored.
  refine Option.map_congr fun text shown => foldColumn_eq_fold fun ignored => ?_
  have some : (Searchable.record item m.name).toText? = some text := by
    split at shown
    · exact toText?_of_asString? shown
    · exact shown
  exact ascii ignored m inside text some

/-- The clause of a built predicate selects the rows of the records that the predicate accepts. -/
theorem selects_eq_accepts {term : String} {p : Predicate} {clause : Clause}
    (distinct : ((Searchable.schema α).rootMembers.map Member.name).Nodup)
    (built : Predicate.build (Searchable.schema α) options [] term = .ok p)
    (made : Clause.ofExpr (Searchable.schema α) p.param p.body = .ok clause)
    (stored : StoresRecord item row) (ascii : options.ignoreCase = true → HasAsciiTexts item) :
    clause.reading.selects row = p.accepts item := by
  have gathered := Predicate.candidates_nil (Searchable.schema α) options
  rw [Predicate.accepts, Predicate.test_of_build built gathered]
  refine Clause.selects_of_build built gathered made fun candidate inside value valued => ?_
  obtain ⟨m, selected, rfl⟩ := List.mem_map.mp inside
  rw [Predicate.searchable?_candidateOfMember]
  have declared : m ∈ (Searchable.schema α).rootMembers := mem_rootMembers_of_selected selected
  exact text?_of_selected distinct declared valued stored ascii

/-- A search of a table that succeeds yields a statement that selects the row of a record exactly if
the same search in memory accepts the record. -/
theorem searchWith_ofTable_selects {table : String} {query : Option String} {translated : Query α}
    (distinct : ((Searchable.schema α).rootMembers.map Member.name).Nodup)
    (returned : (searchWith (Query.ofTable table : Query α) query options).result = .ok translated)
    (items : List α) :
    ∃ statement found,
      Statement.read translated.text translated.params = some statement ∧
        statement.table = table ∧
        (searchWith (Memory.ofList items) query options).result = .ok found ∧
        ∀ (item : α) (row : Row), StoresRecord item row →
          (options.ignoreCase = true → HasAsciiTexts item) →
            statement.selects row = found.accepts item := by
  -- Both searches narrow by the same predicates: the table by their clauses, the records by them.
  obtain ⟨predicates, asked, narrowed⟩ := compile_eq_ok_iff.mp returned
  obtain ⟨clauses, made, rfl⟩ := Query.narrowAll_eq_ok_iff.mp narrowed
  refine ⟨_, ⟨items, predicates⟩, Statement.read_text rfl, rfl, ?_, ?_⟩
  · rw [searchWith, Memory.result_compile]
    exact congrArg (Except.map _) asked
  · intro item row stored ascii
    have same : predicates.map (·.accepts item) = clauses.map (·.reading.selects row) := by
      refine map_eq_of_forall₂ made fun p member clause translated => ?_
      obtain ⟨term, built⟩ := Predicate.exists_build_of_mem_ofQuery asked member
      exact (selects_eq_accepts distinct built translated stored ascii).symm
    rw [Statement.selects, all_selects_conjunction, Memory.accepts]
    simpa [Query.ofTable, List.all_map, Function.comp_def] using congrArg (List.all · id) same.symm

/-- A record with a text, an integer that may be missing, and a truth value. -/
structure Task where
  title : String
  size : Option UInt64
  done : Bool

instance : Searchable Task where
  schema := ⟨"Task", 0, fun _ =>
    [.ofType "title" .string, (Member.ofType "size" .number).nullable, .ofType "done" .bool]⟩
  record task
    | "title" => .string task.title
    | "size" => task.size.elim .absent fun n => .number (.unsigned n)
    | "done" => .bool task.done
    | _ => .absent

/-- The row of a task. -/
def Task.stored (task : Task) : Row
  | none, "title" => .text task.title
  | none, "size" => task.size.elim .null fun n => .integer n.toNat
  | none, "done" => .integer (if task.done then 1 else 0)
  | _, _ => .null

theorem Task.storesRecord (task : Task) : StoresRecord task task.stored := by
  intro m member
  change m ∈ [_, _, _] at member
  simp only [List.mem_cons, List.not_mem_nil, or_false] at member
  rcases member with rfl | rfl | rfl
  · exact .string task.title
  · change Stores .number (task.size.elim .absent fun n => .number (.unsigned n))
      (task.size.elim .null fun n => .integer n.toNat)
    cases task.size with
    | none => exact .absent (by decide)
    | some n => exact .number rfl
  · exact .bool task.done

theorem searchWith_ofTable_selects_task :
    ∃ (translated : Query Task) (statement : Statement) (found : Memory Task),
      (searchWith (Query.ofTable "tasks" : Query Task) (some "als 4") ⟨.all, false⟩).result =
          .ok translated ∧
        Statement.read translated.text translated.params = some statement ∧
        (searchWith (Memory.ofList ([] : List Task)) (some "als 4") ⟨.all, false⟩).result =
          .ok found ∧
        ∀ task : Task, statement.selects task.stored = found.accepts task := by
  have distinct : ((Searchable.schema Task).rootMembers.map Member.name).Nodup := by decide
  obtain ⟨translated, returned⟩ : ∃ translated,
      (searchWith (Query.ofTable "tasks" : Query Task) (some "als 4") ⟨.all, false⟩).result =
        .ok translated := ⟨_, rfl⟩
  obtain ⟨statement, found, read, -, accepted, alike⟩ :=
    searchWith_ofTable_selects distinct returned []
  refine ⟨translated, statement, found, returned, read, accepted, fun task => ?_⟩
  exact alike task task.stored task.storesRecord fun ignored => absurd ignored (by decide)

end Sql

end RecordSearch
