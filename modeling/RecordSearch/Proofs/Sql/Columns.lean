import RecordSearch.Expr.Eval
import RecordSearch.Proofs.Sql.Lexer
import RecordSearch.Proofs.Sql.Translation

/-!
# Columns of member paths

The column of a member is written with the name of the member before it, which stands for a joined
table, and with nothing of what comes before that. Paths of three names or more may therefore lead
to different members and to the same column.

## Main results

`column_text_eq_iff`: when the columns of two paths are written alike.
`column_text_workCity`: two cities of a record that have one column.
-/
namespace RecordSearch.Sql

/-- Two columns are written alike only if they are the same, whatever their names hold. -/
theorem column_text_inj {table table' : Option String} {name name' : String}
    (same : (Clause.column table name).text = (Clause.column table' name').text) :
    table = table' ∧ name = name' := by
  -- A text determines its tokens, and those of a column are its names without their quotes.
  have tokens : (Clause.column table name).tokens = (Clause.column table' name').tokens := by
    rw [← (readsAs_text _).lex_eq, same, (readsAs_text _).lex_eq]
  cases table <;> cases table' <;> simp_all [Clause.tokens]

/-- The column of a path: its last name, in the table that bears the name before it. -/
theorem exists_column_of_path {schema : Schema} {placeholder : String} {names : List String}
    {clause : Clause}
    (made : Clause.ofExpr schema placeholder ((Expr.param placeholder).path names) = .ok clause) :
    ∃ before last, names = before ++ [last] ∧ clause = .column before.getLast? last := by
  rcases List.eq_nil_or_concat names with rfl | ⟨before, last, rfl⟩
  · -- The record itself has no column.
    cases made
  · rw [List.concat_eq_append, Expr.path, List.foldl_concat,
      Clause.ofExpr_member_eq_ok_iff] at made
    obtain ⟨-, -, -, rfl⟩ := made
    refine ⟨before, last, List.concat_eq_append, congrArg (Clause.column · last) ?_⟩
    rcases List.eq_nil_or_concat before with rfl | ⟨start, table, rfl⟩
    · rfl
    · simp [qualifier]

/-- Two paths end in the same two names if their last names are the same, and those before them. -/
private theorem take_two_reverse_eq_iff {before before' : List String} {last last' : String} :
    (before ++ [last]).reverse.take 2 = (before' ++ [last']).reverse.take 2 ↔
      before.getLast? = before'.getLast? ∧ last = last' := by
  rcases List.eq_nil_or_concat before with rfl | ⟨start, table, rfl⟩ <;>
    rcases List.eq_nil_or_concat before' with rfl | ⟨start', table', rfl⟩ <;>
      simp [and_comm]

/-- The columns of two paths are written alike exactly if the paths end in the same two names, or
are the same single name. So paths of at most two names have different columns if they differ. -/
theorem column_text_eq_iff {schema : Schema} {placeholder : String} {p q : List String}
    {a b : Clause}
    (first : Clause.ofExpr schema placeholder ((Expr.param placeholder).path p) = .ok a)
    (second : Clause.ofExpr schema placeholder ((Expr.param placeholder).path q) = .ok b) :
    (a.text = b.text ↔ p.reverse.take 2 = q.reverse.take 2) ∧
      (p.length ≤ 2 → q.length ≤ 2 → p ≠ q → a.text ≠ b.text) := by
  have alike : a.text = b.text ↔ p.reverse.take 2 = q.reverse.take 2 := by
    obtain ⟨before, last, rfl, rfl⟩ := exists_column_of_path first
    obtain ⟨before', last', rfl, rfl⟩ := exists_column_of_path second
    rw [take_two_reverse_eq_iff]
    refine ⟨column_text_inj, ?_⟩
    rintro ⟨table, rfl⟩
    rw [table]
  refine ⟨alike, fun short short' different same => different ?_⟩
  have ends := alike.mp same
  rw [List.take_of_length_le (by simpa using short),
    List.take_of_length_le (by simpa using short')] at ends
  exact List.reverse_injective ends

/-- A record type with two addresses, each of them behind another record. -/
def staff : Schema :=
  ⟨"Staff", 0, fun
    | 0 => [.ofType "name" .string, .ofType "home" (.record 1), .ofType "work" (.record 1)]
    | 1 => [.ofType "name" .string, .ofType "address" (.record 2)]
    | _ => [.ofType "city" .string]⟩

theorem column_text_eq_iff_staff :
    ∃ a b, Clause.ofExpr staff "c" ((Expr.param "c").path ["home", "name"]) = .ok a ∧
      Clause.ofExpr staff "c" ((Expr.param "c").path ["work", "name"]) = .ok b ∧
      a.text ≠ b.text := by
  obtain ⟨a, first⟩ : ∃ a, Clause.ofExpr staff "c" ((Expr.param "c").path ["home", "name"]) =
      .ok a := ⟨_, rfl⟩
  obtain ⟨b, second⟩ : ∃ b, Clause.ofExpr staff "c" ((Expr.param "c").path ["work", "name"]) =
      .ok b := ⟨_, rfl⟩
  obtain ⟨-, apart⟩ := column_text_eq_iff first second
  exact ⟨a, b, first, second, apart (by decide) (by decide) (by decide)⟩

/-- Somebody who lives in one city and works in another. -/
def commuter : Record
  | "home" => .record "" fun _ => .record "" fun _ => .string "Bonn"
  | "work" => .record "" fun _ => .record "" fun _ => .string "Rome"
  | _ => .absent

/-- The cities of the two addresses are different members, but they have one column. -/
theorem column_text_workCity :
    ∃ (home work : List String) (a b : Clause), home ≠ work ∧
      Clause.ofExpr staff "c" ((Expr.param "c").path home) = .ok a ∧
      Clause.ofExpr staff "c" ((Expr.param "c").path work) = .ok b ∧
      a.text = b.text ∧
      (Expr.contains ((Expr.param "c").path home) "Rome").test "c" commuter = false ∧
      (Expr.contains ((Expr.param "c").path work) "Rome").test "c" commuter = true := by
  refine ⟨["home", "address", "city"], ["work", "address", "city"], _, _, ?_, rfl, rfl, rfl, ?_, ?_⟩
  · decide
  · decide
  · decide

end RecordSearch.Sql
