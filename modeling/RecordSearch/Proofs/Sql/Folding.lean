import RecordSearch.Proofs.Search.Folding
import RecordSearch.Proofs.Sql.Selection

/-!
# Two ways of folding

The database folds ASCII alone, the search in memory all of Unicode. For terms of ASCII the rows that
the database selects are accepted in memory. The converse fails for a text with a character beyond
ASCII in whose upper-case form there is a letter of ASCII, such as the long s; without such a
character the two agree, whatever else the text holds.

## Main result

`searchWith_ofTable_selects_ascii`: what the two searches make of terms of ASCII.

## Proof strategy

A term of ASCII lies within the images of a stretch of ASCII, on which both foldings are the same.
-/
namespace RecordSearch

/-! ### Texts -/

section Texts

variable {term text : List Char}

theorem toUpper_eq_self_of_beyond {c : Char} (beyond : 0x80 ≤ c.toNat) : c.toUpper = c := by
  refine Char.toUpper_eq_of_not_isLower fun lower => ?_
  simp only [Char.isLower, Bool.and_eq_true, decide_eq_true_eq, ge_iff_le,
    UInt32.le_iff_toNat_le] at lower
  have below : c.toNat ≤ 0x7A := lower.2
  omega

/-- What the database finds of ASCII is found in memory. -/
theorem infix_flatMap_uppercase (ascii : ∀ c ∈ term, c.toNat < 0x80)
    (held : term <:+: text.map Char.toUpper) : term <:+: text.flatMap Unicode.uppercase := by
  obtain ⟨stretch, inside, rfl⟩ := List.infix_map_iff.mp held
  -- The characters that ASCII comes from are of ASCII, and both foldings treat these alike.
  have same : stretch.map Char.toUpper = stretch.flatMap Unicode.uppercase := by
    rw [List.map_eq_flatMap]
    refine List.flatMap_congr fun c member => ?_
    have upper := ascii c.toUpper (List.mem_map_of_mem member)
    have below : c.toNat < 0x80 := by
      by_contra beyond
      rw [toUpper_eq_self_of_beyond (by omega)] at upper
      exact beyond upper
    exact (Unicode.uppercase_of_ascii below).symm
  rw [same]
  exact inside.flatMap _

/-- A stretch that shares nothing with what stands in front begins behind it. -/
theorem infix_of_infix_append {front : List Char} (given : term ≠ [])
    (apart : ∀ c ∈ front, c ∉ term) (held : term <:+: front ++ text) : term <:+: text := by
  induction front with
  | nil => exact held
  | cons c front ih =>
    obtain ⟨here, later⟩ := List.forall_mem_cons.mp apart
    rcases List.infix_cons_iff.mp held with starts | inside
    · obtain ⟨first, rest, rfl⟩ := List.exists_cons_of_ne_nil given
      obtain ⟨rfl, -⟩ := List.cons_prefix_cons.mp starts
      exact absurd List.mem_cons_self here
    · exact ih later inside

variable (ascii : ∀ c ∈ term, c.toNat < 0x80) (plain : ∀ c ∈ text, c ∉ Unicode.asciiBearing)
include ascii plain

theorem prefix_map_toUpper (starts : term <+: text.flatMap Unicode.uppercase) :
    term <+: text.map Char.toUpper := by
  induction text generalizing term with
  | nil => exact starts
  | cons c rest ih =>
    obtain ⟨here, later⟩ := List.forall_mem_cons.mp plain
    cases term with
    | nil => exact List.nil_prefix
    | cons first others =>
      obtain ⟨below, asciiOthers⟩ := List.forall_mem_cons.mp ascii
      rw [List.flatMap_cons] at starts
      by_cases low : c.toNat < 0x80
      · rw [Unicode.uppercase_of_ascii low, List.singleton_append, List.cons_prefix_cons] at starts
        exact List.cons_prefix_cons.mpr ⟨starts.1, ih asciiOthers later starts.2⟩
      · -- The term would begin with a character that is not of ASCII.
        obtain ⟨d, behind, image⟩ := List.exists_cons_of_ne_nil (Unicode.uppercase_ne_nil c)
        rw [image, List.cons_append, List.cons_prefix_cons] at starts
        have beyond := Unicode.not_ascii_of_mem_uppercase (by omega) here
          (image ▸ List.mem_cons_self : d ∈ Unicode.uppercase c)
        rw [← starts.1] at beyond
        omega

/-- What is found of ASCII in memory is found by the database, if no character of the text turns to
ASCII. -/
theorem infix_map_toUpper (given : term ≠ [])
    (held : term <:+: text.flatMap Unicode.uppercase) : term <:+: text.map Char.toUpper := by
  induction text with
  | nil => exact held
  | cons c rest ih =>
    obtain ⟨here, later⟩ := List.forall_mem_cons.mp plain
    by_cases low : c.toNat < 0x80
    · rw [List.flatMap_cons, Unicode.uppercase_of_ascii low, List.singleton_append,
        List.infix_cons_iff] at held
      rw [List.map_cons, List.infix_cons_iff]
      rcases held with starts | inside
      · obtain ⟨first, others, rfl⟩ := List.exists_cons_of_ne_nil given
        obtain ⟨same, behind⟩ := List.cons_prefix_cons.mp starts
        have asciiOthers := (List.forall_mem_cons.mp ascii).2
        exact Or.inl (List.cons_prefix_cons.mpr
          ⟨same, prefix_map_toUpper asciiOthers later behind⟩)
      · exact Or.inr (ih later inside)
    · rw [List.flatMap_cons] at held
      have apart : ∀ d ∈ Unicode.uppercase c, d ∉ term := fun d yielded inside => by
        have beyond := Unicode.not_ascii_of_mem_uppercase (by omega) here yielded
        have below := ascii d inside
        omega
      exact (ih later (infix_of_infix_append given apart held)).trans
        (List.suffix_cons _ _).isInfix

end Texts

/-- The terms of a query of ASCII and white space are of ASCII. -/
theorem ascii_of_mem_splitTerms {query term : String} {mode : Mode}
    (letters : ∀ c ∈ query.toList, c.toNat < 0x80 ∨ Unicode.isWhiteSpace c = true)
    (member : term ∈ splitTerms query ⟨mode, true⟩) :
    term.toList ≠ [] ∧ ∀ c ∈ term.toList, c.toNat < 0x80 := by
  obtain ⟨word, found, rfl⟩ := List.mem_map.mp member
  rw [String.toList_ofList]
  refine ⟨Text.ne_nil_of_mem_words found, fun c inside => ?_⟩
  have kept : c ∈ (Text.words (Text.upper query).toList).flatten :=
    List.mem_flatten_of_mem found inside
  rw [Text.flatten_words, Text.toList_upper, List.mem_filter, List.mem_flatMap] at kept
  obtain ⟨⟨origin, given, yielded⟩, solid⟩ := kept
  rcases letters origin given with below | white
  · rw [Unicode.uppercase_of_ascii below, List.mem_singleton] at yielded
    rw [yielded]
    exact Unicode.toNat_toUpper_lt below
  · -- White space stays white space, and a term has none.
    rw [← Unicode.isWhiteSpace_of_mem_uppercase yielded] at white
    simp [white] at solid

namespace Sql

/-- A term of ASCII that the database finds is found in memory, and the converse where no character
of the text turns to ASCII. -/
theorem contains_upper_of_asciiUpper {text term : String}
    (ascii : ∀ c ∈ term.toList, c.toNat < 0x80)
    (held : Text.contains (asciiUpper text) term = true) :
    Text.contains (Text.upper text) term = true := by
  rw [Text.contains_iff, asciiUpper, String.toList_ofList] at held
  rw [Text.contains_iff, Text.toList_upper]
  exact infix_flatMap_uppercase ascii held

theorem contains_asciiUpper_of_upper {text term : String} (given : term.toList ≠ [])
    (ascii : ∀ c ∈ term.toList, c.toNat < 0x80)
    (plain : ∀ c ∈ text.toList, c ∉ Unicode.asciiBearing)
    (held : Text.contains (Text.upper text) term = true) :
    Text.contains (asciiUpper text) term = true := by
  rw [Text.contains_iff, Text.toList_upper] at held
  rw [Text.contains_iff, asciiUpper, String.toList_ofList]
  exact infix_map_toUpper ascii plain given held

/-! ### Records -/

variable {α : Type} [Searchable α] {item : α} {row : Row}

/-- The row holds the members that a strict search looks at. -/
def StoresTexts (item : α) (row : Row) : Prop :=
  ∀ m ∈ (Searchable.schema α).selected .strict,
    Stores m.ty (Searchable.record item m.name) (row none m.name)

/-- The texts that a strict search sees of a record. -/
def textsOf (item : α) : List String :=
  ((Searchable.schema α).selected .strict).filterMap fun m =>
    (Searchable.record item m.name).asString?

theorem any_textsOf (item : α) (holds : String → Bool) :
    (textsOf item).any holds = ((Searchable.schema α).selected .strict).any fun m =>
      (Searchable.record item m.name).asString?.any holds := by
  rw [textsOf, List.any_filterMap]
  congr 1

/-- In memory a term is sought in the texts as all of Unicode is folded. -/
theorem accepts_eq_any {term : String} {p : Predicate}
    (built : Predicate.build (Searchable.schema α) ⟨.strict, true⟩ [] term = .ok p) (item : α) :
    p.accepts item =
      (textsOf item).any fun text => Text.contains (Text.upper text) (Text.upper term) := by
  rw [Predicate.accepts, Predicate.test_of_build_nil built, any_textsOf, Bool.eq_iff_iff,
    List.any_eq_true, List.any_eq_true]
  refine exists_congr fun m => and_congr_right fun selected => ?_
  rw [Member.text?, if_pos (isString_of_selected selected), Option.any_map]
  rfl

/-- In the table it is sought in the same texts as ASCII is folded. -/
theorem selects_eq_any {term : String} {p : Predicate} {clause : Clause}
    (built : Predicate.build (Searchable.schema α) ⟨.strict, true⟩ [] term = .ok p)
    (made : Clause.ofExpr (Searchable.schema α) p.param p.body = .ok clause)
    (stored : StoresTexts item row) :
    clause.reading.selects row =
      (textsOf item).any fun text => Text.contains (asciiUpper text) (Text.upper term) := by
  let text (candidate : Candidate) : Option String :=
    (candidate.value.eval Predicate.builtParam (Searchable.record item)).searchable?.map asciiUpper
  have seen : ∀ m ∈ (Searchable.schema α).selected .strict,
      text (Predicate.candidateOfMember m) =
        (Searchable.record item m.name).asString?.map asciiUpper := by
    intro m selected
    simp only [text, Predicate.candidateOfMember, isString_of_selected selected, if_true, Expr.eval,
      Operand.member]
    cases Searchable.record item m.name <;> rfl
  have gathered := Predicate.candidates_nil (Searchable.schema α) ⟨.strict, true⟩
  have texts : ∀ candidate ∈ ((Searchable.schema α).selected .strict).map
      Predicate.candidateOfMember, ∀ value,
        Clause.ofExpr (Searchable.schema α) Predicate.builtParam candidate.value = .ok value →
          value.isOperand = true ∧
            (value.reading.eval row).text?.map (foldColumn ⟨.strict, true⟩) = text candidate := by
    intro candidate inside value valued
    obtain ⟨m, selected, rfl⟩ := List.mem_map.mp inside
    have string := isString_of_selected selected
    rw [Predicate.candidateOfMember, if_pos string, Clause.ofExpr_member_eq_ok_iff] at valued
    obtain ⟨-, -, -, rfl⟩ := valued
    have held := stored m selected
    rw [MemberType.isString_iff.mp string] at held
    refine ⟨rfl, ?_⟩
    rw [seen m selected, ← held.text?_string]
    rfl
  rw [Clause.selects_of_build built gathered made texts, any_textsOf, List.any_map,
    Bool.eq_iff_iff, List.any_eq_true, List.any_eq_true]
  refine exists_congr fun m => and_congr_right fun selected => ?_
  rw [Function.comp, seen m selected, Option.any_map]
  rfl

/-- What the clause and the predicate of one term of ASCII make of a record. -/
theorem accepts_of_selects {term : String} {p : Predicate} {clause : Clause}
    (folded : Text.upper term = term) (ascii : ∀ c ∈ term.toList, c.toNat < 0x80)
    (built : Predicate.build (Searchable.schema α) ⟨.strict, true⟩ [] term = .ok p)
    (made : Clause.ofExpr (Searchable.schema α) p.param p.body = .ok clause)
    (stored : StoresTexts item row) (selected : clause.reading.selects row = true) :
    p.accepts item = true := by
  rw [selects_eq_any built made stored, folded] at selected
  rw [accepts_eq_any built, folded]
  obtain ⟨text, inside, held⟩ := List.any_eq_true.mp selected
  exact List.any_eq_true.mpr ⟨text, inside, contains_upper_of_asciiUpper ascii held⟩

theorem selects_of_accepts {term : String} {p : Predicate} {clause : Clause}
    (folded : Text.upper term = term)
    (ascii : term.toList ≠ [] ∧ ∀ c ∈ term.toList, c.toNat < 0x80)
    (built : Predicate.build (Searchable.schema α) ⟨.strict, true⟩ [] term = .ok p)
    (made : Clause.ofExpr (Searchable.schema α) p.param p.body = .ok clause)
    (stored : StoresTexts item row)
    (plain : ∀ text ∈ textsOf item, ∀ c ∈ text.toList, c ∉ Unicode.asciiBearing)
    (accepted : p.accepts item = true) : clause.reading.selects row = true := by
  rw [accepts_eq_any built, folded] at accepted
  rw [selects_eq_any built made stored, folded]
  obtain ⟨text, inside, held⟩ := List.any_eq_true.mp accepted
  exact List.any_eq_true.mpr
    ⟨text, inside, contains_asciiUpper_of_upper ascii.1 ascii.2 (plain text inside) held⟩

/-- Where case does not count, a strict search for ASCII and white space selects in a table only
rows of records that are accepted in memory. It selects the rows of all of them that hold none of
the characters whose upper-case form has a letter of ASCII. -/
theorem searchWith_ofTable_selects_ascii {table query : String} {translated : Query α}
    (letters : ∀ c ∈ query.toList, c.toNat < 0x80 ∨ Unicode.isWhiteSpace c = true)
    (returned : (searchWith (Query.ofTable table : Query α) (some query) ⟨.strict, true⟩).result =
      .ok translated) (items : List α) :
    ∃ statement found,
      Statement.read translated.text translated.params = some statement ∧
        statement.table = table ∧
        (searchWith (Memory.ofList items) (some query) ⟨.strict, true⟩).result = .ok found ∧
        ∀ (item : α) (row : Row), StoresTexts item row →
          (statement.selects row = true → found.accepts item = true) ∧
            ((∀ text ∈ textsOf item, ∀ c ∈ text.toList, c ∉ Unicode.asciiBearing) →
              statement.selects row = found.accepts item) := by
  obtain ⟨predicates, asked, narrowed⟩ := compile_eq_ok_iff.mp returned
  obtain ⟨clauses, made, rfl⟩ := Query.narrowAll_eq_ok_iff.mp narrowed
  have terms : ∀ p ∈ predicates, ∃ term : String, Text.upper term = term ∧
      (term.toList ≠ [] ∧ ∀ c ∈ term.toList, c.toNat < 0x80) ∧
        Predicate.build (Searchable.schema α) ⟨.strict, true⟩ [] term = .ok p := by
    intro p member
    obtain ⟨term, queried, built⟩ := Predicate.exists_term_of_mem_ofQuery asked member
    rw [queryTerms, Option.elim_some] at queried
    have folded : Text.upper term = term := fold_eq_self_of_mem_splitTerms queried
    exact ⟨term, folded, ascii_of_mem_splitTerms letters queried, built⟩
  refine ⟨_, ⟨items, predicates⟩, Statement.read_text rfl, rfl, ?_, ?_⟩
  · rw [searchWith, Memory.result_compile]
    exact congrArg (Except.map _) asked
  · intro item row stored
    have selects : (∀ clause ∈ clauses, clause.reading.selects row = true) →
        ∀ p ∈ predicates, p.accepts item = true := by
      intro each p member
      obtain ⟨term, folded, ascii, built⟩ := terms p member
      obtain ⟨clause, inside, translated⟩ := exists_of_mem_left made member
      exact accepts_of_selects folded ascii.2 built translated stored (each clause inside)
    have accepts : (∀ text ∈ textsOf item, ∀ c ∈ text.toList, c ∉ Unicode.asciiBearing) →
        (∀ p ∈ predicates, p.accepts item = true) →
          ∀ clause ∈ clauses, clause.reading.selects row = true := by
      intro plain each clause inside
      obtain ⟨p, member, translated⟩ := exists_of_mem_right made inside
      obtain ⟨term, folded, ascii, built⟩ := terms p member
      exact selects_of_accepts folded ascii built translated stored plain (each p member)
    rw [← List.all_eq_true, ← List.all_eq_true] at selects accepts
    rw [Statement.selects, all_selects_conjunction, Memory.accepts]
    exact ⟨selects, fun plain => Bool.eq_iff_iff.mpr ⟨selects, accepts plain⟩⟩

/-- The row of a line. -/
def rowOf (line : Line) : Row
  | none, "text" => .text line.text
  | _, _ => .null

theorem storesTexts_rowOf (line : Line) : StoresTexts line (rowOf line) := by
  intro m selected
  rw [Line.selected, List.mem_singleton] at selected
  rw [selected]
  exact .string line.text

theorem searchWith_ofTable_selects_ascii_line :
    (∀ c ∈ "soc caf".toList, c.toNat < 0x80 ∨ Unicode.isWhiteSpace c = true) ∧
      ∃ translated statement found,
        (searchWith (Query.ofTable "lines" : Query Line) (some "soc caf") ⟨.strict, true⟩).result =
            .ok translated ∧
          Statement.read translated.text translated.params = some statement ∧
          (searchWith (Memory.ofList ([] : List Line)) (some "soc caf") ⟨.strict, true⟩).result =
            .ok found ∧
          statement.selects (rowOf ⟨"Café Society"⟩) = true ∧
          found.accepts ⟨"Café Society"⟩ = true := by
  have letters : ∀ c ∈ "soc caf".toList, c.toNat < 0x80 ∨ Unicode.isWhiteSpace c = true := by
    intro c inside
    have ascii : ("soc caf".toList.all fun c => decide (c.toNat < 0x80)) = true := rfl
    exact Or.inl (of_decide_eq_true (List.all_eq_true.mp ascii c inside))
  obtain ⟨translated, returned⟩ : ∃ translated, (searchWith (Query.ofTable "lines" : Query Line)
      (some "soc caf") ⟨.strict, true⟩).result = .ok translated := ⟨_, rfl⟩
  obtain ⟨statement, found, read, -, accepted, alike⟩ :=
    searchWith_ofTable_selects_ascii letters returned []
  obtain ⟨-, same⟩ := alike ⟨"Café Society"⟩ (rowOf ⟨"Café Society"⟩) (storesTexts_rowOf _)
  have plain : ∀ text ∈ textsOf (⟨"Café Society"⟩ : Line), ∀ c ∈ text.toList,
      c ∉ Unicode.asciiBearing := by
    have shown : textsOf (⟨"Café Society"⟩ : Line) = ["Café Society"] := rfl
    simp [shown, Unicode.asciiBearing]
  have accepts : found.accepts ⟨"Café Society"⟩ = true := by
    obtain rfl := Except.ok.inj accepted
    rfl
  refine ⟨letters, translated, statement, found, returned, read, accepted, ?_, accepts⟩
  rw [same plain, accepts]

/-- In upper case the long s is an ordinary one, which the database does not know. -/
theorem selects_longS :
    ∃ (translated : Query Line) (statement : Statement) (found : Memory Line),
      (searchWith (Query.ofTable "lines" : Query Line) (some "s") ⟨.strict, true⟩).result =
          .ok translated ∧
        Statement.read translated.text translated.params = some statement ∧
        (searchWith (Memory.ofList ([] : List Line)) (some "s") ⟨.strict, true⟩).result =
          .ok found ∧
        StoresTexts (⟨"ſ"⟩ : Line) (rowOf ⟨"ſ"⟩) ∧
        statement.selects (rowOf ⟨"ſ"⟩) = false ∧ found.accepts ⟨"ſ"⟩ = true :=
  ⟨_, _, _, rfl, Statement.read_text rfl, rfl, storesTexts_rowOf _, rfl, rfl⟩

end Sql

end RecordSearch
