import RecordSearch.Proofs.Expr.Renaming
import RecordSearch.Proofs.Expr.Soundness
import RecordSearch.Proofs.Predicate.Matching

/-!
# Explicit fields

A field is searched over the placeholder of the builder. For a field that mentions no placeholder
but its own this makes no difference: it is accepted if its body is a text, and found by the text
that the body has under its own placeholder. A placeholder that a field does not own is bound by
nobody, unless it bears the name of the builder's: then it is taken for the record.

## Main results

`build_fields`: when the fields of a search are accepted, and what their predicate accepts.
`build_of_foreign`: what becomes of placeholders that a field does not own.
`eval_of_build`: what an accepted field evaluates to on a record that keeps to its declaration.
-/
namespace RecordSearch

open Predicate (builtParam)

namespace Field

/-- Whether a field mentions no placeholder but its own. -/
def IsClosed (field : Field) : Prop :=
  ∀ name, field.body.mentions name = true → name = field.param

/-- Whether the body of a field, over the placeholder of the field, is a text. -/
def IsText (schema : Schema) (field : Field) : Prop :=
  ∃ resolved, field.body.resolve schema field.param = .ok resolved ∧ resolved.ty = .string

/-- The error of a field that is no text: its body has a fault, which it has over the builder's
placeholder too and which is reported there, or is something else. -/
inductive Offends (schema : Schema) (field : Field) : SearchError → Prop
  | fault (fault : Fault)
      (failed : field.body.resolve schema field.param = .error (fault.error schema))
      (bound : (field.bind builtParam).resolve schema builtParam =
        .error ((fault.rename field.param builtParam).error schema)) :
      Offends schema field ((fault.rename field.param builtParam).error schema)
  | noText (resolved : Resolved) (resolves : field.body.resolve schema field.param = .ok resolved)
      (other : resolved.ty ≠ .string) :
      Offends schema field (.fieldNotText field.text resolved.ty.name)

variable {schema : Schema} {field : Field}

theorem IsClosed.canRename (closed : field.IsClosed) (new : String) :
    field.body.CanRename field.param new :=
  closed new

theorem Offends.ne_noSearchableFields {e : SearchError} (offends : field.Offends schema e)
    (typeName : String) : e ≠ .noSearchableFields typeName := by
  cases offends with
  | fault fault failed bound => cases fault <;> simp [Fault.rename, Fault.error]
  | noText resolved resolves other => simp

end Field

/-- A record with a text and a number. -/
structure Book where
  title : String
  year : UInt64

instance : Searchable Book where
  schema := ⟨"Book", 0, fun _ => [.ofType "title" .string, .ofType "year" .number]⟩
  record book
    | "title" => .string book.title
    | "year" => .number (.unsigned book.year)
    | _ => .absent

theorem Book.describes (book : Book) :
    (Searchable.schema Book).Describes (Searchable.record book) := by
  intro m declared
  change m ∈ [_, _] at declared
  simp only [List.mem_cons, List.not_mem_nil, or_false] at declared
  rcases declared with rfl | rfl
  · exact .string false book.title
  · exact .number false (.unsigned book.year)

namespace Predicate

variable {schema : Schema} {options : Options} {fields : List Field} {field : Field}
  {term : String}

/-! ### Fields as candidates -/

theorem candidateOfField_of_resolves {resolved : Resolved}
    (resolves : (field.bind builtParam).resolve schema builtParam = .ok resolved) :
    candidateOfField schema field =
      if resolved.ty = .string then .ok ⟨field.bind builtParam, resolved.isNullable⟩
      else .error (.fieldNotText field.text resolved.ty.name) := by
  rw [candidateOfField, resolves]
  simp only [← MemberType.isString_iff]
  rfl

/-- A closed field is a candidate if it is a text, and has an error of its own otherwise. -/
theorem candidateOfField_cases (schema : Schema) (closed : field.IsClosed) :
    (field.IsText schema ∧ ∃ isNullable,
        candidateOfField schema field = .ok ⟨field.bind builtParam, isNullable⟩) ∨
      ¬ field.IsText schema ∧
        ∃ e, field.Offends schema e ∧ candidateOfField schema field = .error e := by
  have alike : Expr.Alike schema field.param builtParam (field.body.resolve schema field.param)
      ((field.bind builtParam).resolve schema builtParam) :=
    Expr.resolve_rename (closed.canRename builtParam)
  -- The outcomes over both placeholders are one case of `Alike`.
  generalize own : field.body.resolve schema field.param = outcome at alike
  generalize bound : (field.bind builtParam).resolve schema builtParam = outcome' at alike
  cases alike with
  | ok resolved =>
    rw [candidateOfField_of_resolves bound]
    by_cases string : resolved.ty = .string
    · exact Or.inl ⟨⟨resolved, own, string⟩, _, if_pos string⟩
    · refine Or.inr ⟨?_, _, .noText resolved own string, if_neg string⟩
      rintro ⟨resolved', own', string'⟩
      obtain rfl : resolved = resolved' := Except.ok.inj (own.symm.trans own')
      exact string string'
  | error fault =>
    refine Or.inr ⟨?_, _, .fault fault own bound, ?_⟩
    · rintro ⟨resolved, own', -⟩
      cases own.symm.trans own'
    · rw [candidateOfField, bound]
      rfl

theorem isText_of_candidateOfField {candidate : Candidate} (closed : field.IsClosed)
    (made : candidateOfField schema field = .ok candidate) : field.IsText schema := by
  rcases candidateOfField_cases schema closed with ⟨text, -⟩ | ⟨-, e, -, failed⟩
  · exact text
  · cases made.symm.trans failed

theorem offends_of_candidateOfField {e : SearchError} (closed : field.IsClosed)
    (failed : candidateOfField schema field = .error e) : field.Offends schema e := by
  rcases candidateOfField_cases schema closed with
    ⟨-, _, made⟩ | ⟨-, e', offends, failed'⟩
  · cases made.symm.trans failed
  · obtain rfl : e' = e := Except.error.inj (failed'.symm.trans failed)
    exact offends

theorem value_of_candidateOfField {candidate : Candidate}
    (made : candidateOfField schema field = .ok candidate) :
    candidate.value = field.bind builtParam := by
  obtain ⟨resolved, -, -, rfl⟩ := candidateOfField_eq_ok_iff.mp made
  rfl

/-! ### The predicate of fields -/

theorem candidates_of_ne_nil (given : fields ≠ []) :
    candidates schema options fields = fields.mapM (candidateOfField schema) := by
  simp [candidates, given]

/-- With fields, only their candidates can fail: there is always something to test. -/
theorem build_eq_error_iff {e : SearchError} (given : fields ≠ []) :
    build schema options fields term = .error e ↔
      fields.mapM (candidateOfField schema) = .error e := by
  rw [build_eq_error_iff_candidates, candidates_of_ne_nil given]
  constructor
  · rintro (failed | ⟨none, -⟩)
    · exact failed
    · -- There are as many candidates as fields.
      cases mapM_eq_ok_iff.mp none
      exact absurd rfl given
  · exact Or.inl

theorem exists_build_iff (given : fields ≠ []) :
    (∃ p, build schema options fields term = .ok p) ↔
      ∀ field ∈ fields, ∃ candidate, candidateOfField schema field = .ok candidate := by
  constructor
  · rintro ⟨p, built⟩ field inside
    obtain ⟨found, gathered, -⟩ := build_eq_ok_iff.mp built
    rw [candidates_of_ne_nil given] at gathered
    obtain ⟨candidate, -, made⟩ := exists_of_mem_left (mapM_eq_ok_iff.mp gathered) inside
    exact ⟨candidate, made⟩
  · intro each
    obtain ⟨found, gathered⟩ := exists_mapM_eq_ok each
    cases built : build schema options fields term with
    | ok p => exact ⟨p, rfl⟩
    | error e => cases gathered.symm.trans ((build_eq_error_iff given).mp built)

/-- The test of explicit fields, each over the builder's placeholder. -/
theorem test_of_build_fields {p : Predicate} (given : fields ≠ [])
    (built : build schema options fields term = .ok p) (record : Record) :
    p.body.test p.param record = fields.any fun field =>
      (((field.bind builtParam).eval builtParam record).searchable?.map options.fold).any
        (Text.contains · (options.fold term)) := by
  obtain ⟨found, gathered, -⟩ := build_eq_ok_iff.mp built
  rw [test_of_build built gathered]
  rw [candidates_of_ne_nil given, mapM_eq_ok_iff] at gathered
  have same := map_eq_of_forall₂ (f := fun field => field.bind builtParam)
    (g := Candidate.value) gathered
    fun field _ candidate made => (value_of_candidateOfField made).symm
  calc found.any _ = (found.map Candidate.value).any fun value =>
          ((value.eval builtParam record).searchable?.map options.fold).any
            (Text.contains · (options.fold term)) := by rw [List.any_map]; rfl
    _ = _ := by rw [← same, List.any_map]; rfl

variable {α : Type} [Searchable α]

/-- A search of explicit fields means the fields as they are written: it is accepted if each of them
is a text under its own placeholder, fails with the error of the first that is none, and finds the
records where the text of some field, under its own placeholder, holds the term. -/
theorem build_fields (options : Options) (term : String) (given : fields ≠ [])
    (closed : ∀ field ∈ fields, field.IsClosed) :
    ((∃ p, build (Searchable.schema α) options fields term = .ok p) ↔
        ∀ field ∈ fields, field.IsText (Searchable.schema α)) ∧
      (∀ e, build (Searchable.schema α) options fields term = .error e →
        (∃ before field after, fields = before ++ field :: after ∧
          (∀ earlier ∈ before, earlier.IsText (Searchable.schema α)) ∧
          field.Offends (Searchable.schema α) e) ∧
        ∀ typeName, e ≠ .noSearchableFields typeName) ∧
      ∀ p, build (Searchable.schema α) options fields term = .ok p → ∀ item : α,
        p.accepts item = true ↔ ∃ field ∈ fields, ∃ text,
          (field.body.eval field.param (Searchable.record item)).searchable? = some text ∧
            Text.contains (options.fold text) (options.fold term) = true := by
  refine ⟨?_, ?_, ?_⟩
  · rw [exists_build_iff given]
    refine forall₂_congr fun field inside => ?_
    constructor
    · rintro ⟨candidate, made⟩
      exact isText_of_candidateOfField (closed field inside) made
    · intro text
      rcases candidateOfField_cases _ (closed field inside) with ⟨-, _, made⟩ | ⟨noText, -⟩
      · exact ⟨_, made⟩
      · exact absurd text noText
  · intro e failed
    rw [build_eq_error_iff given, mapM_eq_error_iff] at failed
    obtain ⟨before, field, after, rfl, earlier, here⟩ := failed
    -- The first field that is no candidate is the first that is no text.
    have offends := offends_of_candidateOfField (closed field (by simp)) here
    refine ⟨⟨before, field, after, rfl, fun other inside => ?_, offends⟩,
      offends.ne_noSearchableFields⟩
    obtain ⟨candidate, made⟩ := earlier other inside
    exact isText_of_candidateOfField (closed other (by simp [inside])) made
  · intro p built item
    rw [accepts, test_of_build_fields given built, List.any_eq_true]
    refine exists_congr fun field => and_congr_right fun inside => ?_
    -- Over its own placeholder the body has the text that it has over the builder's.
    rw [Field.bind, Expr.eval_rename ((closed field inside).canRename builtParam),
      Option.any_map]
    simp [Option.any_eq_true]

/-- The title, and whether the year is given, each over a placeholder of its own. -/
def Book.ownFields : List Field :=
  [.ofName "title", ⟨"b", .toText (.isPresent (.member (.param "b") "year"))⟩]

theorem build_fields_book :
    Book.ownFields ≠ [] ∧ (∀ field ∈ Book.ownFields, field.IsClosed) ∧
      ∃ p, build (Searchable.schema Book) ⟨.strict, true⟩ Book.ownFields "oth" = .ok p ∧
        ∀ book : Book, p.accepts book = true ↔ ∃ field ∈ Book.ownFields, ∃ text,
          (field.body.eval field.param (Searchable.record book)).searchable? = some text ∧
            Text.contains (Options.fold ⟨.strict, true⟩ text)
              (Options.fold ⟨.strict, true⟩ "oth") = true := by
  have given : Book.ownFields ≠ [] := by simp [Book.ownFields]
  have closed : ∀ field ∈ Book.ownFields, field.IsClosed := by
    simp only [Book.ownFields, List.forall_mem_cons]
    exact ⟨fun name mentioned => (eq_of_beq mentioned).symm,
      fun name mentioned => (eq_of_beq mentioned).symm, by simp⟩
  have texts : ∀ field ∈ Book.ownFields, field.IsText (Searchable.schema Book) := by
    simp only [Book.ownFields, List.forall_mem_cons]
    exact ⟨⟨_, rfl, rfl⟩, ⟨_, rfl, rfl⟩, by simp⟩
  obtain ⟨accepted, -, found⟩ := build_fields (α := Book) ⟨.strict, true⟩ "oth" given closed
  obtain ⟨p, built⟩ := accepted.mpr texts
  exact ⟨given, closed, p, built, found p built⟩

/-! ### Foreign placeholders -/

/-- What fields yield depends on their bodies over the builder's placeholder alone. -/
theorem mapM_candidateOfField_eq_ok_iff {found : List Candidate} :
    fields.mapM (candidateOfField schema) = .ok found ↔
      List.Forall₂ (fun value candidate => ∃ resolved,
          value.resolve schema builtParam = .ok resolved ∧ resolved.ty = .string ∧
            candidate = ⟨value, resolved.isNullable⟩)
        (fields.map (·.bind builtParam)) found := by
  rw [mapM_eq_ok_iff, List.forall₂_map_left_iff]
  simp only [candidateOfField_eq_ok_iff]

theorem build_eq_ok_congr {others : List Field} {p : Predicate} (given : fields ≠ [])
    (same : fields.map (·.bind builtParam) = others.map (·.bind builtParam)) :
    build schema options fields term = .ok p ↔ build schema options others term = .ok p := by
  have given' : others ≠ [] := by
    rintro rfl
    exact given (List.map_eq_nil_iff.mp same)
  rw [build_eq_ok_iff, build_eq_ok_iff, candidates_of_ne_nil given, candidates_of_ne_nil given']
  simp only [mapM_candidateOfField_eq_ok_iff, same]

/-- A field that mentions a placeholder bound by nobody is refused, with whatever other fields. -/
theorem exists_error_of_mentions {name : String} (inside : field ∈ fields)
    (mentioned : field.body.mentions name = true) (foreign : name ≠ field.param)
    (unbound : name ≠ builtParam) : ∃ e, build schema options fields term = .error e := by
  have kept : (field.bind builtParam).mentions name = true := by
    simpa [foreign, Field.bind] using
      Expr.mentions_rename field.param builtParam mentioned
  cases built : build schema options fields term with
  | error e => exact ⟨e, rfl⟩
  | ok p =>
    -- The body of an accepted field resolves, and so mentions the builder's placeholder alone.
    have given : fields ≠ [] := List.ne_nil_of_mem inside
    obtain ⟨candidate, made⟩ := (exists_build_iff given).mp ⟨p, built⟩ field inside
    obtain ⟨resolved, resolves, -⟩ := candidateOfField_eq_ok_iff.mp made
    exact absurd (Expr.eq_of_mentions resolves kept) unbound

/-- A placeholder that a field does not own makes the search fail, unless it is called like the
builder's: that one is taken for the field's own. Renaming the field's own placeholder does not
change what is built, and renaming another to one that the field does not own leaves it refused,
with the same exception. -/
theorem build_of_foreign (schema : Schema) (options : Options) (term : String) (field : Field) :
    (∀ name, field.body.mentions name = true → name ≠ field.param → name ≠ builtParam →
        ∀ fields, field ∈ fields → ∃ e, build schema options fields term = .error e) ∧
      (∀ p, build schema options [field] term = .ok p ↔
        build schema options [⟨builtParam, field.bind builtParam⟩] term = .ok p) ∧
      (∀ new, field.body.CanRename field.param new → ∀ p,
        build schema options [⟨new, field.body.rename field.param new⟩] term = .ok p ↔
          build schema options [field] term = .ok p) ∧
      ∀ old new, field.body.mentions old = true → new ≠ field.param → new ≠ builtParam →
        ∃ e, build schema options [⟨field.param, field.body.rename old new⟩] term = .error e := by
  refine ⟨?_, ?_, ?_, ?_⟩
  · intro name mentioned foreign unbound fields inside
    exact exists_error_of_mentions inside mentioned foreign unbound
  · intro p
    exact build_eq_ok_congr (by simp) (by simp [Field.bind])
  · intro new free p
    refine build_eq_ok_congr (by simp) ?_
    simp only [List.map_cons, List.map_nil, Field.bind, Expr.rename_rename free]
  · intro old new mentioned foreign unbound
    have renamed := Expr.mentions_rename old new mentioned
    rw [if_pos rfl] at renamed
    exact exists_error_of_mentions (List.mem_singleton_self _) renamed foreign unbound

theorem build_of_foreign_title :
    ∃ field : Field, field = ⟨"x", .member (.param "y") "title"⟩ ∧
      (∃ e, build (Searchable.schema Book) ⟨.strict, false⟩ [.ofName "title", field] "Oth" =
        .error e) ∧
      (∀ p, build (Searchable.schema Book) ⟨.strict, false⟩ [⟨"z", field.body.rename "x" "z"⟩]
          "Oth" = .ok p ↔
        build (Searchable.schema Book) ⟨.strict, false⟩ [field] "Oth" = .ok p) ∧
      ∃ e, build (Searchable.schema Book) ⟨.strict, false⟩ [⟨"x", field.body.rename "y" "z"⟩]
        "Oth" = .error e := by
  obtain ⟨refused, -, own, others⟩ := build_of_foreign (Searchable.schema Book) ⟨.strict, false⟩
    "Oth" ⟨"x", .member (.param "y") "title"⟩
  refine ⟨_, rfl, ?_, ?_, ?_⟩
  · exact refused "y" rfl (by decide) (by decide) _ (by simp)
  · exact own "z" fun mentioned => absurd mentioned (by decide)
  · exact others "y" "z" rfl (by decide) (by decide)

/-- A field over `x` that mentions `c` only is accepted, and searches the title all the same. -/
theorem build_of_captured_title :
    (Expr.member (.param "c") "title").mentions "c" = true ∧ "c" ≠ "x" ∧
      ∃ p, build (Searchable.schema Book) ⟨.strict, false⟩
          [⟨"x", .member (.param "c") "title"⟩] "Oth" = .ok p ∧
        p.accepts (⟨"Othello", 1597⟩ : Book) = true := by
  refine ⟨rfl, by decide, ⟨builtParam, _⟩, rfl, ?_⟩
  decide

/-! ### What accepted fields evaluate to -/

theorem build_singleton_eq_error {resolved : Resolved}
    (resolves : (field.bind builtParam).resolve schema builtParam = .ok resolved)
    (other : resolved.ty ≠ .string) :
    build schema options [field] term = .error (.fieldNotText field.text resolved.ty.name) := by
  rw [build_eq_error_iff (by simp)]
  refine mapM_eq_error ?_
  rw [candidateOfField_of_resolves resolves, if_neg other]

/-- On a record that keeps to its declaration an accepted field is a text, or absent and declared
nullable, unless its text is lost: then it is absent on every such record. A field that resolves to
anything else than a string is refused. -/
theorem eval_of_build {record : Record} (described : schema.Describes record)
    (avoids : (field.bind builtParam).AvoidsCollections schema builtParam) :
    (∀ options fields term p, field ∈ fields → build schema options fields term = .ok p →
        ∃ resolved, (field.bind builtParam).resolve schema builtParam = .ok resolved ∧
          resolved.ty = .string ∧
          ((field.bind builtParam).losesText schema builtParam = false →
            (∃ s, ((field.bind builtParam).eval builtParam record).searchable? = some s) ∨
              ((field.bind builtParam).eval builtParam record).isAbsent = true ∧
                resolved.isNullable = true) ∧
          ((field.bind builtParam).losesText schema builtParam = true →
            ((field.bind builtParam).eval builtParam record).isAbsent = true)) ∧
      ∀ options term resolved,
        (field.bind builtParam).resolve schema builtParam = .ok resolved →
          resolved.ty ≠ .string → build schema options [field] term =
            .error (.fieldNotText field.text resolved.ty.name) := by
  refine ⟨?_, ?_⟩
  · intro options fields term p inside built
    have given : fields ≠ [] := List.ne_nil_of_mem inside
    obtain ⟨candidate, made⟩ := (exists_build_iff given).mp ⟨p, built⟩ field inside
    obtain ⟨resolved, resolves, string, -⟩ := candidateOfField_eq_ok_iff.mp made
    have fits := Expr.fits_eval described resolves avoids
    exact ⟨resolved, resolves, string, fits.text_or_absent string⟩
  · intro options term resolved resolves other
    exact build_singleton_eq_error resolves other

/-- The text of the year, in upper case. -/
def Book.yearText : Field := .ofBody fun x => .upper (.toText (.member x "year"))

theorem eval_of_build_yearText :
    (Searchable.schema Book).Describes (Searchable.record (⟨"Othello", 1597⟩ : Book)) ∧
      ((Book.yearText.bind builtParam).AvoidsCollections (Searchable.schema Book) builtParam) ∧
      (∃ p, build (Searchable.schema Book) ⟨.all, true⟩ [Book.yearText] "15" = .ok p) ∧
      ∃ s, ((Book.yearText.bind builtParam).eval builtParam
        (Searchable.record (⟨"Othello", 1597⟩ : Book))).searchable? = some s := by
  have described := Book.describes ⟨"Othello", 1597⟩
  have avoids : (Book.yearText.bind builtParam).AvoidsCollections (Searchable.schema Book)
      builtParam := by
    refine ⟨trivial, fun resolved resolves => ?_⟩
    cases resolves
    decide
  obtain ⟨p, built⟩ : ∃ p,
      build (Searchable.schema Book) ⟨.all, true⟩ [Book.yearText] "15" = .ok p := ⟨_, rfl⟩
  obtain ⟨accepted, -⟩ := eval_of_build described avoids
  obtain ⟨resolved, resolves, -, texts, -⟩ :=
    accepted _ _ _ p (List.mem_singleton_self _) built
  cases resolves
  rcases texts rfl with text | ⟨-, nullable⟩
  · exact ⟨described, avoids, ⟨p, built⟩, text⟩
  · cases nullable

/-- The upper-case form of the year itself is accepted as a string that is always present, and is
absent on a record that keeps to its declaration. -/
theorem build_of_upper_year :
    ∃ field : Field, field = .ofBody (fun x => .upper (.member x "year")) ∧
      (∃ p, build (Searchable.schema Book) ⟨.all, false⟩ [field] "15" = .ok p) ∧
      (field.bind builtParam).resolve (Searchable.schema Book) builtParam =
        .ok ⟨.string, false⟩ ∧
      (field.bind builtParam).AvoidsCollections (Searchable.schema Book) builtParam ∧
      (Searchable.schema Book).Describes (Searchable.record (⟨"Othello", 1597⟩ : Book)) ∧
      ((field.bind builtParam).eval builtParam
        (Searchable.record (⟨"Othello", 1597⟩ : Book))).isAbsent = true := by
  refine ⟨_, rfl, ⟨_, rfl⟩, rfl, ⟨trivial, fun resolved resolves => ?_⟩, Book.describes _, rfl⟩
  cases resolves
  decide

end Predicate

end RecordSearch
