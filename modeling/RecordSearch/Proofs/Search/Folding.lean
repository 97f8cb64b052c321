import RecordSearch.Proofs.Predicate.Terms
import RecordSearch.Proofs.Search.Reference
import RecordSearch.Proofs.Unicode.Lowering

/-!
# The case of a query

Where case does not count, a query counts through its upper-case form alone. A query may therefore
be given in upper case as well, but not always in lower case: the small letters of six capitals
belong to other capitals.

## Main results

`compile_upper_congr`: queries with one upper-case form are compiled alike, to predicates that seek
their terms.
`selectsAlike_upper_and_lower_iff`: when a query selects the same records in another case.

## Proof strategy

The test for a blank query and the splitting see a query folded or do not tell the difference. What
the builder folds again is upper case already.
-/
namespace RecordSearch

namespace Predicate

/-- The predicate that seeks a term as it stands: in each candidate, and in nothing else. -/
def Seeks (schema : Schema) (options : Options) (fields : List Field) (term : String)
    (p : Predicate) : Prop :=
  ∃ found, candidates schema options fields = .ok found ∧ p.param = builtParam ∧
    anyOf (found.map (comparison options term)) = some p.body ∧
    p.body.needles = fillSlots (found.flatMap Candidate.slots) term ∧
    ((∀ field ∈ fields, field.body.needles = []) →
      p.body.needles = List.replicate found.length term)

theorem seeks_of_build {schema : Schema} {options : Options} {fields : List Field} {term : String}
    {p : Predicate} (folded : options.fold term = term)
    (built : build schema options fields term = .ok p) : Seeks schema options fields term p := by
  obtain ⟨found, gathered, param, joined⟩ := build_eq_ok_iff.mp built
  have needles := needles_of_build built gathered
  rw [folded] at joined needles
  refine ⟨found, gathered, param, joined, needles, fun plain => ?_⟩
  rw [needles, fillSlots_flatMap_slots fun _ member => needles_of_mem_candidates plain gathered member]

end Predicate

/-! ### Upper case -/

section Upper

variable {σ ε : Type} [Source σ ε]

/-- A query is compiled through what it is folded to. -/
theorem compile_congr_fold {options : Options} {query query' : String}
    (same : options.fold query' = options.fold query) (source : σ) (fields : Option (List Field)) :
    compile source (some query') options fields = compile source (some query) options fields := by
  have blank : isBlankQuery query' = isBlankQuery query := by
    rw [← isBlankQuery_fold options, same, isBlankQuery_fold]
  have terms : splitTerms query' options = splitTerms query options := by
    rw [splitTerms, same, splitTerms]
  simp only [compile, blank, terms]

/-- If a search succeeds, it has narrowed its source by one predicate for each term, which seeks the
term as it stands. -/
theorem exists_seeks_of_compile {source next : σ} {query : String} {options : Options}
    {fields : Option (List Field)}
    (returned : (compile source (some query) options fields).result = .ok next)
    (asked : fields ≠ some []) :
    ∃ predicates,
      List.Forall₂ (Predicate.Seeks (Source.schema σ) options (fields.getD []))
          (splitTerms query options) predicates ∧
        narrowAll predicates source = .ok next := by
  obtain ⟨predicates, built, all⟩ := compile_eq_ok_iff.mp returned
  rw [Predicate.ofQuery_eq_mapM, if_neg asked, mapM_eq_ok_iff] at built
  refine ⟨predicates, ?_, all⟩
  -- The terms are folded, so what the builder folds again stays as it is.
  rw [List.forall₂_iff_get] at built ⊢
  obtain ⟨asMany, each⟩ := built
  refine ⟨asMany, fun i inTerms inPredicates => ?_⟩
  exact Predicate.seeks_of_build (fold_eq_self_of_mem_splitTerms (List.get_mem _ _))
    (each i inTerms inPredicates)

/-- A record with a single text. -/
structure Line where
  text : String
  deriving DecidableEq

instance : Searchable Line where
  schema := ⟨"Line", 0, fun _ => [.ofType "text" .string]⟩
  record line
    | "text" => .string line.text
    | _ => .absent

end Upper

/-! ### Lower case -/

/-- Two queries select the same records where case does not count, or fail alike: of records of any
type, whatever has narrowed them, in any mode and with any fields. -/
def SelectsAlike (query query' : String) : Prop :=
  ∀ (α : Type) [Searchable α] (memory : Memory α) (mode : Mode) (fields : Option (List Field)),
    (compile memory (some query') ⟨mode, true⟩ fields).result.map Memory.hits =
      (compile memory (some query) ⟨mode, true⟩ fields).result.map Memory.hits

theorem selectsAlike_of_upper_eq {query query' : String}
    (same : Text.upper query' = Text.upper query) : SelectsAlike query query' := by
  intro α _ memory mode fields
  have folded : (⟨mode, true⟩ : Options).fold query' = (⟨mode, true⟩ : Options).fold query := same
  rw [compile_congr_fold folded]

namespace Line

theorem selected (mode : Mode) :
    (Searchable.schema Line).selected mode = [.ofType "text" .string] := by
  cases mode <;> rfl

/-- A line answers a query if its text holds every term. -/
theorem answers_iff {query : String} {mode : Mode} {line : Line} :
    (Searchable.schema Line).answers query ⟨mode, true⟩ (Searchable.record line) = true ↔
      ∀ term ∈ splitTerms query ⟨mode, true⟩, term.toList <:+: (Text.upper line.text).toList := by
  have seen : (Member.ofType "text" .string).text? ⟨mode, true⟩ (Searchable.record line) =
      some (Text.upper line.text) := rfl
  rw [Schema.answers_iff]
  refine forall₂_congr fun term _ => ?_
  simp [selected, seen]

/-- Queries that select alike are answered by the same lines. -/
theorem answers_congr {query query' : String} (alike : SelectsAlike query query') (line : Line) :
    (∀ term ∈ splitTerms query' ⟨.strict, true⟩, term.toList <:+: (Text.upper line.text).toList) ↔
      ∀ term ∈ splitTerms query ⟨.strict, true⟩,
        term.toList <:+: (Text.upper line.text).toList := by
  have given : (Searchable.schema Line).selected .strict ≠ [] := by
    rw [selected]
    exact List.cons_ne_nil _ _
  have hits := alike Line (Memory.ofList [line]) .strict none
  rw [Memory.hits_compile _ given, Memory.hits_compile _ given] at hits
  have kept := congrArg (line ∈ ·) (Except.ok.inj hits)
  simpa [Memory.ofList, Memory.hits, Memory.accepts, answers_iff] using kept

end Line

/-- A query that loses a capital in lower case does not select the same: there is a line that holds
its terms in lower case, and does not hold the capital. -/
theorem not_selectsAlike_lower {query : String} {capital : Char}
    (listed : capital ∈ Unicode.oneWayCapitals) (inside : capital ∈ query.toList) :
    ¬ SelectsAlike query (Text.lower query) := by
  intro alike
  let folded := (Unicode.lowercaseText query.toList).flatMap Unicode.uppercase
  -- The line holds the words of the lower-case form, in upper case and without gaps.
  let line : Line := ⟨String.ofList (Text.words folded).flatten⟩
  have mem_folded : ∀ c ∈ line.text.toList, c ∈ folded := by
    intro c shown
    rw [String.toList_ofList, Text.flatten_words] at shown
    exact (List.mem_filter.mp shown).1
  have shown : (Text.upper line.text).toList = line.text.toList := by
    rw [Text.toList_upper, Text.flatMap_uppercase_eq_self]
    intro c held
    obtain ⟨origin, -, yielded⟩ := List.mem_flatMap.mp (mem_folded c held)
    exact Unicode.uppercase_eq_self_of_mem yielded
  have answered : ∀ term ∈ splitTerms (Text.lower query) ⟨.strict, true⟩,
      term.toList <:+: (Text.upper line.text).toList := by
    intro term member
    obtain ⟨word, found, rfl⟩ := List.mem_map.mp member
    have spelled : (Text.upper (Text.lower query)).toList = folded := by
      rw [Text.toList_upper, Text.lower, String.toList_ofList]
    rw [shown, String.toList_ofList, String.toList_ofList]
    exact List.infix_of_mem_flatten (spelled ▸ found)
  -- The capital is in some word of the query in upper case, hence would be in the line.
  obtain ⟨word, found, held⟩ : ∃ word ∈ Text.words (Text.upper query).toList, capital ∈ word := by
    have spelled : capital ∈ (Text.upper query).toList := by
      rw [Text.toList_upper]
      exact Unicode.mem_flatMap_uppercase listed inside
    have solid := Unicode.not_isWhiteSpace_oneWayCapital capital listed
    rw [← List.mem_flatten, Text.flatten_words]
    exact List.mem_filter.mpr ⟨spelled, by simp [solid]⟩
  have missed := (Line.answers_congr alike line).mp answered (String.ofList word)
    (List.mem_map_of_mem found)
  rw [shown, String.toList_ofList] at missed
  exact Unicode.not_mem_flatMap_uppercase_lowercaseText listed query.toList
    (mem_folded capital (missed.subset held))

/-- Where case does not count, a query selects the same records as its upper-case form. As its
lower-case form it does so exactly if it holds none of the six capitals that do not come back. -/
theorem selectsAlike_upper_and_lower_iff (query : String) :
    SelectsAlike query (Text.upper query) ∧
      (SelectsAlike query (Text.lower query) ↔
        ∀ c ∈ query.toList, c ∉ Unicode.oneWayCapitals) := by
  refine ⟨selectsAlike_of_upper_eq (Text.upper_upper query), fun alike c inside listed => ?_,
    fun kept => selectsAlike_of_upper_eq ?_⟩
  · exact not_selectsAlike_lower listed inside alike
  · apply String.toList_injective
    rw [Text.toList_upper, Text.toList_upper, Text.lower, String.toList_ofList]
    exact Unicode.flatMap_uppercase_lowercaseText_eq_iff.mpr kept

/-- The capital sharp s has a small letter, of which upper-casing makes two of another. -/
theorem hits_lower_capitalSharpS :
    Text.lower "STRAẞE" = "straße" ∧
      (compile (Memory.ofList [(⟨"STRAẞE"⟩ : Line)]) (some "STRAẞE") ⟨.strict, true⟩
          none).result.map Memory.hits = .ok [⟨"STRAẞE"⟩] ∧
        (compile (Memory.ofList [(⟨"STRAẞE"⟩ : Line)]) (some "straße") ⟨.strict, true⟩
          none).result.map Memory.hits = .ok [] :=
  ⟨by decide, rfl, rfl⟩

end RecordSearch
