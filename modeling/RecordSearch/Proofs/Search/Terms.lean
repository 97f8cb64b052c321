import RecordSearch.Proofs.Unicode.Casing
import RecordSearch.Search

/-!
# Terms of a query

A query has a term unless it is blank, and a term is already folded: folding it once more, as the
building of a predicate does, changes nothing.

## Main results

`splitTerms_eq_nil_iff`: exactly a blank query has no terms.
`fold_eq_self_of_mem_splitTerms`: a term is its own folded form.
`splitTerms_eq_map_fold`: the terms of a query where case does not count, from its terms where it
does.
`splitTerms_append`: white space between two texts keeps their terms apart.
-/
namespace RecordSearch

namespace Text

open Unicode

private theorem flatten_splitOnP (text : List Char) :
    (text.splitOnP isWhiteSpace).flatten = text.filter (!isWhiteSpace ·) := by
  induction text with
  | nil => simp [List.splitOnP_nil]
  | cons c rest ih =>
    rw [List.splitOnP_cons_eq_if_modifyHead]
    by_cases blank : isWhiteSpace c = true
    · simp [blank, ih]
    · -- The character goes to the front of the first piece, and there always is one.
      obtain ⟨piece, pieces, split⟩ :=
        List.exists_cons_of_ne_nil (List.splitOnP_ne_nil isWhiteSpace rest)
      rw [split] at ih
      simpa [blank, split] using ih

/-- The words of a text hold its characters in order, white space apart. -/
theorem flatten_words (text : List Char) :
    (words text).flatten = text.filter (!isWhiteSpace ·) := by
  rw [words, List.flatten_filter_not_isEmpty, flatten_splitOnP]

theorem mem_of_mem_words {text word : List Char} {c : Char} (member : word ∈ words text)
    (inside : c ∈ word) : c ∈ text := by
  have gathered : c ∈ (words text).flatten := List.mem_flatten_of_mem member inside
  rw [flatten_words] at gathered
  exact (List.mem_filter.mp gathered).1

theorem ne_nil_of_mem_words {text word : List Char} (member : word ∈ words text) : word ≠ [] := by
  simpa using (List.mem_filter.mp member).2

theorem words_eq_nil_iff {text : List Char} : words text = [] ↔ isBlank text = true := by
  simp only [isBlank, List.all_eq_true]
  constructor
  · -- Without words no character is left that is no blank.
    intro none c inside
    have empty := flatten_words text
    rw [none, List.flatten_nil, eq_comm, List.filter_eq_nil_iff] at empty
    simpa using empty c inside
  · intro blank
    -- Words are not empty, so none can be left if their characters are gone.
    have empty : (words text).flatten = [] := by
      rw [flatten_words, List.filter_eq_nil_iff]
      intro c inside
      simp [blank c inside]
    rw [List.eq_nil_iff_forall_not_mem]
    intro word member
    exact ne_nil_of_mem_words member (List.flatten_eq_nil_iff.mp empty word member)

/-- White space in front belongs to no word. -/
theorem words_blank_append {blank : List Char} (white : isBlank blank = true) (rest : List Char) :
    words (blank ++ rest) = words rest := by
  induction blank with
  | nil => rfl
  | cons c blank ih =>
    rw [isBlank, List.all_cons, Bool.and_eq_true] at white
    rw [List.cons_append, words_cons_blank white.1, ih white.2]

/-- White space cuts the words of a text in two, if there is any. -/
theorem words_append_blank {blank : List Char} (given : blank ≠ []) (white : isBlank blank = true)
    (left right : List Char) : words (left ++ blank ++ right) = words left ++ words right := by
  obtain ⟨c, rest, rfl⟩ := List.exists_cons_of_ne_nil given
  rw [isBlank, List.all_cons, Bool.and_eq_true] at white
  -- The first blank cuts; the others stand in front of what is on the right.
  rw [List.append_assoc, List.cons_append, words_append_cons white.1, words_blank_append white.2]

theorem flatMap_uppercase_eq_self {text : List Char} (stable : ∀ c ∈ text, uppercase c = [c]) :
    text.flatMap uppercase = text := by
  rw [List.flatMap_congr stable, List.flatMap_singleton']

theorem isBlank_flatMap_uppercase (text : List Char) :
    isBlank (text.flatMap uppercase) = isBlank text := by
  induction text with
  | nil => rfl
  | cons c rest ih =>
    -- An image that were empty would be blank whatever the character is.
    obtain ⟨first, others, image⟩ := List.exists_cons_of_ne_nil (uppercase_ne_nil c)
    have same : isBlank (uppercase c) = isWhiteSpace c := by
      apply Bool.eq_iff_iff.mpr
      simp only [isBlank, List.all_eq_true]
      constructor
      · intro blank
        have yielded : first ∈ uppercase c := by simp [image]
        rw [← isWhiteSpace_of_mem_uppercase yielded]
        exact blank first yielded
      · intro blank d yielded
        rw [isWhiteSpace_of_mem_uppercase yielded]
        exact blank
    simp only [isBlank, List.flatMap_cons, List.all_append, List.all_cons] at same ih ⊢
    rw [same, ih]

/-- What holds no white space goes to the front of the first piece. -/
private theorem splitOnP_append_solid {solid : List Char}
    (noBlank : ∀ c ∈ solid, isWhiteSpace c = false) (rest : List Char) :
    (solid ++ rest).splitOnP isWhiteSpace =
      (rest.splitOnP isWhiteSpace).modifyHead (solid ++ ·) := by
  induction solid with
  | nil => exact (congrFun List.modifyHead_id _).symm
  | cons c solid ih =>
    obtain ⟨here, later⟩ := List.forall_mem_cons.mp noBlank
    rw [List.cons_append, List.splitOnP_cons_eq_if_modifyHead, ih later, List.modifyHead_modifyHead]
    simp only [here, Bool.false_eq_true, if_false]
    rfl

private theorem splitOnP_flatMap_uppercase (text : List Char) :
    (text.flatMap uppercase).splitOnP isWhiteSpace =
      (text.splitOnP isWhiteSpace).map (·.flatMap uppercase) := by
  induction text with
  | nil => rfl
  | cons c rest ih =>
    rw [List.flatMap_cons, List.splitOnP_cons_eq_if_modifyHead]
    by_cases blank : isWhiteSpace c = true
    · rw [uppercase_of_isWhiteSpace blank, List.singleton_append,
        List.splitOnP_cons_eq_if_modifyHead, if_pos blank, if_pos blank, ih]
      rfl
    · have solid : ∀ d ∈ uppercase c, isWhiteSpace d = false := fun d yielded => by
        rw [isWhiteSpace_of_mem_uppercase yielded]
        simpa using blank
      rw [splitOnP_append_solid solid, ih, if_neg blank]
      -- The character and its image go to the front of the same piece.
      obtain ⟨piece, pieces, split⟩ :=
        List.exists_cons_of_ne_nil (List.splitOnP_ne_nil isWhiteSpace rest)
      simp [split]

/-- The words of a text in upper case are the words of the text, each in upper case. -/
theorem words_flatMap_uppercase (text : List Char) :
    words (text.flatMap uppercase) = (words text).map (·.flatMap uppercase) := by
  -- No character is lost, so a piece is empty in upper case only if it was before.
  have kept : ∀ piece : List Char, (piece.flatMap uppercase).isEmpty = piece.isEmpty := by
    intro piece
    cases piece <;> simp [uppercase_ne_nil]
  have same : (fun piece : List Char => !piece.isEmpty) ∘ (List.flatMap uppercase) =
      fun piece => !piece.isEmpty := funext fun piece => by simp only [Function.comp, kept]
  rw [words, splitOnP_flatMap_uppercase, List.filter_map, same, words]

/-- Upper case has no upper case but itself. -/
theorem upper_upper (text : String) : upper (upper text) = upper text := by
  rw [upper, toList_upper, flatMap_uppercase_eq_self, ← toList_upper, String.ofList_toList]
  intro c inside
  obtain ⟨origin, -, yielded⟩ := List.mem_flatMap.mp inside
  exact uppercase_eq_self_of_mem yielded

end Text

/-- Folding keeps a query blank, and one that is not blank it keeps so too. -/
theorem isBlankQuery_fold (options : Options) (query : String) :
    isBlankQuery (options.fold query) = isBlankQuery query := by
  by_cases ignored : options.ignoreCase = true
  · simp [isBlankQuery, Options.fold, ignored, Text.isBlank_flatMap_uppercase]
  · simp [Options.fold, ignored]

theorem splitTerms_eq_nil_iff {query : String} {options : Options} :
    splitTerms query options = [] ↔ isBlankQuery query = true := by
  rw [splitTerms, List.map_eq_nil_iff, Text.words_eq_nil_iff, ← isBlankQuery_fold options]
  rfl

theorem fold_append (options : Options) (left right : String) :
    options.fold (left ++ right) = options.fold left ++ options.fold right := by
  by_cases ignored : options.ignoreCase = true
  · simp [Options.fold, ignored, Text.upper_append]
  · simp [Options.fold, ignored]

/-- Folding leaves something of a text unless it is empty. -/
theorem fold_ne_empty (options : Options) {text : String} (given : text ≠ "") :
    options.fold text ≠ "" := by
  by_cases ignored : options.ignoreCase = true
  · obtain ⟨c, rest, characters⟩ :=
      List.exists_cons_of_ne_nil fun none => given (String.toList_eq_nil_iff.mp none)
    obtain ⟨first, others, image⟩ := List.exists_cons_of_ne_nil (Unicode.uppercase_ne_nil c)
    intro empty
    have none := congrArg String.toList empty
    simp [Options.fold, ignored, characters, image] at none
  · simpa [Options.fold, ignored] using given

/-- The terms of two queries with white space between them are those of the one and then those of
the other. -/
theorem splitTerms_append {blank : String} (given : blank ≠ "") (white : isBlankQuery blank = true)
    (left right : String) (options : Options) :
    splitTerms (left ++ blank ++ right) options =
      splitTerms left options ++ splitTerms right options := by
  have kept : (options.fold blank).toList ≠ [] := by
    intro none
    exact fold_ne_empty options given (String.toList_eq_nil_iff.mp none)
  have folded : Text.isBlank (options.fold blank).toList = true := by
    rw [← isBlankQuery, isBlankQuery_fold]
    exact white
  rw [splitTerms, fold_append, fold_append, String.toList_append, String.toList_append,
    Text.words_append_blank kept folded, List.map_append]
  rfl

theorem fold_eq_self_of_mem_splitTerms {query term : String} {options : Options}
    (member : term ∈ splitTerms query options) : options.fold term = term := by
  by_cases ignored : options.ignoreCase = true
  · obtain ⟨word, found, rfl⟩ := List.mem_map.mp member
    simp only [Options.fold, ignored, if_true] at found ⊢
    rw [Text.upper, String.toList_ofList, Text.flatMap_uppercase_eq_self]
    -- A character of a term comes from the folded query, hence from some upper-casing.
    intro c inside
    have source := Text.mem_of_mem_words found inside
    rw [Text.toList_upper, List.mem_flatMap] at source
    obtain ⟨origin, -, yielded⟩ := source
    exact Unicode.uppercase_eq_self_of_mem yielded
  · simp [Options.fold, ignored]

/-- If case does not count, or counts before and after, the terms under new options are those under
the old ones, folded. -/
theorem splitTerms_eq_map_fold {options looser : Options}
    (still : options.ignoreCase = true → looser.ignoreCase = true) (query : String) :
    splitTerms query looser = (splitTerms query options).map looser.fold := by
  by_cases same : options.ignoreCase = looser.ignoreCase
  · have alike : options.fold = looser.fold := funext fun text => by
      rw [Options.fold, Options.fold, same]
    have terms : splitTerms query options = splitTerms query looser := by
      rw [splitTerms, splitTerms, alike]
    rw [terms, List.map_congr_left fun term member => fold_eq_self_of_mem_splitTerms member,
      List.map_id']
  · -- Case begins not to count: the query was split as it stands, and now is folded before.
    have counted : options.ignoreCase = false := by
      cases counts : options.ignoreCase with
      | false => rfl
      | true => exact absurd (counts.trans (still counts).symm) same
    have ignored : looser.ignoreCase = true := by
      rw [counted] at same
      simpa using same
    have folded : looser.fold = Text.upper := funext fun text => by simp [Options.fold, ignored]
    have plain : options.fold query = query := by simp [Options.fold, counted]
    rw [splitTerms, splitTerms, folded, plain, Text.toList_upper, Text.words_flatMap_uppercase,
      List.map_map, List.map_map]
    refine List.map_congr_left fun word _ => ?_
    simp [Text.upper]

end RecordSearch
