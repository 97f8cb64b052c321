import Mathlib.Data.List.DropRight
import RecordSearch.Proofs.Search.Terms

/-!
# Terms are words

The terms of a query are the longest stretches of it without white space, in their order and in the
case in which they are compared. This decides them: a text is cut into such stretches in one way only.

## Main results

`hasWords_iff`: the words of a text, told without cutting it.
`splitsInto_splitTerms`: what the terms of a query are.
-/
namespace RecordSearch

namespace Text

open Unicode

/-- The words of a text are stretches that hold no white space, in order. Each is as long as it can be:
white space stands before it, up to the word before, and it ends with the text or before a blank. -/
inductive HasWords : List Char → List (List Char) → Prop
  | blank {text : List Char} (white : isBlank text = true) : HasWords text []
  | word {before word rest : List Char} {words : List (List Char)} (white : isBlank before = true)
      (given : word ≠ []) (solid : ∀ c ∈ word, isWhiteSpace c = false)
      (ends : rest.head?.all isWhiteSpace = true) (later : HasWords rest words) :
      HasWords (before ++ word ++ rest) (word :: words)

/-- A text without white space is a single word. -/
theorem words_of_solid {word : List Char} (given : word ≠ [])
    (solid : ∀ c ∈ word, isWhiteSpace c = false) : words word = [word] := by
  rw [words, List.splitOnP_eq_singleton solid]
  simpa using given

theorem HasWords.solid {text : List Char} {found : List (List Char)} (has : HasWords text found) :
    ∀ word ∈ found, word ≠ [] ∧ ∀ c ∈ word, isWhiteSpace c = false := by
  induction has with
  | blank white => exact List.forall_mem_nil _
  | word white given solid ends _ ih => exact List.forall_mem_cons.mpr ⟨⟨given, solid⟩, ih⟩

theorem HasWords.words_eq {text : List Char} {found : List (List Char)}
    (has : HasWords text found) : words text = found := by
  induction has with
  | blank white => exact words_eq_nil_iff.mpr white
  | @word before word rest later white given solid ends _ ih =>
    rw [List.append_assoc, words_blank_append white]
    cases rest with
    | nil =>
      obtain rfl : [] = later := ih
      rw [List.append_nil, words_of_solid given solid]
    | cons c tail =>
      -- The blank behind the word cuts it off, and belongs to no word itself.
      have blank : isWhiteSpace c = true := ends
      rw [words_cons_blank blank] at ih
      rw [words_append_cons blank, words_of_solid given solid, ih]
      rfl

theorem HasWords.cons_blank {c : Char} {rest : List Char} {found : List (List Char)}
    (blank : isWhiteSpace c = true) (has : HasWords rest found) : HasWords (c :: rest) found := by
  cases has with
  | blank white => exact .blank (by rw [isBlank, List.all_cons, blank]; exact white)
  | @word before word rest later white given solid ends others =>
    have front : isBlank (c :: before) = true := by
      rw [isBlank, List.all_cons, blank]
      exact white
    exact .word front given solid ends others

/-- A word with nothing before it. -/
theorem HasWords.word_append {word rest : List Char} {found : List (List Char)} (given : word ≠ [])
    (solid : ∀ c ∈ word, isWhiteSpace c = false) (ends : rest.head?.all isWhiteSpace = true)
    (later : HasWords rest found) : HasWords (word ++ rest) (word :: found) := by
  have nothing : isBlank [] = true := rfl
  have first := HasWords.word nothing given solid ends later
  exact first

theorem HasWords.exists_cons_solid {c : Char} {rest : List Char} {found : List (List Char)}
    (solid : isWhiteSpace c = false) (has : HasWords rest found) :
    ∃ found', HasWords (c :: rest) found' := by
  by_cases ends : rest.head?.all isWhiteSpace = true
  · have alone : ∀ d ∈ [c], isWhiteSpace d = false := List.forall_mem_singleton.mpr solid
    exact ⟨[c] :: found, .word_append (List.cons_ne_nil c []) alone ends has⟩
  · -- A word begins behind the character, so the character belongs to it.
    cases has with
    | blank white =>
      cases rest with
      | nil => exact absurd rfl ends
      | cons d tail => exact absurd (List.all_eq_true.mp white d List.mem_cons_self) ends
    | @word before word rest later white given inside behind others =>
      cases before with
      | nil =>
        have longer : ∀ d ∈ c :: word, isWhiteSpace d = false :=
          List.forall_mem_cons.mpr ⟨solid, inside⟩
        exact ⟨(c :: word) :: later, .word_append (List.cons_ne_nil c word) longer behind others⟩
      | cons d before => exact absurd (List.all_eq_true.mp white d List.mem_cons_self) ends

theorem exists_hasWords (text : List Char) : ∃ found, HasWords text found := by
  induction text with
  | nil => exact ⟨[], .blank rfl⟩
  | cons c rest ih =>
    obtain ⟨found, has⟩ := ih
    cases blank : isWhiteSpace c with
    | true => exact ⟨found, has.cons_blank blank⟩
    | false => exact has.exists_cons_solid blank

/-- Cutting a text at its white space finds its words. -/
theorem hasWords_iff {text : List Char} {found : List (List Char)} :
    HasWords text found ↔ words text = found := by
  constructor
  · exact HasWords.words_eq
  · rintro rfl
    obtain ⟨found, has⟩ := exists_hasWords text
    rwa [has.words_eq]

/-- A text without the white space at its ends. -/
def trim (text : String) : String :=
  String.ofList ((text.toList.dropWhile isWhiteSpace).rdropWhile isWhiteSpace)

theorem trim_eq_empty_iff {text : String} : trim text = "" ↔ isBlank text.toList = true := by
  rw [trim, String.ofList_eq_empty_iff, List.rdropWhile_eq_nil_iff, isBlank, List.all_eq_true]
  constructor
  · intro behind c inside
    rw [← List.takeWhile_append_dropWhile (p := isWhiteSpace) (l := text.toList),
      List.mem_append] at inside
    rcases inside with dropped | kept
    · exact List.mem_takeWhile_imp dropped
    · exact behind c kept
  · intro white c kept
    exact white c ((List.dropWhile_sublist isWhiteSpace).subset kept)

end Text

/-- Terms in a row with white space between each two of them, and perhaps behind the last. -/
inductive Joins : List String → String → Prop
  | none : Joins [] ""
  | last (term : String) : Joins [term] term
  | cons (term : String) {blank text : String} {rest : List String} (given : blank ≠ "")
      (white : isBlankQuery blank = true) (later : Joins rest text) :
      Joins (term :: rest) (term ++ blank ++ text)

theorem solid_of_mem_splitTerms {query term : String} {options : Options}
    (member : term ∈ splitTerms query options) :
    term ≠ "" ∧ ∀ c ∈ term.toList, Unicode.isWhiteSpace c = false := by
  obtain ⟨word, found, rfl⟩ := List.mem_map.mp member
  obtain ⟨given, solid⟩ := (Text.hasWords_iff.mpr rfl).solid word found
  rw [String.toList_ofList]
  exact ⟨fun empty => given (String.ofList_eq_empty_iff.mp empty), solid⟩

/-- A term alone is its only term. -/
theorem splitTerms_of_mem_splitTerms {query term : String} {options : Options}
    (member : term ∈ splitTerms query options) : splitTerms term options = [term] := by
  obtain ⟨given, solid⟩ := solid_of_mem_splitTerms member
  have characters : term.toList ≠ [] := fun none => given (String.toList_eq_nil_iff.mp none)
  rw [splitTerms, fold_eq_self_of_mem_splitTerms member, Text.words_of_solid characters solid,
    List.map_singleton, String.ofList_toList]

theorem Joins.splitTerms_eq {terms : List String} {text : String} {options : Options}
    (joins : Joins terms text) (single : ∀ term ∈ terms, splitTerms term options = [term]) :
    splitTerms text options = terms := by
  induction joins with
  | none => exact splitTerms_eq_nil_iff.mpr rfl
  | last term => exact single term List.mem_cons_self
  | cons term given white _ ih =>
    obtain ⟨first, others⟩ := List.forall_mem_cons.mp single
    rw [splitTerms_append given white, first, ih others]
    rfl

/-- What it is for a query to split into terms. -/
structure SplitsInto (query : String) (options : Options) (terms : List String) : Prop where
  solid : ∀ term ∈ terms, term ≠ "" ∧ ∀ c ∈ term.toList, Unicode.isWhiteSpace c = false
  /-- The terms are the words of the folded query, and nothing else is. -/
  words : ∀ found, Text.HasWords (options.fold query).toList found ↔ terms.map String.toList = found
  joined : String.join terms =
    String.ofList ((options.fold query).toList.filter (!Unicode.isWhiteSpace ·))
  /-- The terms are found again in every text that puts white space between them. -/
  rejoined : ∀ text, Joins terms text → splitTerms text options = terms
  /-- Folding may as well wait until the query is split. -/
  folded : terms = (splitTerms query { options with ignoreCase := false }).map options.fold
  /-- There are none exactly if nothing is left of the query, as it was asked, without the white space
  at its ends, which is when a search takes it to ask for nothing. -/
  none_iff : terms = [] ↔ Text.trim query = ""
  blank_iff : isBlankQuery query = true ↔ Text.trim query = ""

theorem splitsInto_splitTerms (query : String) (options : Options) :
    SplitsInto query options (splitTerms query options) := by
  have characters : (splitTerms query options).map String.toList =
      Text.words (options.fold query).toList := by
    have back : String.toList ∘ String.ofList = id := funext fun _ => String.toList_ofList
    rw [splitTerms, List.map_map, back, List.map_id]
  constructor
  case solid => exact fun term member => solid_of_mem_splitTerms member
  case words =>
    intro found
    rw [characters, Text.hasWords_iff]
  case joined =>
    apply String.toList_injective
    rw [String.toList_join, List.flatMap_def, characters, Text.flatten_words, String.toList_ofList]
  case rejoined =>
    exact fun text joins => joins.splitTerms_eq fun term member =>
      splitTerms_of_mem_splitTerms member
  case folded => exact splitTerms_eq_map_fold (fun ignored => absurd ignored Bool.false_ne_true) query
  case none_iff => rw [splitTerms_eq_nil_iff, Text.trim_eq_empty_iff, isBlankQuery]
  case blank_iff => rw [Text.trim_eq_empty_iff, isBlankQuery]

-- Folding makes three letters of a ligature, and no blank of any character.
example : splitTerms " oﬃce\u2003straße " ⟨.strict, true⟩ = ["OFFICE", "STRASSE"] := by decide +kernel

end RecordSearch
