import Mathlib
import RecordSearch.Unicode.Uppercase

/-!
# Upper-casing

Upper-casing is stable: what it yields it leaves alone. It neither makes white space nor takes it
away, and on ASCII it is the upper-casing of the core library.

## Main results

`uppercase_eq_self_of_mem`: a character that upper-casing yields is its own upper-case form.
`isWhiteSpace_of_mem_uppercase`: it is white space exactly if the character it comes from is.
`mem_asciiBearing_iff`: the characters beyond ASCII of which upper-casing makes a letter of ASCII.

## Proof strategy

The case table is closed: no image of it is one of its sources. Sets of code points are compared as
the bits of two numbers, which takes the kernel one step and not one for each pair.
-/
namespace RecordSearch.Unicode

/-! ### Sets of code points as bits -/

/-- The number whose bits are the given code points. -/
def bitsOf (codes : List Nat) : Nat := codes.foldr (fun code bits => bits ||| 1 <<< code) 0

theorem testBit_bitsOf (codes : List Nat) (code : Nat) :
    (bitsOf codes).testBit code = true ↔ code ∈ codes := by
  induction codes with
  | nil => simp [bitsOf]
  | cons first rest ih =>
    have step : bitsOf (first :: rest) = bitsOf rest ||| 1 <<< first := rfl
    rw [step, Nat.testBit_or, Nat.one_shiftLeft, Nat.testBit_two_pow, Bool.or_eq_true, ih,
      decide_eq_true_eq, List.mem_cons, or_comm, eq_comm]

/-- What two sets share can be read off their bits. -/
theorem mem_iff_of_bits {left right shared : List Nat}
    (common : bitsOf left &&& bitsOf right = bitsOf shared) {code : Nat} :
    code ∈ shared ↔ code ∈ left ∧ code ∈ right := by
  rw [← testBit_bitsOf, ← common, Nat.testBit_and, Bool.and_eq_true, testBit_bitsOf, testBit_bitsOf]

theorem disjoint_of_bits {left right : List Nat} (apart : bitsOf left &&& bitsOf right = 0) :
    left.Disjoint right := by
  intro code inLeft inRight
  have shared : code ∈ ([] : List Nat) := (mem_iff_of_bits apart).mpr ⟨inLeft, inRight⟩
  cases shared

/-- The code points of ranges. -/
def codesOf (ranges : List (Nat × Nat)) : List Nat :=
  ranges.flatMap fun range => List.range' range.1 (range.2 + 1 - range.1)

theorem mem_codesOf {ranges : List (Nat × Nat)} {code : Nat} :
    code ∈ codesOf ranges ↔ inRanges ranges code = true := by
  simp only [codesOf, List.mem_flatMap, List.mem_range'_1, inRanges_iff]
  constructor
  · rintro ⟨range, member, lower, upper⟩
    exact ⟨range, member, lower, by omega⟩
  · rintro ⟨range, member, lower, upper⟩
    exact ⟨range, member, lower, by omega⟩

/-! ### What a table maps, and to what -/

/-- The number of code points that a run maps. -/
def CaseRun.size (run : CaseRun) : Nat := (run.last - run.first) / run.stride + 1

theorem CaseRun.exists_of_covers {run : CaseRun} {code : Nat} (covered : run.covers code = true) :
    ∃ i < run.size, code = run.first + run.stride * i := by
  simp only [covers, Bool.and_eq_true, decide_eq_true_eq, beq_iff_eq] at covered
  obtain ⟨⟨first, last⟩, inStep⟩ := covered
  refine ⟨(code - run.first) / run.stride, ?_, ?_⟩
  · exact Nat.lt_succ_of_le (Nat.div_le_div_right (Nat.sub_le_sub_right last _))
  · -- The code point lies a whole number of strides behind the first one.
    have whole := Nat.mul_div_cancel' (Nat.dvd_of_mod_eq_zero inStep)
    omega

namespace CaseTable

/-- The code points that a table maps. -/
def sources (table : CaseTable) : List Nat :=
  (table.runs.flatMap fun run => List.range' run.first run.size run.stride) ++
    table.expansions.map (·.1)

/-- The code points that a table maps to. -/
def images (table : CaseTable) : List Nat :=
  (table.runs.flatMap fun run => List.range' run.target run.size run.stride) ++
    table.expansions.flatMap (·.2)

variable {table : CaseTable} {c : Char}

theorem source_of_covers {run : CaseRun} {code : Nat} (member : run ∈ table.runs)
    (covered : run.covers code = true) : code ∈ table.sources := by
  obtain ⟨i, inside, equal⟩ := CaseRun.exists_of_covers covered
  apply List.mem_append_left
  exact List.mem_flatMap.mpr ⟨run, member, List.mem_range'.mpr ⟨i, inside, equal⟩⟩

theorem image_of_covers {run : CaseRun} {code : Nat} (member : run ∈ table.runs)
    (covered : run.covers code = true) : run.image code ∈ table.images := by
  obtain ⟨i, inside, equal⟩ := CaseRun.exists_of_covers covered
  apply List.mem_append_left
  refine List.mem_flatMap.mpr ⟨run, member, List.mem_range'.mpr ⟨i, inside, ?_⟩⟩
  rw [equal, CaseRun.image, Nat.add_sub_cancel_left]

/-- A table leaves a character, expands it, or takes it along with a run. -/
theorem image_forms (table : CaseTable) (c : Char) :
    table.image c = [c] ∨
      (∃ codes, (c.toNat, codes) ∈ table.expansions ∧ table.image c = codes.map Char.ofNat) ∨
        ∃ run ∈ table.runs, run.covers c.toNat = true ∧
          table.image c = [Char.ofNat (run.image c.toNat)] := by
  -- The cases follow the look-up: an expansion, a run, or neither.
  cases looked : table.expansions.lookup c.toNat with
  | some codes =>
    obtain ⟨before, after, split, -⟩ := List.lookup_eq_some_iff.mp looked
    exact Or.inr (Or.inl ⟨codes, by simp [split], by simp only [image, looked]⟩)
  | none =>
    cases found : table.runs.find? (·.covers c.toNat) with
    | some run =>
      have covered : run.covers c.toNat = true := by simpa using List.find?_some found
      refine Or.inr (Or.inr ⟨run, List.mem_of_find?_eq_some found, covered, ?_⟩)
      simp [image, looked, found]
    | none => exact Or.inl (by simp only [image, looked, found])

/-- A character that a table does not expand goes along with a run that covers it, if one does. -/
theorem exists_run_of_covers {run : CaseRun} (plain : c.toNat ∉ table.expansions.map (·.1))
    (member : run ∈ table.runs) (covered : run.covers c.toNat = true) :
    ∃ taken ∈ table.runs, taken.covers c.toNat = true ∧
      table.image c = [Char.ofNat (taken.image c.toNat)] := by
  have looked : table.expansions.lookup c.toNat = none := by
    rw [List.lookup_eq_none_iff]
    intro entry inside
    simpa using fun same : c.toNat = entry.1 => plain (same ▸ List.mem_map_of_mem inside)
  obtain ⟨taken, found⟩ : ∃ taken, table.runs.find? (·.covers c.toNat) = some taken :=
    Option.isSome_iff_exists.mp (List.find?_isSome.mpr ⟨run, member, covered⟩)
  refine ⟨taken, List.mem_of_find?_eq_some found, by simpa using List.find?_some found, ?_⟩
  simp [image, looked, found]

/-- A table leaves what is none of its sources, and makes images of its sources. -/
theorem image_cases (table : CaseTable) (c : Char) :
    table.image c = [c] ∨
      c.toNat ∈ table.sources ∧
        ∃ codes : List Nat, table.image c = codes.map Char.ofNat ∧
          ∀ code ∈ codes, code ∈ table.images := by
  rcases image_forms table c with same | ⟨codes, member, expanded⟩ | ⟨run, member, covered, moved⟩
  · exact Or.inl same
  · refine Or.inr ⟨?_, codes, expanded, ?_⟩
    · exact List.mem_append_right _ (List.mem_map_of_mem (f := (·.1)) member)
    · intro code made
      exact List.mem_append_right _ (List.mem_flatMap.mpr ⟨_, member, made⟩)
  · refine Or.inr ⟨source_of_covers member covered, [run.image c.toNat], by simpa using moved, ?_⟩
    simpa using image_of_covers member covered

theorem image_eq_self (missed : c.toNat ∉ table.sources) : table.image c = [c] := by
  rcases image_cases table c with same | ⟨source, -⟩
  · exact same
  · exact absurd source missed

theorem image_ne_nil (kept : ∀ entry ∈ table.expansions, entry.2 ≠ []) : table.image c ≠ [] := by
  simp only [image]
  split
  next codes looked =>
    obtain ⟨before, after, split, -⟩ := List.lookup_eq_some_iff.mp looked
    have member : (c.toNat, codes) ∈ table.expansions := by simp [split]
    simpa using kept _ member
  · split <;> simp

end CaseTable

/-! ### The upper-case table -/

/-- The lower-case letters of ASCII, which the table leaves to the core library. -/
def asciiLower : List (Nat × Nat) := [(0x61, 0x7A)]

/-- What the kernel finds out about the table, in one go. -/
theorem uppercaseTable_computed :
    bitsOf uppercaseTable.images &&& bitsOf (uppercaseTable.sources ++ codesOf asciiLower) = 0 ∧
      bitsOf (codesOf whiteSpaceRanges) &&&
          bitsOf (uppercaseTable.images ++ uppercaseTable.sources) = 0 ∧
        ∀ code ∈ uppercaseTable.images, code.isValidChar := by
  decide +kernel

theorem uppercaseTable_closed :
    uppercaseTable.images.Disjoint (uppercaseTable.sources ++ codesOf asciiLower) :=
  disjoint_of_bits uppercaseTable_computed.1

theorem uppercaseTable_keeps_whiteSpace :
    (codesOf whiteSpaceRanges).Disjoint (uppercaseTable.images ++ uppercaseTable.sources) :=
  disjoint_of_bits uppercaseTable_computed.2.1

theorem uppercaseTable_images_valid : ∀ code ∈ uppercaseTable.images, code.isValidChar :=
  uppercaseTable_computed.2.2

theorem uppercaseTable_expansions_ne_nil : ∀ entry ∈ uppercaseTable.expansions, entry.2 ≠ [] := by
  decide

/-! ### One character -/

theorem inRanges_asciiLower {c : Char} (lower : c.isLower = true) :
    inRanges asciiLower c.toNat = true := by
  simp only [Char.isLower, Bool.and_eq_true, decide_eq_true_eq, ge_iff_le,
    UInt32.le_iff_toNat_le] at lower
  exact inRanges_iff.mpr ⟨(0x61, 0x7A), by simp [asciiLower], lower.1, lower.2⟩

/-- The characters of ASCII are few enough to be tried one by one. -/
theorem forall_ascii {P : Char → Prop} (each : ∀ n < 0x80, P (Char.ofNat n)) {c : Char}
    (ascii : c.toNat < 0x80) : P c := by
  have tried := each c.toNat ascii
  rwa [Char.ofNat_toNat] at tried

theorem toNat_toUpper_lt {c : Char} (ascii : c.toNat < 0x80) : c.toUpper.toNat < 0x80 :=
  forall_ascii (P := fun c => c.toUpper.toNat < 0x80) (by decide) ascii

theorem uppercase_of_ascii {c : Char} (ascii : c.toNat < 0x80) : uppercase c = [c.toUpper] :=
  if_pos ascii

theorem uppercase_of_not_ascii {c : Char} (beyond : ¬ c.toNat < 0x80) :
    uppercase c = uppercaseTable.image c :=
  if_neg beyond

theorem uppercase_ne_nil (c : Char) : uppercase c ≠ [] := by
  by_cases ascii : c.toNat < 0x80
  · simp [uppercase_of_ascii ascii]
  · rw [uppercase_of_not_ascii ascii]
    exact CaseTable.image_ne_nil uppercaseTable_expansions_ne_nil

theorem toNat_ofNat_image {code : Nat} (made : code ∈ uppercaseTable.images) :
    (Char.ofNat code).toNat = code := by
  rw [Char.toNat_ofNat, if_pos (uppercaseTable_images_valid code made)]

/-- An image of the table is upper-cased to itself, be it of ASCII or not. -/
theorem uppercase_ofNat_image {code : Nat} (made : code ∈ uppercaseTable.images) :
    uppercase (Char.ofNat code) = [Char.ofNat code] := by
  have same := toNat_ofNat_image made
  have outside : ¬ code ∈ uppercaseTable.sources ++ codesOf asciiLower := fun inside =>
    uppercaseTable_closed made inside
  rw [List.mem_append, not_or, mem_codesOf] at outside
  -- Some images are letters of ASCII, for which the core library stands in for the table.
  by_cases ascii : (Char.ofNat code).toNat < 0x80
  · rw [uppercase_of_ascii ascii, Char.toUpper_eq_of_not_isLower]
    intro lower
    exact outside.2 (same ▸ inRanges_asciiLower lower)
  · rw [uppercase_of_not_ascii ascii, CaseTable.image_eq_self]
    rw [same]
    exact outside.1

theorem uppercase_eq_self_of_mem {c d : Char} (yielded : d ∈ uppercase c) : uppercase d = [d] := by
  by_cases ascii : c.toNat < 0x80
  · rw [uppercase_of_ascii ascii, List.mem_singleton] at yielded
    rw [yielded, uppercase_of_ascii (toNat_toUpper_lt ascii), Char.toUpper_toUpper_eq_toUpper]
  · rw [uppercase_of_not_ascii ascii] at yielded
    rcases CaseTable.image_cases uppercaseTable c with same | ⟨-, codes, image, made⟩
    · rw [same, List.mem_singleton] at yielded
      rw [yielded, uppercase_of_not_ascii ascii, same]
    · rw [image, List.mem_map] at yielded
      obtain ⟨code, member, rfl⟩ := yielded
      exact uppercase_ofNat_image (made code member)

theorem isWhiteSpace_of_mem_uppercase {c d : Char} (yielded : d ∈ uppercase c) :
    isWhiteSpace d = isWhiteSpace c := by
  by_cases ascii : c.toNat < 0x80
  · rw [uppercase_of_ascii ascii, List.mem_singleton] at yielded
    rw [yielded]
    exact forall_ascii (P := fun c => isWhiteSpace c.toUpper = isWhiteSpace c) (by decide) ascii
  · rw [uppercase_of_not_ascii ascii] at yielded
    rcases CaseTable.image_cases uppercaseTable c with same | ⟨source, codes, image, made⟩
    · rw [same, List.mem_singleton] at yielded
      rw [yielded]
    · rw [image, List.mem_map] at yielded
      obtain ⟨code, member, rfl⟩ := yielded
      -- The table neither maps white space nor maps to it, so both sides are false.
      have apart := uppercaseTable_keeps_whiteSpace.symm
      have notBefore : ¬ inRanges whiteSpaceRanges c.toNat = true := fun white =>
        apart (List.mem_append_right _ source) (mem_codesOf.mpr white)
      have notAfter : ¬ inRanges whiteSpaceRanges code = true := fun white =>
        apart (List.mem_append_left _ (made code member)) (mem_codesOf.mpr white)
      simp [isWhiteSpace, toNat_ofNat_image (made code member), notBefore, notAfter]

/-- White space has no case. -/
theorem uppercase_of_isWhiteSpace {c : Char} (white : isWhiteSpace c = true) : uppercase c = [c] := by
  by_cases ascii : c.toNat < 0x80
  · have same := forall_ascii (P := fun c => isWhiteSpace c = true → c.toUpper = c)
      (by decide +kernel) ascii white
    rw [uppercase_of_ascii ascii, same]
  · rw [uppercase_of_not_ascii ascii, CaseTable.image_eq_self]
    intro source
    exact uppercaseTable_keeps_whiteSpace (mem_codesOf.mpr white) (List.mem_append_right _ source)

/-! ### Beyond ASCII -/

/-- The characters beyond ASCII whose upper-case form holds a letter of ASCII. -/
def asciiBearing : List Char :=
  ['ß', 'ı', 'ŉ', 'ſ', 'ǰ', 'ẖ', 'ẗ', 'ẘ', 'ẙ', 'ẚ', 'ﬀ', 'ﬁ', 'ﬂ', 'ﬃ', 'ﬄ', 'ﬅ', 'ﬆ']

set_option maxRecDepth 2000 in
theorem uppercaseTable_expansions_beyond : ∀ entry ∈ uppercaseTable.expansions,
    (∀ code ∈ entry.2, 0x80 ≤ code) ∨ Char.ofNat entry.1 ∈ asciiBearing := by
  decide

set_option maxRecDepth 2000 in
theorem uppercaseTable_runs_beyond : ∀ run ∈ uppercaseTable.runs,
    0x80 ≤ run.target ∨ run.first = run.last ∧ Char.ofNat run.first ∈ asciiBearing := by
  decide

/-- Of other characters beyond ASCII upper-casing makes none of ASCII. -/
theorem not_ascii_of_mem_uppercase {c d : Char} (beyond : 0x80 ≤ c.toNat)
    (plain : c ∉ asciiBearing) (yielded : d ∈ uppercase c) : 0x80 ≤ d.toNat := by
  rw [uppercase_of_not_ascii (by omega)] at yielded
  rcases CaseTable.image_forms uppercaseTable c with
    same | ⟨codes, member, expanded⟩ | ⟨run, member, covered, moved⟩
  · rw [same, List.mem_singleton] at yielded
    rwa [yielded]
  · rw [expanded, List.mem_map] at yielded
    obtain ⟨code, inside, rfl⟩ := yielded
    have made : code ∈ uppercaseTable.images :=
      List.mem_append_right _ (List.mem_flatMap.mpr ⟨_, member, inside⟩)
    rw [toNat_ofNat_image made]
    rcases uppercaseTable_expansions_beyond _ member with each | bearing
    · exact each code inside
    · rw [Char.ofNat_toNat] at bearing
      exact absurd bearing plain
  · rw [moved, List.mem_singleton] at yielded
    rw [yielded, toNat_ofNat_image (CaseTable.image_of_covers member covered), CaseRun.image]
    rcases uppercaseTable_runs_beyond run member with high | ⟨single, bearing⟩
    · omega
    · -- The run has one code point, which is that of the character.
      simp only [CaseRun.covers, Bool.and_eq_true, decide_eq_true_eq] at covered
      have same : run.first = c.toNat := by omega
      rw [same, Char.ofNat_toNat] at bearing
      exact absurd bearing plain

set_option maxRecDepth 4000 in
theorem asciiBearing_computed : (asciiBearing.all fun c =>
    decide (0x80 ≤ c.toNat) && (uppercase c).any fun d => decide (d.toNat < 0x80)) = true := by
  decide

theorem mem_asciiBearing_iff {c : Char} :
    c ∈ asciiBearing ↔ 0x80 ≤ c.toNat ∧ ∃ d ∈ uppercase c, d.toNat < 0x80 := by
  constructor
  · intro bearing
    simpa using List.all_eq_true.mp asciiBearing_computed c bearing
  · rintro ⟨beyond, d, yielded, below⟩
    by_contra plain
    have still := not_ascii_of_mem_uppercase beyond plain yielded
    omega

end RecordSearch.Unicode
