import RecordSearch.Proofs.Unicode.Casing
import RecordSearch.Unicode.Lowercase

/-!
# Lower-casing and back

A text in lower case has the upper-case form that it had before, unless it held one of six capitals.
Their small letters belong to other capitals, so these are what upper-casing gives back.

## Main result

`flatMap_uppercase_lowercaseText_eq_iff`: when the upper-case form survives lower-casing.

## Proof strategy

Each run of the lower-case table is set against each run of the upper-case table: whichever covers a
small letter takes it back to where it came from. The six capitals are left out of this, and so are
the letters of title case, which are few enough for their forms to be computed.
-/
namespace RecordSearch.Unicode

/-- The capitals whose small letter belongs to another capital: I with a dot, the symbol theta, the
capital sharp s, and the signs of ohm, kelvin and angstrom. -/
def oneWayCapitals : List Char := ['\u0130', '\u03F4', '\u1E9E', '\u2126', '\u212A', '\u212B']

/-- The letters of title case, which have both an upper-case and a lower-case form. -/
def titleCaseRanges : List (Nat × Nat) := [
  (0x1C5, 0x1C5), (0x1C8, 0x1C8), (0x1CB, 0x1CB), (0x1F2, 0x1F2), (0x1F88, 0x1F8F),
  (0x1F98, 0x1F9F), (0x1FA8, 0x1FAF), (0x1FBC, 0x1FBC), (0x1FCC, 0x1FCC), (0x1FFC, 0x1FFC)]

/-! ### The two tables -/

namespace CaseRun

/-- The code points that a run maps. -/
def codes (run : CaseRun) : List Nat := List.range' run.first run.size run.stride

theorem mem_codes {run : CaseRun} {code : Nat} (covered : run.covers code = true) :
    code ∈ run.codes := by
  obtain ⟨i, inside, equal⟩ := exists_of_covers covered
  exact List.mem_range'.mpr ⟨i, inside, equal⟩

theorem bounds_of_covers {run : CaseRun} {code : Nat} (covered : run.covers code = true) :
    run.first ≤ code ∧ code ≤ run.last := by
  simp only [covers, Bool.and_eq_true, decide_eq_true_eq] at covered
  exact covered.1

theorem covers_of_mem_codes {run : CaseRun} (ordered : run.first ≤ run.last) {code : Nat}
    (member : code ∈ run.codes) : run.covers code = true := by
  obtain ⟨i, inside, rfl⟩ := List.mem_range'.mp member
  -- Steps of the stride that fit between the ends do not lead beyond the last one.
  have fits : run.stride * i ≤ run.last - run.first := by
    have fewer : i ≤ (run.last - run.first) / run.stride := Nat.le_of_lt_succ inside
    exact (Nat.mul_le_mul_left _ fewer).trans (Nat.mul_div_le _ _)
  have last : run.first + run.stride * i ≤ run.last := by omega
  simp [covers, last]

/-- Whether a code point is no one-way capital and no letter of title case. -/
def isPlain (code : Nat) : Bool :=
  !(bitsOf (oneWayCapitals.map Char.toNat ++ codesOf titleCaseRanges)).testBit code

theorem isPlain_iff {code : Nat} :
    isPlain code = true ↔
      code ∉ oneWayCapitals.map Char.toNat ∧ code ∉ codesOf titleCaseRanges := by
  rw [isPlain, Bool.not_eq_true', Bool.eq_false_iff, Ne, testBit_bitsOf, List.mem_append, not_or]

/-- Whether a run takes back what another run takes away. Most runs do not meet; these are told apart
first, by the comparison that the kernel is quickest at. -/
def undoes (back run : CaseRun) : Bool :=
  Nat.blt back.last run.target || Nat.blt (run.image run.last) back.first ||
    run.codes.all fun code =>
      !back.covers (run.image code) || back.image (run.image code) == code || !isPlain code

theorem image_image_of_undoes {back run : CaseRun} {code : Nat} (undone : back.undoes run = true)
    (plain : isPlain code = true) (covered : run.covers code = true)
    (met : back.covers (run.image code) = true) : back.image (run.image code) = code := by
  obtain ⟨first, last⟩ := bounds_of_covers covered
  obtain ⟨first', last'⟩ := bounds_of_covers met
  have inOrder : run.target ≤ run.image code ∧ run.image code ≤ run.image run.last := by
    simp only [image]
    omega
  simp only [undoes, Nat.blt_eq, Bool.or_eq_true, List.all_eq_true] at undone
  rcases undone with (before | behind) | each
  · omega
  · omega
  · simpa [met, plain] using each code (mem_codes covered)

/-- Stretches of code points such that the small letters of a run lie within one. Runs are compared
only where they meet the same stretch. -/
def stretches : List (Nat × Nat) := [
  (0, 0x19A), (0x19B, 0x1F2), (0x1F3, 0x263), (0x264, 0x28B), (0x28C, 0x3D8), (0x3D9, 0x1C7F),
  (0x1C80, 0x1F50), (0x1F51, 0x2C65), (0x2C66, 0xA7B4), (0xA7B5, 0x10FFFF)]

def meets (run : CaseRun) (stretch : Nat × Nat) : Bool :=
  Nat.ble run.first stretch.2 && Nat.ble stretch.1 run.last

/-- Whether every run that covers a small letter of a run undoes that run. -/
def isUndone (run : CaseRun) : Bool :=
  stretches.any fun stretch =>
    Nat.ble stretch.1 run.target && Nat.ble (run.image run.last) stretch.2 &&
      (uppercaseTable.runs.filter (·.meets stretch)).all (·.undoes run)

theorem undoes_of_isUndone {run back : CaseRun} {code : Nat} (undone : run.isUndone = true)
    (covered : run.covers code = true) (known : back ∈ uppercaseTable.runs)
    (met : back.covers (run.image code) = true) : back.undoes run = true := by
  simp only [isUndone, List.any_eq_true, Bool.and_eq_true, List.all_eq_true, Nat.ble_eq] at undone
  obtain ⟨stretch, -, ⟨lower, upper⟩, each⟩ := undone
  obtain ⟨first, last⟩ := bounds_of_covers covered
  obtain ⟨first', last'⟩ := bounds_of_covers met
  -- The small letter lies within the stretch, so what covers it meets the stretch.
  have inOrder : run.target ≤ run.image code ∧ run.image code ≤ run.image run.last := by
    simp only [image]
    omega
  refine each back (List.mem_filter.mpr ⟨known, ?_⟩)
  simp only [meets, Bool.and_eq_true, Nat.ble_eq]
  omega

/-- Whether the plain letters of a run have small letters beyond ASCII which some run of the
upper-case table covers, and no expansion. -/
def hasCapitals (run : CaseRun) : Bool :=
  run.codes.all fun code => !isPlain code ||
    Nat.ble 0x80 (run.image code) &&
      ((bitsOf uppercaseTable.sources).testBit (run.image code) &&
        !(bitsOf (uppercaseTable.expansions.map (·.1))).testBit (run.image code))

end CaseRun

open CaseRun (isPlain isPlain_iff)

/-- What the kernel finds out about the tables, in one go. -/
theorem tables_computed :
    (lowercaseTable.runs.all fun run => run.isUndone && run.hasCapitals) = true ∧
      (∀ code ∈ lowercaseTable.images, code.isValidChar) ∧
      bitsOf lowercaseTable.sources &&& bitsOf uppercaseTable.sources =
        bitsOf (codesOf titleCaseRanges) ∧
      bitsOf (oneWayCapitals.map Char.toNat) &&& bitsOf lowercaseTable.images = 0 ∧
      bitsOf (oneWayCapitals.map Char.toNat) &&& bitsOf uppercaseTable.images = 0 ∧
      oneWayCapitals.map uppercase = oneWayCapitals.map ([·]) ∧
      oneWayCapitals.flatMap lowercase = ['i', '\u0307', 'θ', 'ß', 'ω', 'k', 'å'] := by
  decide +kernel

theorem lowercaseTable_undone {run : CaseRun} (member : run ∈ lowercaseTable.runs) :
    run.isUndone = true ∧ run.hasCapitals = true :=
  Bool.and_eq_true_iff.mp (List.all_eq_true.mp tables_computed.1 run member)

theorem lowercaseTable_images_valid : ∀ code ∈ lowercaseTable.images, code.isValidChar :=
  tables_computed.2.1

/-- What has both an upper and a lower case is of title case. -/
theorem mem_titleCase_iff {code : Nat} : code ∈ codesOf titleCaseRanges ↔
    code ∈ lowercaseTable.sources ∧ code ∈ uppercaseTable.sources :=
  mem_iff_of_bits tables_computed.2.2.1

/-- No table leads to one of the six capitals. -/
theorem oneWayCapitals_not_images :
    (oneWayCapitals.map Char.toNat).Disjoint lowercaseTable.images ∧
      (oneWayCapitals.map Char.toNat).Disjoint uppercaseTable.images :=
  ⟨disjoint_of_bits tables_computed.2.2.2.1, disjoint_of_bits tables_computed.2.2.2.2.1⟩

/-- They are upper case already. -/
theorem uppercase_oneWayCapital : ∀ capital ∈ oneWayCapitals, uppercase capital = [capital] :=
  List.map_inj_left.mp tables_computed.2.2.2.2.2.1

/-- Their small letters, the dot of the first one behind it. -/
theorem flatMap_lowercase_oneWayCapitals :
    oneWayCapitals.flatMap lowercase = ['i', '\u0307', 'θ', 'ß', 'ω', 'k', 'å'] :=
  tables_computed.2.2.2.2.2.2

set_option maxRecDepth 2000 in
theorem uppercaseTable_ordered : ∀ run ∈ uppercaseTable.runs, run.first ≤ run.last := by
  decide

theorem lowercaseTable_expansions :
    ∀ entry ∈ lowercaseTable.expansions, Char.ofNat entry.1 ∈ oneWayCapitals := by
  decide

theorem titleCase_back : ∀ code ∈ codesOf titleCaseRanges,
    (lowercase (Char.ofNat code)).flatMap uppercase = uppercase (Char.ofNat code) := by
  decide

/-! ### One character -/

/-- Upper-casing takes a small letter back to the plain letter that a run has taken to it. -/
theorem uppercase_of_run {run : CaseRun} {c : Char} (member : run ∈ lowercaseTable.runs)
    (covered : run.covers c.toNat = true) (plain : isPlain c.toNat = true) :
    uppercase (Char.ofNat (run.image c.toNat)) = [c] := by
  have same : (Char.ofNat (run.image c.toNat)).toNat = run.image c.toNat := by
    rw [Char.toNat_ofNat, if_pos (lowercaseTable_images_valid _ (CaseTable.image_of_covers member
      covered))]
  obtain ⟨undone, capitals⟩ := lowercaseTable_undone member
  obtain ⟨beyond, source, unexpanded⟩ : 0x80 ≤ run.image c.toNat ∧
      run.image c.toNat ∈ uppercaseTable.sources ∧
        run.image c.toNat ∉ uppercaseTable.expansions.map (·.1) := by
    have here := List.all_eq_true.mp capitals c.toNat (CaseRun.mem_codes covered)
    rw [plain, Bool.not_true, Bool.false_or, Bool.and_eq_true, Bool.and_eq_true, Bool.not_eq_true',
      Bool.eq_false_iff, Nat.ble_eq, Ne, testBit_bitsOf, testBit_bitsOf] at here
    exact here
  -- A source that is not expanded is one of some run.
  obtain ⟨back, known, met⟩ : ∃ back ∈ uppercaseTable.runs,
      back.covers (run.image c.toNat) = true := by
    rcases List.mem_append.mp source with ofRun | expanded
    · obtain ⟨back, known, listed⟩ := List.mem_flatMap.mp ofRun
      exact ⟨back, known, CaseRun.covers_of_mem_codes (uppercaseTable_ordered back known) listed⟩
    · exact absurd expanded unexpanded
  rw [← same] at unexpanded met
  obtain ⟨taken, known', met', image⟩ := CaseTable.exists_run_of_covers unexpanded known met
  rw [same] at met' image
  have undoes := CaseRun.undoes_of_isUndone undone covered known' met'
  rw [uppercase_of_not_ascii (by omega), image,
    CaseRun.image_image_of_undoes undoes plain covered met', Char.ofNat_toNat]

/-- Upper-casing does not tell a character from its lower-case form, the six capitals apart. -/
theorem flatMap_uppercase_lowercase {c : Char} (kept : c ∉ oneWayCapitals) :
    (lowercase c).flatMap uppercase = uppercase c := by
  by_cases ascii : c.toNat < 0x80
  · have all := forall_ascii (P := fun c => uppercase c.toLower = uppercase c) (by decide +kernel)
      ascii
    rw [lowercase, if_pos ascii, List.flatMap_singleton, all]
  · rw [lowercase, if_neg ascii]
    rcases CaseTable.image_forms lowercaseTable c with
      same | ⟨codes, expanded, -⟩ | ⟨run, member, covered, moved⟩
    · rw [same, List.flatMap_singleton]
    · have capital := lowercaseTable_expansions _ expanded
      rw [Char.ofNat_toNat] at capital
      exact absurd capital kept
    · by_cases source : c.toNat ∈ uppercaseTable.sources
      · have lower := CaseTable.source_of_covers member covered
        have computed := titleCase_back _ (mem_titleCase_iff.mpr ⟨lower, source⟩)
        rwa [Char.ofNat_toNat, lowercase, if_neg ascii] at computed
      · have plain : isPlain c.toNat = true := by
          refine isPlain_iff.mpr ⟨fun listed => ?_, fun title => ?_⟩
          · obtain ⟨capital, member, same⟩ := List.mem_map.mp listed
            exact kept (Char.toNat_inj.mp same ▸ member)
          · exact source (mem_titleCase_iff.mp title).2
        rw [moved, List.flatMap_singleton, uppercase_of_run member covered plain,
          uppercase_of_not_ascii ascii, CaseTable.image_eq_self source]

/-! ### The six capitals -/

section

variable {capital c : Char} (listed : capital ∈ oneWayCapitals)
include listed

theorem not_mem_of_ascii {text : List Char} (ascii : ∀ c ∈ text, c.toNat < 0x80) :
    capital ∉ text := fun inside => by
  have beyond : ∀ capital ∈ oneWayCapitals, 0x80 ≤ capital.toNat := by simp [oneWayCapitals]
  exact absurd (ascii capital inside) (not_lt.mpr (beyond capital listed))

/-- What a table yields is one of the six only if it was before. -/
theorem eq_of_mem_image {table : CaseTable}
    (apart : (oneWayCapitals.map Char.toNat).Disjoint table.images)
    (valid : ∀ code ∈ table.images, code.isValidChar) (yielded : capital ∈ table.image c) :
    capital = c := by
  rcases CaseTable.image_cases table c with same | ⟨-, codes, image, made⟩
  · rwa [same, List.mem_singleton] at yielded
  · rw [image, List.mem_map] at yielded
    obtain ⟨code, member, rfl⟩ := yielded
    have here := apart (List.mem_map_of_mem listed)
    rw [Char.toNat_ofNat, if_pos (valid code (made code member))] at here
    exact absurd (made code member) here

theorem eq_of_mem_uppercase (yielded : capital ∈ uppercase c) : capital = c := by
  by_cases ascii : c.toNat < 0x80
  · rw [uppercase_of_ascii ascii] at yielded
    refine absurd yielded (not_mem_of_ascii listed ?_)
    simpa using toNat_toUpper_lt ascii
  · rw [uppercase_of_not_ascii ascii] at yielded
    exact eq_of_mem_image listed oneWayCapitals_not_images.2 uppercaseTable_images_valid yielded

theorem not_mem_lowercase (c : Char) : capital ∉ lowercase c := by
  intro yielded
  obtain rfl : capital = c := by
    by_cases ascii : c.toNat < 0x80
    · rw [lowercase, if_pos ascii] at yielded
      refine absurd yielded (not_mem_of_ascii listed ?_)
      simpa using forall_ascii (P := fun c => c.toLower.toNat < 0x80) (by decide) ascii
    · rw [lowercase, if_neg ascii] at yielded
      exact eq_of_mem_image listed oneWayCapitals_not_images.1 lowercaseTable_images_valid yielded
  have small : capital ∈ oneWayCapitals.flatMap lowercase :=
    List.mem_flatMap.mpr ⟨capital, listed, yielded⟩
  rw [flatMap_lowercase_oneWayCapitals] at small
  have apart : ∀ capital ∈ oneWayCapitals, capital ∉ ['i', '\u0307', 'θ', 'ß', 'ω', 'k', 'å'] := by
    simp [oneWayCapitals]
  exact apart capital listed small

end

/-! ### Texts -/

theorem not_isWhiteSpace_oneWayCapital :
    ∀ capital ∈ oneWayCapitals, isWhiteSpace capital = false := by
  simp [oneWayCapitals, isWhiteSpace, inRanges, whiteSpaceRanges]

/-- Sigma has two small letters, and the capital is the same for both. -/
theorem uppercase_sigma :
    uppercase 'Σ' = ['Σ'] ∧ uppercase 'σ' = ['Σ'] ∧ uppercase 'ς' = ['Σ'] := by
  decide

theorem not_mem_lowercaseFrom {capital : Char} (listed : capital ∈ oneWayCapitals)
    (before text : List Char) : capital ∉ lowercaseFrom before text := by
  induction text generalizing before with
  | nil => exact List.not_mem_nil
  | cons c rest ih =>
    rw [lowercaseFrom, List.mem_append, not_or]
    refine ⟨?_, ih (c :: before)⟩
    split
    · -- Neither small sigma is a capital.
      have sigmas : 'ς' ∉ oneWayCapitals ∧ 'σ' ∉ oneWayCapitals := by decide
      rw [List.mem_singleton]
      split
      · exact fun same => sigmas.1 (same ▸ listed)
      · exact fun same => sigmas.2 (same ▸ listed)
    · exact not_mem_lowercase listed c

/-- Nor does upper-casing bring one back. -/
theorem not_mem_flatMap_uppercase_lowercaseText {capital : Char}
    (listed : capital ∈ oneWayCapitals) (text : List Char) :
    capital ∉ (lowercaseText text).flatMap uppercase := by
  intro inside
  obtain ⟨c, lowered, yielded⟩ := List.mem_flatMap.mp inside
  obtain rfl := eq_of_mem_uppercase listed yielded
  exact not_mem_lowercaseFrom listed [] text lowered

/-- Every capital of a text that is one of the six is in its upper-case form. -/
theorem mem_flatMap_uppercase {capital : Char} (listed : capital ∈ oneWayCapitals)
    {text : List Char} (inside : capital ∈ text) : capital ∈ text.flatMap uppercase := by
  refine List.mem_flatMap.mpr ⟨capital, inside, ?_⟩
  rw [uppercase_oneWayCapital capital listed]
  exact List.mem_singleton_self capital

theorem flatMap_uppercase_lowercaseFrom {text : List Char} (kept : ∀ c ∈ text, c ∉ oneWayCapitals)
    (before : List Char) : (lowercaseFrom before text).flatMap uppercase = text.flatMap uppercase := by
  -- What stands before decides only between the two small sigmas.
  induction text generalizing before with
  | nil => rfl
  | cons c rest ih =>
    obtain ⟨here, later⟩ := List.forall_mem_cons.mp kept
    rw [lowercaseFrom, List.flatMap_append, ih later, List.flatMap_cons]
    congr 1
    obtain ⟨capital, small, final⟩ := uppercase_sigma
    by_cases sigma : c = 'Σ'
    · rw [if_pos sigma, sigma, List.flatMap_singleton, capital]
      split
      · exact final
      · exact small
    · rw [if_neg sigma, flatMap_uppercase_lowercase here]

/-- Upper-casing gives back what lower-casing has taken exactly where none of the six capitals was
lost. -/
theorem flatMap_uppercase_lowercaseText_eq_iff {text : List Char} :
    (lowercaseText text).flatMap uppercase = text.flatMap uppercase ↔
      ∀ c ∈ text, c ∉ oneWayCapitals := by
  constructor
  · intro back c inside listed
    have shown := mem_flatMap_uppercase listed inside
    rw [← back] at shown
    exact not_mem_flatMap_uppercase_lowercaseText listed text shown
  · intro kept
    exact flatMap_uppercase_lowercaseFrom kept []

end RecordSearch.Unicode
