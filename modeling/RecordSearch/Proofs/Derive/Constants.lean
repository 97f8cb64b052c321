import RecordSearch.Proofs.Derive.Refusal
import RecordSearch.Proofs.Unicode.Casing

/-!
# The constants of member names

A constant is named after its member, whatever the member is called. Which names yield an identifier
can be told from their characters; a name given to a field may be one that does not, and then no
table is derived and no fault is reported in the ordinary way. Two members share a constant exactly if
their names are spelt alike in snake case.

## Main result

`derive_constants`: which constants are derived, when they can be declared, when two of them clash,
and for which names there is none.
-/
namespace RecordSearch

/-! ### Letters of ASCII -/

namespace Unicode

variable {c : Char}

theorem bounds_of_isLower (lower : c.isLower = true) : 0x61 ≤ c.toNat ∧ c.toNat ≤ 0x7A := by
  simpa [Char.isLower, UInt32.le_iff_toNat_le] using lower

theorem bounds_of_isUpper (upper : c.isUpper = true) : 0x41 ≤ c.toNat ∧ c.toNat ≤ 0x5A := by
  simpa [Char.isUpper, UInt32.le_iff_toNat_le] using upper

theorem inRanges_of_isAlpha {ranges : List (Nat × Nat)} (capitals : (0x41, 0x5A) ∈ ranges)
    (small : (0x61, 0x7A) ∈ ranges) (alpha : c.isAlpha = true) : inRanges ranges c.toNat = true := by
  rcases Bool.or_eq_true_iff.mp alpha with upper | lower
  · exact inRanges_iff.mpr ⟨_, capitals, bounds_of_isUpper upper⟩
  · exact inRanges_iff.mpr ⟨_, small, bounds_of_isLower lower⟩

theorem isIdentifierStart_of_isAlpha (alpha : c.isAlpha = true) : isIdentifierStart c = true := by
  have listed : inRanges identifierStartRanges c.toNat = true :=
    inRanges_of_isAlpha (by decide) (by decide) alpha
  rw [isIdentifierStart, listed]
  simp

theorem isIdentifierContinue_of_isAlpha (alpha : c.isAlpha = true) :
    isIdentifierContinue c = true := by
  have listed : inRanges identifierContinueRanges c.toNat = true :=
    inRanges_of_isAlpha (by decide) (by decide) alpha
  rw [isIdentifierContinue, listed]
  simp

/-- What makes an identifier does not depend on the case of letters. -/
theorem isIdentifierStart_toUpper (c : Char) :
    isIdentifierStart c.toUpper = isIdentifierStart c := by
  by_cases lower : c.isLower = true
  · have alpha : c.isAlpha = true := Bool.or_eq_true_iff.mpr (Or.inr lower)
    rw [isIdentifierStart_of_isAlpha alpha,
      isIdentifierStart_of_isAlpha (by rwa [Char.isAlpha_toUpper_eq_isAlpha])]
  · rw [Char.toUpper_eq_of_not_isLower lower]

theorem isIdentifierContinue_toUpper (c : Char) :
    isIdentifierContinue c.toUpper = isIdentifierContinue c := by
  by_cases lower : c.isLower = true
  · have alpha : c.isAlpha = true := Bool.or_eq_true_iff.mpr (Or.inr lower)
    rw [isIdentifierContinue_of_isAlpha alpha,
      isIdentifierContinue_of_isAlpha (by rwa [Char.isAlpha_toUpper_eq_isAlpha])]
  · rw [Char.toUpper_eq_of_not_isLower lower]

theorem uppercaseRanges_small : ∀ range ∈ uppercaseRanges, range.2 < 0x61 ∨ 0x7A < range.1 := by
  decide +kernel

theorem toUpper_eq_self_of_isUppercase (capital : isUppercase c = true) : c.toUpper = c := by
  refine Char.toUpper_eq_of_not_isLower fun lower => ?_
  obtain ⟨range, listed, above, below⟩ := inRanges_iff.mp capital
  have bounds := bounds_of_isLower lower
  have apart := uppercaseRanges_small range listed
  omega

theorem toLower_eq_self_of_not_isUppercase (small : isUppercase c = false) : c.toLower = c := by
  refine Char.toLower_eq_of_not_isUpper fun upper => ?_
  have capital : isUppercase c = true :=
    inRanges_iff.mpr ⟨(0x41, 0x5A), by decide, bounds_of_isUpper upper⟩
  cases small.symm.trans capital

end Unicode

namespace Derive

variable {c : Char} {afterLower : Bool} {text : List Char} {name other : String}

/-! ### One character of a name -/

/-- Whether a character stands for an underscore. -/
def isDash (c : Char) : Bool := c == '-' || c == ' '

/-- What stands for a character in the name of a constant. -/
def constantLetter (c : Char) : Char := if isDash c then '_' else c.toUpper

/-- Whether a capital behind a character begins a new word. -/
def endsLower (c : Char) : Bool := !Unicode.isUppercase c && Unicode.isAlphanumeric c

theorem isUppercase_of_dash (dash : c = '_' ∨ c = '-' ∨ c = ' ') :
    Unicode.isUppercase c = false := by
  rcases dash with rfl | rfl | rfl <;> decide +kernel

theorem isAlphanumeric_of_dash (dash : c = '_' ∨ c = '-' ∨ c = ' ') :
    Unicode.isAlphanumeric c = false := by
  rcases dash with rfl | rfl | rfl <;> decide +kernel

theorem isDash_iff : isDash c = true ↔ c = '-' ∨ c = ' ' := by
  rw [isDash, Bool.or_eq_true, beq_iff_eq, beq_iff_eq]

theorem isDash_of_isUppercase (capital : Unicode.isUppercase c = true) : isDash c = false := by
  by_contra dash
  have small := isUppercase_of_dash (Or.inr (isDash_iff.mp (by simpa using dash)))
  cases small.symm.trans capital

theorem constantLetter_of_dash (dash : c = '_' ∨ c = '-' ∨ c = ' ') : constantLetter c = '_' := by
  rcases dash with rfl | rfl | rfl <;> rfl

/-- A character adds what stands for it, behind an underscore where it begins a new word. -/
theorem constantCharacters_cons (afterLower : Bool) (c : Char) (rest : List Char) :
    constantCharacters afterLower (c :: rest) =
      (if afterLower && Unicode.isUppercase c then ['_'] else []) ++
        constantLetter c :: constantCharacters (endsLower c) rest := by
  rw [constantCharacters, endsLower]
  split
  next capital =>
    rw [constantLetter, isDash_of_isUppercase capital, capital,
      Unicode.toUpper_eq_self_of_isUppercase capital]
    cases afterLower <;> rfl
  next small =>
    rw [Bool.eq_false_iff.mpr small, Bool.and_false]
    split
    next dash =>
      rw [constantLetter_of_dash dash, isAlphanumeric_of_dash dash]
      rfl
    next solid =>
      have plain : isDash c = false := Bool.eq_false_iff.mpr fun dash =>
        solid (Or.inr (isDash_iff.mp dash))
      rw [constantLetter, plain]
      rfl

theorem toUpper_constantLetter (c : Char) : (constantLetter c).toUpper = constantLetter c := by
  rw [constantLetter]
  split
  · rfl
  · exact Char.toUpper_toUpper_eq_toUpper c

theorem isIdentifierStart_underscore : Unicode.isIdentifierStart '_' = true := by decide +kernel

theorem isIdentifierContinue_underscore : Unicode.isIdentifierContinue '_' = true := by
  decide +kernel

theorem isIdentifierStart_constantLetter (c : Char) :
    Unicode.isIdentifierStart (constantLetter c) = (isDash c || Unicode.isIdentifierStart c) := by
  rw [constantLetter]
  cases isDash c with
  | true => exact isIdentifierStart_underscore
  | false => exact Unicode.isIdentifierStart_toUpper c

theorem isIdentifierContinue_constantLetter (c : Char) :
    Unicode.isIdentifierContinue (constantLetter c) =
      (isDash c || Unicode.isIdentifierContinue c) := by
  rw [constantLetter]
  cases isDash c with
  | true => exact isIdentifierContinue_underscore
  | false => exact Unicode.isIdentifierContinue_toUpper c

theorem toUpper_eq_underscore_iff : c.toUpper = '_' ↔ c = '_' := by
  constructor
  · intro made
    -- No letter is turned into an underscore, and nothing but a letter is turned at all.
    have solid : c.isAlpha = false := by
      rw [← Char.isAlpha_toUpper_eq_isAlpha, made]
      rfl
    rwa [Char.toUpper_eq_of_not_isLower (Bool.eq_false_iff.mp (Bool.or_eq_false_iff.mp solid).2)]
      at made
  · rintro rfl
    rfl

theorem constantLetter_eq_underscore_iff :
    constantLetter c = '_' ↔ c = '_' ∨ c = '-' ∨ c = ' ' := by
  refine ⟨fun made => ?_, constantLetter_of_dash⟩
  rw [constantLetter] at made
  split at made
  next dash => exact Or.inr (isDash_iff.mp dash)
  next => exact Or.inl (toUpper_eq_underscore_iff.mp made)

/-! ### Which names have a constant -/

/-- Whether the constant for a name is an identifier, told from the name: whether it would be one
itself with underscores in place of dashes and blanks. -/
def hasConstant (name : String) : Bool :=
  match name.toList with
  | [] => false
  | first :: rest =>
    (isDash first || Unicode.isIdentifierStart first) &&
      rest.all fun c => isDash c || Unicode.isIdentifierContinue c

theorem hasConstant_of_isIdentifier (identifier : Unicode.isIdentifier name.toList = true) :
    hasConstant name = true := by
  rw [hasConstant]
  cases text : name.toList with
  | nil =>
    rw [text] at identifier
    cases identifier
  | cons first rest =>
    rw [text, Unicode.isIdentifier, Bool.and_eq_true, List.all_eq_true] at identifier
    simp only [Bool.and_eq_true, Bool.or_eq_true, List.all_eq_true]
    exact ⟨Or.inr identifier.1, fun c inside => Or.inr (identifier.2 c inside)⟩

/-- What a constant's name goes on with is told from the member's name, character by character. -/
theorem all_constantCharacters (afterLower : Bool) (text : List Char) :
    (constantCharacters afterLower text).all Unicode.isIdentifierContinue =
      text.all fun c => isDash c || Unicode.isIdentifierContinue c := by
  induction text generalizing afterLower with
  | nil => rfl
  | cons c rest ih =>
    rw [constantCharacters_cons, List.all_append, List.all_cons, List.all_cons, ih,
      isIdentifierContinue_constantLetter]
    split
    · simp only [List.all_cons, isIdentifierContinue_underscore, List.all_nil, Bool.true_and]
    · rfl

theorem isIdentifier_constantName (name : String) :
    Unicode.isIdentifier (constantName name).toList = hasConstant name := by
  rw [constantName, String.toList_ofList, hasConstant]
  cases name.toList with
  | nil => rfl
  | cons first rest =>
    change _ = ((isDash first || Unicode.isIdentifierStart first) &&
      rest.all fun c => isDash c || Unicode.isIdentifierContinue c)
    rw [constantCharacters_cons, ← all_constantCharacters (endsLower first),
      ← isIdentifierStart_constantLetter]
    rfl

/-! ### Words that no constant can be named -/

/-- Words that stand for a place in a path. -/
def pathWords : List String := ["crate", "self", "Self", "super"]

/-- Whether a constant can be declared by a name. -/
structure IsDeclarable (name : String) : Prop where
  identifier : Unicode.isIdentifier name.toList = true
  free : name ∉ Settings.reservedWords ++ pathWords

theorem toUpper_of_mem_constantCharacters (inside : c ∈ constantCharacters afterLower text) :
    c.toUpper = c := by
  induction text generalizing afterLower with
  | nil => cases inside
  | cons first rest ih =>
    rw [constantCharacters_cons, List.mem_append, List.mem_cons] at inside
    rcases inside with mark | rfl | later
    · rw [List.mem_singleton.mp (List.mem_ite_nil_right.mp mark).2]
      rfl
    · exact toUpper_constantLetter first
    · exact ih later

/-- Every such word but the underscore has a small letter. -/
theorem exists_small_of_word : ∀ word ∈ Settings.reservedWords ++ pathWords,
    word = "_" ∨ ∃ c ∈ word.toList, c.toUpper ≠ c := by
  simp [Settings.reservedWords, pathWords]

theorem constantCharacters_eq_nil_iff : constantCharacters afterLower text = [] ↔ text = [] := by
  cases text with
  | nil => exact Iff.rfl
  | cons c rest => simp [constantCharacters_cons]

theorem constantCharacters_eq_underscore_iff : constantCharacters false text = ['_'] ↔
    ∃ c, text = [c] ∧ (c = '_' ∨ c = '-' ∨ c = ' ') := by
  cases text with
  | nil => simp [constantCharacters]
  | cons c rest =>
    simp only [constantCharacters_cons, Bool.false_and, Bool.false_eq_true, if_false, List.nil_append,
      List.cons.injEq, constantLetter_eq_underscore_iff, constantCharacters_eq_nil_iff]
    constructor
    · rintro ⟨dash, rfl⟩
      exact ⟨c, ⟨rfl, rfl⟩, dash⟩
    · rintro ⟨_, ⟨rfl, rfl⟩, dash⟩
      exact ⟨dash, rfl⟩

theorem constantName_eq_underscore_iff : constantName name = "_" ↔ name ∈ ["_", "-", " "] := by
  have made : String.ofList (constantCharacters false name.toList) = String.ofList ['_'] ↔
      constantCharacters false name.toList = ['_'] := String.ofList_inj
  change constantName name = "_" ↔ _ at made
  simp only [made, constantCharacters_eq_underscore_iff, List.mem_cons, List.not_mem_nil, or_false,
    ← String.toList_inj]
  constructor
  · rintro ⟨c, single, rfl | rfl | rfl⟩
    · exact Or.inl single
    · exact Or.inr (Or.inl single)
    · exact Or.inr (Or.inr single)
  · rintro (underscore | dash | blank)
    · exact ⟨'_', underscore, Or.inl rfl⟩
    · exact ⟨'-', dash, Or.inr (Or.inl rfl)⟩
    · exact ⟨' ', blank, Or.inr (Or.inr rfl)⟩

/-- A constant that is an identifier can be declared, unless it is a lone underscore. -/
theorem isDeclarable_constantName_iff
    (named : Unicode.isIdentifier (constantName name).toList = true) :
    IsDeclarable (constantName name) ↔ name ∉ ["_", "-", " "] := by
  rw [← constantName_eq_underscore_iff]
  constructor
  · intro declarable underscore
    refine declarable.free ?_
    rw [underscore]
    decide
  · intro other
    refine ⟨named, fun word => ?_⟩
    -- A reserved word has a small letter; a constant is in capitals throughout.
    obtain ⟨c, inside, small⟩ := (exists_small_of_word _ word).resolve_left other
    rw [constantName, String.toList_ofList] at inside
    exact small (toUpper_of_mem_constantCharacters inside)

/-! ### Names with the same constant -/

/-- The characters of a name in snake case. The cases are those of its constant. -/
def snakeCharacters : Bool → List Char → List Char
  | _, [] => []
  | afterLower, c :: rest =>
    if Unicode.isUppercase c then
      let word := c.toLower :: snakeCharacters false rest
      if afterLower then '_' :: word else word
    else if c = '_' ∨ c = '-' ∨ c = ' ' then '_' :: snakeCharacters false rest
    else c :: snakeCharacters (Unicode.isAlphanumeric c) rest

/-- A name in snake case: in small letters of ASCII, with underscores for dashes and blanks and where
a capital begins a new word. -/
def snakeName (name : String) : String := String.ofList (snakeCharacters false name.toList)

/-- Whether a name is spelt in snake case. -/
def IsSnakeCase (name : String) : Prop :=
  ∀ c ∈ name.toList, Unicode.isUppercase c = false ∧ isDash c = false

theorem snakeCharacters_eq_map_toLower (afterLower : Bool) (text : List Char) :
    snakeCharacters afterLower text = (constantCharacters afterLower text).map Char.toLower := by
  induction text generalizing afterLower with
  | nil => rfl
  | cons c rest ih =>
    rw [snakeCharacters, constantCharacters]
    split
    next capital =>
      simp only [ih]
      cases afterLower <;> rfl
    next small =>
      split
      next dash =>
        rw [List.map_cons, ih]
        rfl
      next solid =>
        have kept := Unicode.toLower_eq_self_of_not_isUppercase (Bool.eq_false_iff.mpr small)
        rw [List.map_cons, ih, Char.toLower_toUpper_eq_toLower, kept]

theorem constantCharacters_eq_map_toUpper (afterLower : Bool) (text : List Char) :
    constantCharacters afterLower text = (snakeCharacters afterLower text).map Char.toUpper := by
  have kept : ∀ c ∈ constantCharacters afterLower text, (Char.toUpper ∘ Char.toLower) c = id c :=
    fun c inside => (Char.toUpper_toLower_eq_toUpper c).trans
      (toUpper_of_mem_constantCharacters inside)
  rw [snakeCharacters_eq_map_toLower, List.map_map, List.map_congr_left kept, List.map_id]

/-- Two names have one constant exactly if they are spelt alike in snake case. -/
theorem constantName_eq_iff : constantName name = constantName other ↔
    snakeName name = snakeName other := by
  rw [constantName, constantName, snakeName, snakeName, String.ofList_inj, String.ofList_inj]
  constructor
  · intro same
    rw [snakeCharacters_eq_map_toLower, same, ← snakeCharacters_eq_map_toLower]
  · intro same
    rw [constantCharacters_eq_map_toUpper, same, ← constantCharacters_eq_map_toUpper]

theorem snakeCharacters_eq_self
    (spelt : ∀ c ∈ text, Unicode.isUppercase c = false ∧ isDash c = false) :
    snakeCharacters afterLower text = text := by
  induction text generalizing afterLower with
  | nil => rfl
  | cons c rest ih =>
    obtain ⟨⟨small, solid⟩, others⟩ := List.forall_mem_cons.mp spelt
    rw [snakeCharacters, if_neg (Bool.eq_false_iff.mp small)]
    split
    next dash =>
      -- What is no dash and no blank can only be an underscore.
      have rest' : ¬ (c = '-' ∨ c = ' ') := by simpa [isDash] using solid
      rw [ih others, dash.resolve_right rest']
    next => rw [ih others]

theorem snakeName_eq_self (spelt : IsSnakeCase name) : snakeName name = name := by
  rw [snakeName, snakeCharacters_eq_self spelt, String.ofList_toList]

/-! ### Constants of a derivation -/

/-- Whether every member has a constant that is named after it and is an identifier. -/
structure Derivation.IsNamed (d : Derivation) : Prop where
  constants : d.constants = d.table.map fun entry => (constantName entry.name, entry.name)
  named : ∀ entry ∈ d.table, Unicode.isIdentifier (constantName entry.name).toList = true

/-- Whether a field has a member of a name without a constant, and nothing else is wrong with it
first. -/
inductive FieldItem.LacksConstant (field : FieldItem) : String → Prop
  | intro {settings : Settings} {kind : Kind}
      (made : Settings.ofAttributes field.attributes = .ok settings) (kept : settings.skip = false)
      (told : settings.kind.or field.memberType.kind? = some kind)
      (unnamed : hasConstant (field.memberName settings) = false) :
      LacksConstant field (constantName (field.memberName settings))

variable {field : FieldItem} {fields : List FieldItem} {parts : List Derivation}
  {first second d : Derivation}

theorem FieldItem.hasFault_invalidConstant_iff {constant : String} :
    field.HasFault (.invalidConstant constant) ↔ field.LacksConstant constant := by
  constructor
  · rintro (_ | _ | ⟨made, kept, told, unnamed⟩)
    exact .intro made kept told ((isIdentifier_constantName _).symm.trans unnamed)
  · rintro ⟨made, kept, told, unnamed⟩
    exact .invalidConstant made kept told ((isIdentifier_constantName _).trans unnamed)

namespace Derivation

theorem IsNamed.append (one : first.IsNamed) (two : second.IsNamed) : (first ++ second).IsNamed := by
  constructor
  · change first.constants ++ second.constants = (first.table ++ second.table).map _
    rw [List.map_append, one.constants, two.constants]
  · intro entry inside
    rcases List.mem_append.mp inside with before | behind
    · exact one.named entry before
    · exact two.named entry behind

theorem isNamed_of_adds (adds : field.Adds d) : d.IsNamed := by
  cases adds with
  | skipped => exact ⟨rfl, nofun⟩
  | member made kept told named =>
    refine ⟨rfl, fun entry inside => ?_⟩
    obtain rfl := List.mem_singleton.mp inside
    exact named

theorem isNamed_joined (adds : List.Forall₂ FieldItem.Adds fields parts) :
    (joined parts).IsNamed := by
  induction adds with
  | nil => exact ⟨rfl, nofun⟩
  | cons first _ ih => exact (isNamed_of_adds first).append ih

theorem IsNamed.nodup_iff (named : d.IsNamed) : (d.constants.map Prod.fst).Nodup ↔
    (d.table.map fun entry => snakeName entry.name).Nodup := by
  rw [named.constants, List.map_map]
  simp only [List.Nodup, List.pairwise_map, Function.comp_apply, ne_eq, constantName_eq_iff]

end Derivation

theorem isNamed_of_derive {item : Item} (derived : derive item = .ok d) : d.IsNamed := by
  obtain ⟨-, fields, -, made⟩ := derive_eq_ok_iff.mp derived
  obtain ⟨parts, adds, rfl⟩ := Derivation.ofFields_eq_ok_iff.mp made
  exact Derivation.isNamed_joined adds

/-- **Constants.** What is derived has one constant for each member, named after it by an identifier.
It can be declared unless it is a lone underscore, and no two of them clash exactly if no two names
are spelt alike in snake case; names that are so spelt need only differ. Instead of a derivation or an
ordinary fault there is a name without a constant exactly if the first field at fault has a member
that is called so. Of such names each is given by an attribute: an identifier always has a constant,
and which other names do is told from their characters. -/
theorem derive_constants (item : Item) :
    (∀ d, derive item = .ok d →
      d.constants = d.table.map (fun entry => (constantName entry.name, entry.name)) ∧
        (∀ entry ∈ d.table, Unicode.isIdentifier (constantName entry.name).toList = true ∧
          (IsDeclarable (constantName entry.name) ↔ entry.name ∉ ["_", "-", " "])) ∧
        ((d.constants.map Prod.fst).Nodup ↔
          (d.table.map fun entry => snakeName entry.name).Nodup) ∧
        ((∀ entry ∈ d.table, IsSnakeCase entry.name) →
          ((d.constants.map Prod.fst).Nodup ↔ (d.table.map TableEntry.name).Nodup))) ∧
      (∀ constant, derive item = .error (.invalidConstant constant) ↔
        Trivia.isTrivia item.parameters = true ∧ ∃ before field after,
          item.body = .fields (before ++ field :: after) ∧
            (∀ earlier ∈ before, ∀ e, ¬ earlier.HasFault e) ∧ field.LacksConstant constant) ∧
      ∀ name, Unicode.isIdentifier (constantName name).toList = hasConstant name ∧
        (Unicode.isIdentifier name.toList = true → hasConstant name = true) := by
  refine ⟨fun d derived => ?_, fun constant => ?_, fun name => ?_⟩
  · have named := isNamed_of_derive derived
    refine ⟨named.constants, fun entry inside => ?_, named.nodup_iff, fun spelt => ?_⟩
    · have identifier := named.named entry inside
      exact ⟨identifier, isDeclarable_constantName_iff identifier⟩
    · have same : (d.table.map fun entry => snakeName entry.name) = d.table.map TableEntry.name :=
        List.map_congr_left fun entry inside => snakeName_eq_self (spelt entry inside)
      rw [named.nodup_iff, same]
  · rw [derive_eq_error_iff]
    constructor
    · rintro (_ | _ | _ | ⟨plain, shape, first, fault⟩)
      exact ⟨plain, _, _, _, shape, first, FieldItem.hasFault_invalidConstant_iff.mp fault⟩
    · rintro ⟨plain, before, field, after, shape, first, lacks⟩
      exact .field plain shape first (FieldItem.hasFault_invalidConstant_iff.mpr lacks)
  · exact ⟨isIdentifier_constantName name, hasConstant_of_isIdentifier⟩

/-- A field of a text under another name. -/
def renamed (field name : String) : FieldItem :=
  ⟨field, .named ["String"], .everywhere,
    [⟨["search"], .entries [.assign ["rename"] (.text name)]⟩]⟩

set_option maxRecDepth 8192 in
/-- A name with a dash and one with a capital have constants that do not clash. -/
theorem derive_constants_shelf : ∃ d,
    derive ⟨"Shelf", "", .fields [renamed "title" "main-title", renamed "year" "publishedAt"]⟩ =
        .ok d ∧
      d.constants = [("MAIN_TITLE", "main-title"), ("PUBLISHED_AT", "publishedAt")] ∧
      (d.constants.map Prod.fst).Nodup ∧
      ∀ entry ∈ d.table, IsDeclarable (constantName entry.name) := by
  have plain : Trivia.isTrivia "" = true := by decide +kernel
  obtain ⟨d, derived, listed, constants⟩ : ∃ d,
      derive ⟨"Shelf", "", .fields [renamed "title" "main-title", renamed "year" "publishedAt"]⟩ =
          .ok d ∧
        d.table.map TableEntry.name = ["main-title", "publishedAt"] ∧
        d.constants = [("MAIN_TITLE", "main-title"), ("PUBLISHED_AT", "publishedAt")] := by
    rw [derive_of_fields plain rfl]
    exact ⟨_, rfl, rfl, rfl⟩
  obtain ⟨-, named, distinct, -⟩ := (derive_constants _).1 d derived
  refine ⟨d, derived, constants, distinct.mpr ?_, fun entry inside => (named entry inside).2.mpr ?_⟩
  · have spelt : (d.table.map fun entry => snakeName entry.name) =
        (d.table.map TableEntry.name).map snakeName := by simp
    rw [spelt, listed]
    decide +kernel
  · have known : entry.name ∈ d.table.map TableEntry.name := List.mem_map_of_mem inside
    rw [listed, List.mem_pair] at known
    rcases known with called | called
    · rw [called]
      decide
    · rw [called]
      decide

set_option maxRecDepth 8192 in
/-- A name that begins with a digit is met with no ordinary fault, the constant of a dash is a lone
underscore, and two names share a constant. -/
theorem derive_renamed :
    derive ⟨"Book", "", .fields [renamed "edition" "2nd"]⟩ = .error (.invalidConstant "2ND") ∧
      Derivation.constants <$> derive ⟨"Book", "", .fields [renamed "isbn" "-"]⟩ =
        .ok [("_", "-")] ∧
      Derivation.constants <$> derive ⟨"Book", "", .fields
          [renamed "first" "fooBar", renamed "second" "foo_bar"]⟩ =
        .ok [("FOO_BAR", "fooBar"), ("FOO_BAR", "foo_bar")] := by
  have plain : Trivia.isTrivia "" = true := by decide +kernel
  refine ⟨?_, ?_, ?_⟩
  · rw [derive_of_fields plain rfl]
    rfl
  · rw [derive_of_fields plain rfl]
    rfl
  · rw [derive_of_fields plain rfl]
    rfl

end Derive

end RecordSearch
