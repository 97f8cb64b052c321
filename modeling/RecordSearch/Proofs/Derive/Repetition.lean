import Mathlib.Data.List.Perm.Basic
import RecordSearch.Proofs.Derive.Acceptance

/-!
# What is said more than once

A kind that is named twice is refused only where the later of the two is a word, so the same entries
may be refused in one order and accepted in another. Of several attributes only the first speaks.

## Main results

`isRefused_repeated`: when a list of entries is refused, and when that depends on its order.
`ofAttributes_several`: when several attributes do what one with all their entries would do.
-/
namespace RecordSearch.Derive

namespace Settings

/-! ### Kinds that are named again -/

/-- The words among the entries that name a kind. -/
def kindWords (entries : List Entry) : List Entry := (kindEntries entries).filter Entry.isFlag

variable {entries other : List Entry} {word : Entry}

theorem kindEntries_perm (reordered : other.Perm entries) :
    (kindEntries other).Perm (kindEntries entries) := reordered.filter _

theorem kindWords_perm (reordered : other.Perm entries) :
    (kindWords other).Perm (kindWords entries) := (kindEntries_perm reordered).filter _

theorem Accepted.length_kindWords_le (accepted : Accepted entries) :
    (kindWords entries).length ≤ 1 := by
  have again := accepted.again
  rw [kindWords]
  cases named : kindEntries entries with
  | nil => simp
  | cons first rest =>
    rw [named, List.tail_cons] at again
    -- Only the first entry that names a kind can be a word.
    have others : rest.filter Entry.isFlag = [] := by simpa [List.filter_eq_nil_iff] using again
    rw [List.filter_cons, others]
    split <;> simp

theorem accepted_of_kindWords_nil (sound : ∀ entry ∈ entries, entry.IsSound)
    (none : kindWords entries = []) : Accepted entries := by
  refine ⟨sound, fun again inside => ?_⟩
  have noWord := List.filter_eq_nil_iff.mp none again (List.mem_of_mem_tail inside)
  simpa using noWord

theorem accepted_of_length_kindEntries_le (sound : ∀ entry ∈ entries, entry.IsSound)
    (single : (kindEntries entries).length ≤ 1) : Accepted entries := by
  have none : (kindEntries entries).tail = [] := by
    rw [← List.length_eq_zero_iff, List.length_tail]
    omega
  exact ⟨sound, by simp [none]⟩

theorem kindEntries_cons (names : word.namesKind = true) (rest : List Entry) :
    kindEntries (word :: rest) = word :: kindEntries rest := List.filter_cons_of_pos names

/-- With a single word of a kind, the order that begins with the word is accepted. -/
theorem accepted_word_first (sound : ∀ entry ∈ entries, entry.IsSound)
    (single : kindWords entries = [word]) :
    (word :: entries.erase word).Perm entries ∧ Accepted (word :: entries.erase word) := by
  obtain ⟨inKinds, flag⟩ := List.mem_filter.mp (single ▸ List.mem_singleton_self word)
  obtain ⟨inside, names⟩ := List.mem_filter.mp inKinds
  have reordered := (List.perm_cons_erase inside).symm
  refine ⟨reordered, fun entry listed => sound entry (reordered.mem_iff.mp listed), ?_⟩
  rw [kindEntries_cons names, List.tail_cons]
  -- The word is the only one, so there is none behind it.
  have length : (kindWords (word :: entries.erase word)).length = 1 := by
    rw [(kindWords_perm reordered).length_eq, single, List.length_singleton]
  rw [kindWords, kindEntries_cons names, List.filter_cons_of_pos flag, List.length_cons,
    Nat.add_eq_right, List.length_eq_zero_iff, List.filter_eq_nil_iff] at length
  intro again behind
  simpa using length again behind

/-- If the kind is named by something else as well, the order that ends in the word is refused. -/
theorem not_accepted_word_last (single : kindWords entries = [word])
    (repeated : 2 ≤ (kindEntries entries).length) :
    (entries.erase word ++ [word]).Perm entries ∧ ¬ Accepted (entries.erase word ++ [word]) := by
  obtain ⟨inKinds, flag⟩ := List.mem_filter.mp (single ▸ List.mem_singleton_self word)
  obtain ⟨inside, names⟩ := List.mem_filter.mp inKinds
  have reordered : (entries.erase word ++ [word]).Perm entries :=
    (List.perm_append_singleton word _).trans (List.perm_cons_erase inside).symm
  refine ⟨reordered, fun accepted => ?_⟩
  -- Something else names a kind before the word, so the word is not the first that does.
  have split : kindEntries (entries.erase word ++ [word]) =
      kindEntries (entries.erase word) ++ [word] := by
    rw [kindEntries, List.filter_append, List.filter_cons_of_pos names]
    rfl
  have length := (kindEntries_perm reordered).length_eq
  rw [split, List.length_append, List.length_singleton] at length
  have others : kindEntries (entries.erase word) ≠ [] := by
    intro none
    rw [none, List.length_nil] at length
    omega
  have last : word ∈ (kindEntries (entries.erase word ++ [word])).tail := by
    rw [split, List.tail_append_of_ne_nil others]
    simp
  cases flag.symm.trans (accepted.again word last)

/-- Some order is accepted exactly if each entry says something and at most one is a word of a
kind. -/
theorem exists_perm_accepted_iff : (∃ other, other.Perm entries ∧ Accepted other) ↔
    (∀ entry ∈ entries, entry.IsSound) ∧ (kindWords entries).length ≤ 1 := by
  constructor
  · rintro ⟨other, reordered, accepted⟩
    refine ⟨fun entry inside => accepted.sound entry (reordered.mem_iff.mpr inside), ?_⟩
    rw [← (kindWords_perm reordered).length_eq]
    exact accepted.length_kindWords_le
  · rintro ⟨sound, few⟩
    cases words : kindWords entries with
    | nil => exact ⟨entries, .refl entries, accepted_of_kindWords_nil sound words⟩
    | cons word rest =>
      -- The only word can stand first.
      have none : rest = [] := by simpa [words] using few
      rw [none] at words
      exact ⟨_, accepted_word_first sound words⟩

/-- Every order is accepted exactly if each entry says something and no word of a kind meets another
entry that names one. -/
theorem forall_perm_accepted_iff : (∀ other, other.Perm entries → Accepted other) ↔
    (∀ entry ∈ entries, entry.IsSound) ∧
      (kindWords entries = [] ∨ (kindEntries entries).length ≤ 1) := by
  constructor
  · intro accepted
    have here := accepted entries (.refl entries)
    refine ⟨here.sound, ?_⟩
    by_contra meets
    obtain ⟨named, repeated⟩ := not_or.mp meets
    obtain ⟨word, single⟩ : ∃ word, kindWords entries = [word] := by
      rw [← List.length_eq_one_iff]
      exact Nat.le_antisymm here.length_kindWords_le (List.length_pos_iff.mpr named)
    obtain ⟨reordered, refused⟩ := not_accepted_word_last single (Nat.lt_of_not_le repeated)
    exact refused (accepted _ reordered)
  · rintro ⟨sound, apart⟩ other reordered
    have sound' : ∀ entry ∈ other, entry.IsSound := fun entry inside =>
      sound entry (reordered.mem_iff.mp inside)
    rcases apart with none | single
    · exact accepted_of_kindWords_nil sound' (List.perm_nil.mp (none ▸ kindWords_perm reordered))
    · rw [← (kindEntries_perm reordered).length_eq] at single
      exact accepted_of_length_kindEntries_le sound' single

theorem forall_perm_isRefused_iff : (∀ other, other.Perm entries → IsRefused other) ↔
    (∃ entry ∈ entries, ¬ entry.IsSound) ∨ 2 ≤ (kindWords entries).length := by
  have refuses : (∀ other, other.Perm entries → IsRefused other) ↔
      ¬ ∃ other, other.Perm entries ∧ Accepted other := by
    simp only [isRefused_iff, not_exists, not_and]
  rw [refuses, exists_perm_accepted_iff, Classical.not_and_iff_not_or_not, Nat.not_le]
  exact or_congr_left (by simp)

/-- Whether an order is refused does not depend on the order exactly if all are refused or all are
accepted. -/
theorem forall_perm_alike_iff :
    (∀ other, other.Perm entries → (IsRefused other ↔ IsRefused entries)) ↔
      (∃ entry ∈ entries, ¬ entry.IsSound) ∨ (kindWords entries).length ≠ 1 ∨
        (kindEntries entries).length ≤ 1 := by
  constructor
  · intro alike
    -- The given order decides for all: they are refused with it, or accepted with it.
    by_cases refused : IsRefused entries
    · have always := forall_perm_isRefused_iff.mp fun other reordered =>
        (alike other reordered).mpr refused
      exact always.imp_right fun two => Or.inl (by omega)
    · have always := forall_perm_accepted_iff.mp fun other reordered => by
        have kept := (not_congr (alike other reordered)).mpr refused
        rwa [isRefused_iff, not_not] at kept
      rcases always.2 with none | single
      · exact Or.inr (Or.inl (by simp [none]))
      · exact Or.inr (Or.inr single)
  · intro settled other reordered
    by_cases refusing : (∃ entry ∈ entries, ¬ entry.IsSound) ∨ 2 ≤ (kindWords entries).length
    · have always := forall_perm_isRefused_iff.mpr refusing
      exact iff_of_true (always other reordered) (always entries (.refl entries))
    · have sound : ∀ entry ∈ entries, entry.IsSound := by simpa using fun h => refusing (Or.inl h)
      have apart : kindWords entries = [] ∨ (kindEntries entries).length ≤ 1 := by
        rcases settled with unsound | several | single
        · exact absurd (Or.inl unsound) refusing
        · left
          have few : ¬ 2 ≤ (kindWords entries).length := fun two => refusing (Or.inr two)
          exact List.length_eq_zero_iff.mp (by omega)
        · exact Or.inr single
      have always := forall_perm_accepted_iff.mpr ⟨sound, apart⟩
      rw [isRefused_iff, isRefused_iff]
      exact iff_of_false (not_not_intro (always other reordered))
        (not_not_intro (always entries (.refl entries)))

/-- **Repeated kinds.** A list of entries is refused exactly if an entry says nothing, or if a kind
is named again by a word; an assignment that names one again is no fault. It is refused in every
order exactly if an entry says nothing or two are words of kinds. All orders are treated alike unless
each entry says something, exactly one is a word of a kind, and another names a kind as well. -/
theorem isRefused_repeated (entries : List Entry) :
    (IsRefused entries ↔ (∃ entry ∈ entries, ¬ entry.IsSound) ∨
        ∃ again ∈ (kindEntries entries).tail, again.isFlag = true) ∧
      ((∀ other, other.Perm entries → IsRefused other) ↔
        (∃ entry ∈ entries, ¬ entry.IsSound) ∨ 2 ≤ (kindWords entries).length) ∧
      ((∀ other, other.Perm entries → (IsRefused other ↔ IsRefused entries)) ↔
        (∃ entry ∈ entries, ¬ entry.IsSound) ∨ (kindWords entries).length ≠ 1 ∨
          (kindEntries entries).length ≤ 1) :=
  ⟨isRefused_iff.trans not_accepted_iff, forall_perm_isRefused_iff, forall_perm_alike_iff⟩

/-- A word and an assignment that name different kinds: accepted in this order, refused in the
other. -/
theorem ofEntries_wordThenType :
    ofEntries [.flag ["String"], .assign ["ty"] (.text "Number")] =
        .ok ⟨some .number, false, false, none⟩ ∧
      ofEntries [.assign ["ty"] (.text "Number"), .flag ["String"]] = .error .kindGivenTwice ∧
      ofEntries [.assign ["ty"] (.text "String"), .assign ["ty"] (.text "Number")] =
        .ok ⟨some .number, false, false, none⟩ := by
  refine ⟨?_, ?_, ?_⟩ <;> rfl

end Settings

/-! ### Several attributes -/

def Arguments.toList : Arguments → List Entry
  | .entries given => given
  | _ => []

def Arguments.areEntries : Arguments → Bool
  | .entries _ => true
  | _ => false

/-- The entries of all of a field's attributes for the derivation. -/
def FieldItem.allEntries (field : FieldItem) : List Entry :=
  (field.attributes.filter Attribute.isSearch).flatMap fun a => a.arguments.toList

/-- Whether entries stand behind the name of each of these attributes. -/
def FieldItem.listsEntries (field : FieldItem) : Bool :=
  (field.attributes.filter Attribute.isSearch).all fun a => a.arguments.areEntries

/-- The entries that speak for a field are those of its first attribute. -/
theorem FieldItem.entries_eq (field : FieldItem) : field.entries =
    ((field.attributes.filter Attribute.isSearch).take 1).flatMap fun a => a.arguments.toList := by
  rw [entries, ← List.head?_filter]
  cases field.attributes.filter Attribute.isSearch with
  | nil => rfl
  | cons first others =>
    obtain ⟨path, arguments⟩ := first
    cases arguments with
    | entries given => exact (List.append_nil given).symm
    | _ => rfl

theorem FieldItem.entries_prefix (field : FieldItem) : field.entries <+: field.allEntries := by
  rw [entries_eq, allEntries]
  nth_rewrite 2 [← List.take_append_drop 1 (field.attributes.filter Attribute.isSearch)]
  rw [List.flatMap_append]
  exact List.prefix_append _ _

namespace Settings

variable {field : FieldItem}

theorem ofAttributes_eq_ofEntries (listed : field.listsEntries = true) :
    ofAttributes field.attributes = ofEntries field.entries := by
  rw [ofAttributes, FieldItem.entries]
  cases first : field.attributes.find? Attribute.isSearch with
  | none => rfl
  | some found =>
    have inside : found ∈ field.attributes.filter Attribute.isSearch :=
      List.mem_filter.mpr ⟨List.mem_of_find?_eq_some first, List.find?_some first⟩
    have given := List.all_eq_true.mp listed found inside
    obtain ⟨path, arguments⟩ := found
    cases arguments with
    | entries entries => rfl
    | _ => cases given

theorem Accepted.of_prefix {before entries : List Entry} (accepted : Accepted entries)
    (starts : before <+: entries) : Accepted before := by
  refine ⟨fun entry inside => accepted.sound entry (starts.subset inside), fun again inside => ?_⟩
  exact accepted.again again ((starts.sublist.filter _).tail.subset inside)

/-- **Several attributes.** A field has the settings that the entries of its first attribute make.
They are those that the entries of all its attributes would make in one exactly if the first
attribute is refused, or if all entries together are accepted and tell what those of the first one
tell. So it is wherever there is at most one attribute. -/
theorem ofAttributes_several (listed : field.listsEntries = true) :
    ofAttributes field.attributes = ofEntries field.entries ∧
      ((∀ settings, ofAttributes field.attributes = .ok settings ↔
          ofEntries field.allEntries = .ok settings) ↔
        (Accepted field.entries →
          Accepted field.allEntries ∧ told field.allEntries = told field.entries)) ∧
      ((field.attributes.filter Attribute.isSearch).length ≤ 1 →
        ofAttributes field.attributes = ofEntries field.allEntries) := by
  rw [ofAttributes_eq_ofEntries listed]
  simp only [ofEntries_eq_ok_iff]
  refine ⟨trivial, ⟨?_, ?_⟩, ?_⟩
  · intro alike accepted
    obtain ⟨acceptedAll, same⟩ := (alike (told field.entries)).mp ⟨accepted, rfl⟩
    exact ⟨acceptedAll, same.symm⟩
  · intro repeats settings
    constructor
    · rintro ⟨accepted, rfl⟩
      obtain ⟨acceptedAll, same⟩ := repeats accepted
      exact ⟨acceptedAll, same.symm⟩
    · rintro ⟨acceptedAll, rfl⟩
      -- What all entries together are accepted with, the first attribute's are accepted with too.
      have accepted := acceptedAll.of_prefix field.entries_prefix
      exact ⟨accepted, (repeats accepted).2⟩
  · intro single
    rw [FieldItem.entries_eq, List.take_of_length_le single, FieldItem.allEntries]

/-- A field whose second attribute repeats what the first one says, between other attributes. -/
def slug : FieldItem :=
  ⟨"slug", .named ["String"], .everywhere,
    [⟨["doc"], .assigned⟩,
      ⟨["search"], .entries [.flag ["readonly"], .assign ["rename"] (.text "key")]⟩,
      ⟨["serde"], .entries [.flag ["skip"]]⟩, ⟨["search"], .entries [.flag ["readonly"]]⟩]⟩

theorem ofAttributes_several_slug :
    slug.listsEntries = true ∧ slug.allEntries =
        [.flag ["readonly"], .assign ["rename"] (.text "key"), .flag ["readonly"]] ∧
      ∀ settings, ofAttributes slug.attributes = .ok settings ↔
        ofEntries slug.allEntries = .ok settings := by
  have accepted : Accepted slug.allEntries := by
    constructor
    · exact List.forall_mem_cons.mpr ⟨.readonly, List.forall_mem_cons.mpr
        ⟨.rename rfl, List.forall_mem_singleton.mpr .readonly⟩⟩
    · exact List.forall_mem_nil _
  exact ⟨rfl, rfl, (ofAttributes_several rfl).2.1.mpr fun _ => ⟨accepted, rfl⟩⟩

/-- A field that asks to be skipped in its second attribute. -/
def pin : FieldItem :=
  ⟨"pin", .named ["String"], .everywhere,
    [⟨["search"], .entries [.flag ["readonly"]]⟩, ⟨["search"], .entries [.flag ["skip"]]⟩]⟩

/-- It is not skipped, as it would be by one attribute with both entries. -/
theorem ofAttributes_pin :
    pin.allEntries = [.flag ["readonly"], .flag ["skip"]] ∧
      ofAttributes pin.attributes = .ok ⟨none, false, true, none⟩ ∧
      ofEntries pin.allEntries = .ok ⟨none, true, true, none⟩ :=
  ⟨rfl, rfl, rfl⟩

end Settings

end RecordSearch.Derive
