import RecordSearch.Proofs.Derive.Settings

/-!
# Which entries are accepted

An attribute is accepted if each of its entries says something, and if no kind is named by a word
where another kind is named before. An assignment of a kind is not held against what stands before
it: it replaces the kind.

## Main result

`ofEntries_eq_ok_iff`: which lists of entries are accepted, and the settings that they make.
-/
namespace RecordSearch.Derive

/-- Whether an entry says something. -/
inductive Entry.IsSound : Entry → Prop
  | skip : IsSound (.flag ["skip"])
  | readonly : IsSound (.flag ["readonly"])
  | word {name : String} {kind : Kind} (known : Kind.ofName? name = some kind) :
      IsSound (.flag [name])
  | kind {value : Assigned} {text : String} {kind : Kind} (isText : value.text? = some text)
      (known : Kind.ofName? text = some kind) : IsSound (.assign ["ty"] value)
  | rename {value : Assigned} {text : String} (isText : value.text? = some text) :
      IsSound (.assign ["rename"] value)

def Entry.isFlag : Entry → Bool
  | flag _ => true
  | _ => false

/-- Whether an entry names a kind. -/
def Entry.namesKind (entry : Entry) : Bool := entry.kind?.isSome

/-- The entries that name a kind. -/
def kindEntries (entries : List Entry) : List Entry := entries.filter Entry.namesKind

/-- The entries that name a kind again, given whether one is named before all of them. -/
def repeatedKinds (known : Bool) (entries : List Entry) : List Entry :=
  if known then kindEntries entries else (kindEntries entries).tail

theorem repeatedKinds_cons (known : Bool) (entry : Entry) (rest : List Entry) :
    repeatedKinds known (entry :: rest) =
      (if known && entry.namesKind then [entry] else []) ++
        repeatedKinds (known || entry.namesKind) rest := by
  cases known <;> cases names : entry.namesKind <;> simp [repeatedKinds, kindEntries, names]

/-! ### Form -/

theorem Assigned.hasAttribute_of_text? {value : Assigned} {text : String}
    (isText : value.text? = some text) : value.hasAttribute = false := by
  cases value with
  | text value => rfl
  | expression written =>
    -- A literal begins with a quote or the mark of a raw one, an attribute with neither.
    rw [text?, Literal.string?] at isText
    rw [hasAttribute]
    split
    next rest token =>
      rw [token] at isText
      cases isText
    next rest token =>
      rw [token] at isText
      cases isText
    next => rfl

theorem Kind.ofName?_of_reserved :
    ∀ word ∈ Settings.reservedWords, Kind.ofName? word = none := by decide

namespace Settings

theorem checkPath_singleton {name : String} (free : name ∉ reservedWords) :
    checkPath [name] = .ok () := by
  have other : name ≠ "unsafe" := by
    rintro rfl
    exact free (by decide)
  unfold checkPath
  split
  next => rfl
  next rest whole => exact absurd (List.cons.inj whole).1 other
  next first rest noUnsafe whole =>
    obtain ⟨rfl, rfl⟩ := List.cons.inj whole
    rw [if_neg free]
    rfl

variable {settings next : Settings} {entry : Entry} {entries : List Entry}

theorem checkForm_of_checkPath (path : checkPath entry.path = .ok ())
    (plain : entry.hasAttribute = false) : checkForm entry = .ok () := by
  rw [checkForm, path, ok_bind, plain]
  rfl

/-- What says something is well formed. -/
theorem checkForm_of_isSound (sound : entry.IsSound) : checkForm entry = .ok () := by
  cases sound with
  | skip => exact checkForm_of_checkPath rfl rfl
  | readonly => exact checkForm_of_checkPath rfl rfl
  | @word name kind known =>
    refine checkForm_of_checkPath (checkPath_singleton fun reserved => ?_) rfl
    rw [Kind.ofName?_of_reserved name reserved] at known
    cases known
  | kind isText known => exact checkForm_of_checkPath rfl (Assigned.hasAttribute_of_text? isText)
  | rename isText => exact checkForm_of_checkPath rfl (Assigned.hasAttribute_of_text? isText)

/-! ### Sense -/

theorem setKind_eq_ok {name : String} {kind : Kind} (known : Kind.ofName? name = some kind) :
    settings.setKind name = .ok { settings with kind := some kind } := by
  rw [setKind, known]

theorem addFlag_of_ofName? {name : String} {kind : Kind} (known : Kind.ofName? name = some kind)
    (unset : settings.kind = none) :
    settings.addFlag [name] = .ok { settings with kind := some kind } := by
  obtain ⟨skip, readonly⟩ := ne_of_ofName? known
  rw [addFlag.eq_3 _ _ skip readonly, unset, if_neg (by simp), setKind_eq_ok known]

/-- What says something is taken, unless a word names a kind where one was named before. -/
theorem exists_add (sound : entry.IsSound)
    (first : entry.isFlag = true → entry.namesKind = true → settings.kind = none) :
    ∃ next, settings.add entry = .ok next := by
  cases sound with
  | skip => exact ⟨_, rfl⟩
  | readonly => exact ⟨_, rfl⟩
  | word known =>
    have names : (Entry.flag [_]).namesKind = true := Option.isSome_of_eq_some known
    exact ⟨_, addFlag_of_ofName? known (first rfl names)⟩
  | kind isText known =>
    rw [add, isText]
    exact ⟨_, setKind_eq_ok known⟩
  | rename isText =>
    rw [add, isText]
    exact ⟨_, rfl⟩

theorem isSound_of_addFlag {path : List String} (added : settings.addFlag path = .ok next) :
    (Entry.flag path).IsSound ∧ ((Entry.flag path).namesKind = true → settings.kind = none) := by
  rcases addFlag_cases added with ⟨rfl, -⟩ | ⟨rfl, -⟩ | ⟨name, kind, rfl, known, first, -⟩
  · exact ⟨.skip, fun names => (by cases names)⟩
  · exact ⟨.readonly, fun names => (by cases names)⟩
  · exact ⟨.word known, fun _ => first⟩

theorem isSound_of_assign {path : List String} {value : Assigned} {text : String}
    (isText : value.text? = some text) (added : settings.assign path text = .ok next) :
    (Entry.assign path value).IsSound := by
  rcases assign_cases added with ⟨rfl, -⟩ | ⟨kind, rfl, known, -⟩
  · exact .rename isText
  · exact .kind isText known

/-- An entry is taken exactly if it says something and, where a kind was named before, is no word of
a kind. -/
theorem exists_add_iff : (∃ next, settings.add entry = .ok next) ↔
    entry.IsSound ∧ (entry.isFlag = true → entry.namesKind = true → settings.kind = none) := by
  constructor
  · rintro ⟨next, added⟩
    cases entry with
    | flag path =>
      obtain ⟨sound, first⟩ := isSound_of_addFlag added
      exact ⟨sound, fun _ => first⟩
    | assign path value =>
      rw [add] at added
      split at added
      next text isText => exact ⟨isSound_of_assign isText added, fun flag => (by cases flag)⟩
      next => cases added
    | call path => cases added
  · rintro ⟨sound, first⟩
    exact exists_add sound first

/-! ### Lists of entries -/

theorem isSome_kind_of_add (added : settings.add entry = .ok next) :
    next.kind.isSome = (settings.kind.isSome || entry.namesKind) := by
  rw [eq_told_of_add added, laidOver_told_singleton, Option.isSome_or, Bool.or_comm,
    Entry.namesKind]

theorem exists_foldlM_add_cons : (∃ next, (entry :: entries).foldlM add settings = .ok next) ↔
    ∃ middle, settings.add entry = .ok middle ∧ ∃ next, entries.foldlM add middle = .ok next := by
  simp only [List.foldlM_cons, bind_eq_ok_iff]
  constructor
  · rintro ⟨next, middle, first, others⟩
    exact ⟨middle, first, next, others⟩
  · rintro ⟨middle, first, next, others⟩
    exact ⟨next, middle, first, others⟩

/-- Entries are taken one by one if each says something and none that names a kind again is a
word. -/
theorem exists_foldlM_add_iff : (∃ next, entries.foldlM add settings = .ok next) ↔
    (∀ entry ∈ entries, entry.IsSound) ∧
      ∀ again ∈ repeatedKinds settings.kind.isSome entries, again.isFlag = false := by
  induction entries generalizing settings with
  | nil =>
    have none : repeatedKinds settings.kind.isSome [] = [] := by simp [repeatedKinds, kindEntries]
    simp [none]
  | cons entry rest ih =>
    -- The entry counts as one that is named before the rest, if it names a kind.
    have head : (entry.isFlag = true → entry.namesKind = true → settings.kind = none) ↔
        ∀ again ∈ if settings.kind.isSome && entry.namesKind then [entry] else [],
          again.isFlag = false := by
      cases settings.kind <;> cases entry.namesKind <;> simp
    rw [exists_foldlM_add_cons, repeatedKinds_cons, List.forall_mem_append, List.forall_mem_cons,
      ← head]
    constructor
    · rintro ⟨middle, added, others⟩
      obtain ⟨sound, first⟩ := exists_add_iff.mp ⟨middle, added⟩
      obtain ⟨soundRest, again⟩ := ih.mp others
      rw [isSome_kind_of_add added] at again
      exact ⟨⟨sound, soundRest⟩, first, again⟩
    · rintro ⟨⟨sound, soundRest⟩, first, again⟩
      obtain ⟨middle, added⟩ := exists_add_iff.mpr ⟨sound, first⟩
      rw [← isSome_kind_of_add added] at again
      exact ⟨middle, added, ih.mpr ⟨soundRest, again⟩⟩

/-- Whether a list of entries can be accepted: each says something, and none but the first that
names a kind is a word of one. -/
structure Accepted (entries : List Entry) : Prop where
  sound : ∀ entry ∈ entries, entry.IsSound
  again : ∀ again ∈ (kindEntries entries).tail, again.isFlag = false

theorem forM_checkForm (sound : ∀ entry ∈ entries, entry.IsSound) :
    entries.forM checkForm = .ok () := by
  induction entries with
  | nil => rfl
  | cons entry rest ih =>
    obtain ⟨first, others⟩ := List.forall_mem_cons.mp sound
    rw [List.forM, checkForm_of_isSound first, ok_bind, ih others]

/-- The entries of an attribute make settings exactly if they can be accepted, namely those that
they tell as a whole. -/
theorem ofEntries_eq_ok_iff :
    ofEntries entries = .ok settings ↔ Accepted entries ∧ settings = told entries := by
  constructor
  · intro made
    obtain ⟨-, -, taken⟩ := bind_eq_ok_iff.mp made
    obtain ⟨sound, again⟩ := exists_foldlM_add_iff.mp ⟨settings, taken⟩
    exact ⟨⟨sound, again⟩, eq_told_of_ofEntries made⟩
  · rintro ⟨accepted, rfl⟩
    -- Nothing is named before the first entry.
    obtain ⟨settings, taken⟩ : ∃ settings, entries.foldlM add default = .ok settings :=
      exists_foldlM_add_iff.mpr ⟨accepted.sound, accepted.again⟩
    have made : ofEntries entries = .ok settings := by
      rw [ofEntries, forM_checkForm accepted.sound, ok_bind, taken]
    rw [made, ← eq_told_of_ofEntries made]

/-- Whether a list of entries is reported to be at fault. -/
def IsRefused (entries : List Entry) : Prop := ∃ e, ofEntries entries = .error e

theorem isRefused_iff : IsRefused entries ↔ ¬ Accepted entries := by
  rw [IsRefused]
  cases made : ofEntries entries with
  | error e =>
    simp only [Except.error.injEq, exists_eq', true_iff]
    intro accepted
    cases made.symm.trans (ofEntries_eq_ok_iff.mpr ⟨accepted, rfl⟩)
  | ok settings => simp [(ofEntries_eq_ok_iff.mp made).1]

theorem not_accepted_iff : ¬ Accepted entries ↔
    (∃ entry ∈ entries, ¬ entry.IsSound) ∨
      ∃ again ∈ (kindEntries entries).tail, again.isFlag = true := by
  constructor
  · intro refused
    by_contra faultless
    obtain ⟨noMistake, noWord⟩ := not_or.mp faultless
    refine refused ⟨by simpa using noMistake, fun again inside => ?_⟩
    exact Bool.eq_false_iff.mpr fun flag => noWord ⟨again, inside, flag⟩
  · rintro (⟨entry, inside, mistake⟩ | ⟨again, inside, flag⟩) accepted
    · exact mistake (accepted.sound entry inside)
    · cases flag.symm.trans (accepted.again again inside)

end Settings

end RecordSearch.Derive
