import RecordSearch.Derive.Settings
import RecordSearch.Proofs.Outcome

/-!
# What the entries of an attribute settle

The settings of a field are gathered entry by entry. Read as a whole, the entries of an attribute
that makes sense say which kind and which name come last, and whether a flag is among them.

## Main result

`eq_told_of_ofAttributes`: the settings of a field are what the entries of its attribute say.
-/
namespace RecordSearch.Derive

/-- The kind that an entry names, by a word of its own or as the text of `ty`. -/
def Entry.kind? : Entry → Option Kind
  | flag [name] => Kind.ofName? name
  | assign ["ty"] value => value.text?.bind Kind.ofName?
  | _ => none

/-- The name that an entry gives to the member. -/
def Entry.rename? : Entry → Option String
  | assign ["rename"] value => value.text?
  | _ => none

/-- The entries that speak for a field: those of its first attribute for the derivation. -/
def FieldItem.entries (field : FieldItem) : List Entry :=
  match field.attributes.find? Attribute.isSearch with
  | some ⟨_, .entries entries⟩ => entries
  | _ => []

namespace Settings

/-- What entries say as a whole. A later kind or name replaces an earlier one. -/
def told (entries : List Entry) : Settings where
  kind := (entries.filterMap Entry.kind?).getLast?
  skip := entries.contains (.flag ["skip"])
  readonly := entries.contains (.flag ["readonly"])
  rename := (entries.filterMap Entry.rename?).getLast?

/-- Settings that are laid over others: each replaces what it says something about. -/
def laidOver (later earlier : Settings) : Settings where
  kind := later.kind.or earlier.kind
  skip := later.skip || earlier.skip
  readonly := later.readonly || earlier.readonly
  rename := later.rename.or earlier.rename

@[simp]
theorem laidOver_default (settings : Settings) : settings.laidOver default = settings := by
  simp [laidOver, default]

theorem told_append (first second : List Entry) :
    told (first ++ second) = (told second).laidOver (told first) := by
  simp [told, laidOver, List.filterMap_append, List.getLast?_append, Bool.or_comm]

theorem laidOver_assoc (a b c : Settings) :
    (a.laidOver b).laidOver c = a.laidOver (b.laidOver c) := by
  simp [laidOver, Bool.or_assoc, Option.or_assoc]

variable {settings next : Settings} {entry : Entry} {entries : List Entry}

theorem laidOver_told_singleton : (told [entry]).laidOver settings =
    ⟨entry.kind?.or settings.kind, decide (entry = .flag ["skip"]) || settings.skip,
      decide (entry = .flag ["readonly"]) || settings.readonly,
      entry.rename?.or settings.rename⟩ := by
  have last {α : Type} (f : Entry → Option α) : ([entry].filterMap f).getLast? = f entry := by
    cases said : f entry <;> simp [said]
  simp [told, laidOver, last, eq_comm]

theorem eq_of_setKind {name : String} (added : settings.setKind name = .ok next) :
    ∃ kind, Kind.ofName? name = some kind ∧ next = { settings with kind := some kind } := by
  rw [setKind] at added
  split at added
  next kind known => exact ⟨kind, known, (Except.ok.inj added).symm⟩
  next => cases added

/-- The name of a kind is no flag. -/
theorem ne_of_ofName? {name : String} {kind : Kind} (known : Kind.ofName? name = some kind) :
    name ≠ "skip" ∧ name ≠ "readonly" := by
  constructor <;> rintro rfl <;> cases known

/-- What taking a flag can do. -/
theorem addFlag_cases {path : List String} (added : settings.addFlag path = .ok next) :
    path = ["skip"] ∧ next = { settings with skip := true } ∨
      path = ["readonly"] ∧ next = { settings with readonly := true } ∨
        ∃ name kind, path = [name] ∧ Kind.ofName? name = some kind ∧ settings.kind = none ∧
          next = { settings with kind := some kind } := by
  fun_cases addFlag settings path with
  | case1 =>
    cases added
    exact Or.inl ⟨rfl, rfl⟩
  | case2 =>
    cases added
    exact Or.inr (Or.inl ⟨rfl, rfl⟩)
  | case3 name skip readonly given => simp_all [addFlag]
  | case4 name skip readonly unset =>
    rw [addFlag.eq_3 _ _ skip readonly, if_neg unset] at added
    obtain ⟨kind, known, rfl⟩ := eq_of_setKind added
    have first : settings.kind = none := Option.not_isSome_iff_eq_none.mp unset
    exact Or.inr (Or.inr ⟨name, kind, rfl, known, first, rfl⟩)
  | case5 path skip readonly single => simp_all [addFlag]

/-- What taking an assignment can do. -/
theorem assign_cases {path : List String} {text : String}
    (added : settings.assign path text = .ok next) :
    path = ["rename"] ∧ next = { settings with rename := some text } ∨
      ∃ kind, path = ["ty"] ∧ Kind.ofName? text = some kind ∧
        next = { settings with kind := some kind } := by
  fun_cases assign settings path text with
  | case1 rename =>
    rw [assign, if_pos rename] at added
    exact Or.inl ⟨rename, (Except.ok.inj added).symm⟩
  | case2 rename ty =>
    rw [assign, if_neg rename, if_pos ty] at added
    obtain ⟨kind, known, rfl⟩ := eq_of_setKind added
    exact Or.inr ⟨kind, ty, known, rfl⟩
  | case3 rename ty =>
    rw [assign, if_neg rename, if_neg ty] at added
    cases added

theorem eq_told_of_addFlag {path : List String} (added : settings.addFlag path = .ok next) :
    next = (told [.flag path]).laidOver settings := by
  rw [laidOver_told_singleton]
  rcases addFlag_cases added with ⟨rfl, rfl⟩ | ⟨rfl, rfl⟩ | ⟨name, kind, rfl, known, -, rfl⟩
  · rfl
  · rfl
  · obtain ⟨skip, readonly⟩ := ne_of_ofName? known
    simp [Entry.kind?, Entry.rename?, known, skip, readonly]

theorem eq_told_of_assign {path : List String} {value : Assigned} {text : String}
    (assigned : value.text? = some text) (added : settings.assign path text = .ok next) :
    next = (told [.assign path value]).laidOver settings := by
  rw [laidOver_told_singleton]
  rcases assign_cases added with ⟨rfl, rfl⟩ | ⟨kind, rfl, known, rfl⟩
  · simp [Entry.kind?, Entry.rename?, assigned]
  · simp [Entry.kind?, Entry.rename?, assigned, known]

/-- Taking an entry lays what it says over what was said before. -/
theorem eq_told_of_add (added : settings.add entry = .ok next) :
    next = (told [entry]).laidOver settings := by
  cases entry with
  | flag path => exact eq_told_of_addFlag added
  | assign path value =>
    rw [add] at added
    split at added
    next text assigned => exact eq_told_of_assign assigned added
    next => cases added
  | call path => cases added

/-- So does taking a list of entries. -/
theorem eq_told_of_foldlM_add (added : entries.foldlM add settings = .ok next) :
    next = (told entries).laidOver settings := by
  induction entries generalizing settings with
  | nil =>
    cases added
    simp [told, laidOver]
  | cons entry rest ih =>
    obtain ⟨middle, first, others⟩ := bind_eq_ok_iff.mp added
    -- What the rest says lies over what the first entry says, as in the list as a whole.
    rw [ih others, eq_told_of_add first, ← laidOver_assoc, ← told_append, List.singleton_append]

theorem eq_told_of_ofEntries (made : ofEntries entries = .ok settings) :
    settings = told entries := by
  obtain ⟨-, -, taken⟩ := bind_eq_ok_iff.mp made
  rw [eq_told_of_foldlM_add taken, laidOver_default]

theorem eq_told_of_ofAttributes {field : FieldItem}
    (parsed : ofAttributes field.attributes = .ok settings) : settings = told field.entries := by
  rw [FieldItem.entries]
  rw [ofAttributes] at parsed
  cases first : field.attributes.find? Attribute.isSearch with
  | none =>
    rw [first] at parsed
    cases parsed
    rfl
  | some found =>
    obtain ⟨path, arguments⟩ := found
    rw [first] at parsed
    cases arguments with
    | absent => cases parsed
    | assigned => cases parsed
    | entries entries => exact eq_told_of_ofEntries parsed

end Settings

end RecordSearch.Derive
