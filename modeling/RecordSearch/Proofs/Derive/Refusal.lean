import RecordSearch.Proofs.Derive.Acceptance
import RecordSearch.Proofs.Derive.Fields

/-!
# Why nothing is derived

What is refused is refused for the first reason that there is: parameters, then the shape, then the
first field at fault, and of this one its attribute before its type.

## Main result

`derive_refusal`: the exact reasons, and that there is none but these where every member that is
reached has a name for its constant.
-/
namespace RecordSearch.Derive

/-- Whether what stands behind the path of an attribute is accepted. -/
inductive Arguments.IsAccepted : Arguments → Prop
  | entries {entries : List Entry} (accepted : Settings.Accepted entries) :
      IsAccepted (.entries entries)

/-- Whether the first attribute of a field for the derivation is not accepted. -/
def FieldItem.HasBadAttribute (field : FieldItem) : Prop :=
  ∃ a, field.attributes.find? Attribute.isSearch = some a ∧ ¬ a.arguments.IsAccepted

/-- Whether nothing can be derived of an item for a reason that is the first of all. -/
inductive Item.IsRefusedFor (item : Item) : DeriveError → Prop
  | hasParameters (given : Trivia.isTrivia item.parameters = false) :
      IsRefusedFor item .hasParameters
  | noNamedFields (plain : Trivia.isTrivia item.parameters = true)
      (shape : item.body = .positional ∨ item.body = .unit) : IsRefusedFor item .noNamedFields
  | noStruct (plain : Trivia.isTrivia item.parameters = true)
      (shape : item.body = .enumeration ∨ item.body = .union) : IsRefusedFor item .noStruct
  | field (plain : Trivia.isTrivia item.parameters = true) {before after : List FieldItem}
      {field : FieldItem} (shape : item.body = .fields (before ++ field :: after))
      (first : ∀ earlier ∈ before, ∀ e, ¬ earlier.HasFault e) {e : DeriveError}
      (fault : field.HasFault e) : IsRefusedFor item e

/-! ### Attributes -/

namespace Settings

theorem exists_ofArguments_iff {arguments : Arguments} :
    (∃ e, ofArguments arguments = .error e) ↔ ¬ arguments.IsAccepted := by
  cases arguments with
  | absent => exact iff_of_true ⟨_, rfl⟩ nofun
  | assigned => exact iff_of_true ⟨_, rfl⟩ nofun
  | entries entries =>
    have accepted : (Arguments.entries entries).IsAccepted ↔ Accepted entries :=
      ⟨fun ⟨accepted⟩ => accepted, .entries⟩
    rw [accepted, ← isRefused_iff]
    exact Iff.rfl

end Settings

theorem FieldItem.hasBadAttribute_iff {field : FieldItem} :
    field.HasBadAttribute ↔ ∃ e, field.HasFault (.badAttribute e) := by
  have refused : (∃ e, field.HasFault (.badAttribute e)) ↔
      ∃ e, Settings.ofAttributes field.attributes = .error e :=
    ⟨fun ⟨e, .badAttribute refused⟩ => ⟨e, refused⟩, fun ⟨e, refused⟩ => ⟨e, .badAttribute refused⟩⟩
  rw [refused, HasBadAttribute, Settings.ofAttributes]
  cases field.attributes.find? Attribute.isSearch with
  | none => simp
  | some a => simp [Settings.exists_ofArguments_iff]

/-! ### Items -/

variable {item : Item} {fields : List FieldItem} {e : DeriveError}

/-- A field that has no fault adds something. -/
theorem FieldItem.exists_adds_iff {field : FieldItem} :
    (∃ d, field.Adds d) ↔ ∀ e, ¬ field.HasFault e := by
  constructor
  · rintro ⟨d, adds⟩ e fault
    cases (Derivation.ofField_of_adds adds).symm.trans (Derivation.ofField_of_hasFault fault)
  · intro faultless
    exact (Derivation.adds_or_hasFault field).resolve_right fun ⟨e, fault⟩ => faultless e fault

theorem derive_eq_error_iff : derive item = .error e ↔ item.IsRefusedFor e := by
  constructor
  · intro refused
    cases plain : Trivia.isTrivia item.parameters with
    | false =>
      rw [derive, plain, if_neg Bool.false_ne_true] at refused
      cases refused
      exact .hasParameters plain
    | true =>
      rw [derive, if_pos plain] at refused
      cases shape : item.body with
      | fields fields =>
        rw [shape] at refused
        obtain ⟨before, field, after, rfl, earlier, fault⟩ :=
          Derivation.ofFields_eq_error_iff.mp refused
        exact .field plain shape (fun f inside => FieldItem.exists_adds_iff.mp (earlier f inside))
          fault
      | positional | unit =>
        rw [shape] at refused
        cases refused
        exact .noNamedFields plain (by simp [shape])
      | enumeration | union =>
        rw [shape] at refused
        cases refused
        exact .noStruct plain (by simp [shape])
  · rintro (given | ⟨plain, shape⟩ | ⟨plain, shape⟩ | ⟨plain, shape, first, fault⟩)
    · rw [derive, given, if_neg Bool.false_ne_true]
    · rw [derive, if_pos plain]
      rcases shape with shape | shape <;> rw [shape]
    · rw [derive, if_pos plain]
      rcases shape with shape | shape <;> rw [shape]
    · rw [derive_of_fields plain shape, Derivation.ofFields_eq_error_iff]
      exact ⟨_, _, _, rfl, fun f inside => FieldItem.exists_adds_iff.mpr (first f inside), fault⟩

/-- A field at fault is enough for nothing to be derived. -/
theorem exists_error_of_hasFault (shape : item.body = .fields fields) {field : FieldItem}
    (inside : field ∈ fields) (fault : field.HasFault e) : ∃ e', derive item = .error e' := by
  cases derived : derive item with
  | error e' => exact ⟨e', rfl⟩
  | ok d =>
    obtain ⟨-, listed, shape', made⟩ := derive_eq_ok_iff.mp derived
    obtain rfl : fields = listed := Body.fields.inj (shape.symm.trans shape')
    obtain ⟨parts, adds, -⟩ := Derivation.ofFields_eq_ok_iff.mp made
    obtain ⟨part, -, added⟩ := exists_of_mem_left adds inside
    exact absurd fault (FieldItem.exists_adds_iff.mp ⟨part, added⟩ e)

/-- **Refusal.** Nothing is derived exactly for the first reason that there is: parameters, the
shape, or the first field at fault, whose attribute comes before its type. Unless the reason is a name
that no constant can have, nothing is derived exactly of an item with parameters, of one that is no
struct with named fields, and of one with a field whose attribute is not accepted or whose type, where
it has to, says nothing. -/
theorem derive_refusal (item : Item) :
    (∀ e, derive item = .error e ↔ item.IsRefusedFor e) ∧
      ((∀ constant, derive item ≠ .error (.invalidConstant constant)) →
        ((∃ e, derive item = .error e) ↔
          Trivia.isTrivia item.parameters = false ∨ (∀ fields, item.body ≠ .fields fields) ∨
            ∃ fields, item.body = .fields fields ∧
              ∃ field ∈ fields, field.HasBadAttribute ∨ field.HasFault .noKind)) := by
  refine ⟨fun e => derive_eq_error_iff, fun named => ⟨?_, ?_⟩⟩
  · rintro ⟨e, refused⟩
    cases derive_eq_error_iff.mp refused with
    | hasParameters given => exact Or.inl given
    | noNamedFields plain shape => exact Or.inr (Or.inl (by rcases shape with s | s <;> simp [s]))
    | noStruct plain shape => exact Or.inr (Or.inl (by rcases shape with s | s <;> simp [s]))
    | @field _ before after field shape first e fault =>
      have inside : field ∈ before ++ field :: after := by simp
      refine Or.inr (Or.inr ⟨_, shape, field, inside, ?_⟩)
      cases fault with
      | badAttribute read => exact Or.inl (FieldItem.hasBadAttribute_iff.mpr ⟨_, .badAttribute read⟩)
      | noKind made kept implicit member untold =>
        exact Or.inr (.noKind made kept implicit member untold)
      | invalidConstant => exact absurd refused (named _)
  · -- Which reason it is does not carry over: another one may come first.
    rintro (given | shapeless | ⟨fields, shape, field, inside, bad | untold⟩)
    · exact ⟨_, derive_eq_error_iff.mpr (.hasParameters given)⟩
    · cases derived : derive item with
      | error e => exact ⟨e, rfl⟩
      | ok d =>
        obtain ⟨-, fields, shape, -⟩ := derive_eq_ok_iff.mp derived
        exact absurd shape (shapeless fields)
    · obtain ⟨e, fault⟩ := FieldItem.hasBadAttribute_iff.mp bad
      exact exists_error_of_hasFault shape inside fault
    · exact exists_error_of_hasFault shape inside untold

/-- An optional pair and, behind it, a field with an unknown kind. -/
def ledger : Item :=
  ⟨"Ledger", "", .fields
    [⟨"title", .named ["String"], .everywhere, []⟩,
      ⟨"pair", .applied ["Option"] (.type (.group (.tuple (.type (.named ["u8"]) .nil))) .nil),
        .everywhere, []⟩,
      ⟨"closed", .named ["u64"], .everywhere, [⟨["search"], .entries [.flag ["Timestamp"]]⟩]⟩]⟩

set_option maxRecDepth 8192 in
/-- It is refused for the type of the pair. -/
theorem derive_refusal_ledger :
    derive ledger = .error .noKind ∧ ledger.IsRefusedFor .noKind ∧
      ∃ fields, ledger.body = .fields fields ∧
        ∃ field ∈ fields, field.HasBadAttribute ∨ field.HasFault .noKind := by
  have plain : Trivia.isTrivia ledger.parameters = true := by decide +kernel
  have refused : derive ledger = .error .noKind := by
    rw [derive, if_pos plain]
    rfl
  have named : ∀ constant, derive ledger ≠ .error (.invalidConstant constant) := by
    intro constant other
    cases refused.symm.trans other
  refine ⟨refused, ((derive_refusal ledger).1 _).mp refused, ?_⟩
  rcases ((derive_refusal ledger).2 named).mp ⟨_, refused⟩ with given | shapeless | faulty
  · cases plain.symm.trans given
  · exact absurd rfl (shapeless _)
  · exact faulty

end RecordSearch.Derive
