import RecordSearch.Proofs.Derive.Fields

/-!
# Skipped fields

A field that asks to be skipped might as well not be there: neither its type nor its name nor anything
else in its attribute can be at fault or show. Every other field adds what it would add alone.

## Main result

`derive_skipping`: leaving skipped fields out of a struct changes nothing, what is derived is gathered
field by field, and the fields of two structs in a row yield what they yield apart.
-/
namespace RecordSearch.Derive

namespace FieldItem

/-- Whether a field has an attribute that is accepted and asks to skip it. -/
def asksSkip (field : FieldItem) : Bool :=
  match Settings.ofAttributes field.attributes with
  | .ok settings => settings.skip
  | .error _ => false

/-- What a field adds, if it is not refused. -/
def added (field : FieldItem) : Derivation :=
  match Derivation.ofField field with
  | .ok d => d
  | .error _ => .empty

variable {field : FieldItem} {d : Derivation}

theorem asksSkip_of_made {settings : Settings}
    (made : Settings.ofAttributes field.attributes = .ok settings) :
    field.asksSkip = settings.skip := by
  rw [asksSkip, made]

theorem adds_of_asksSkip (asks : field.asksSkip = true) : field.Adds .empty := by
  cases made : Settings.ofAttributes field.attributes with
  | ok settings => exact .skipped made ((asksSkip_of_made made).symm.trans asks)
  | error e =>
    rw [asksSkip, made] at asks
    cases asks

theorem Adds.added_eq (adds : field.Adds d) : field.added = d := by
  rw [added, Derivation.ofField_of_adds adds]

theorem Adds.eq_empty_of_asksSkip (adds : field.Adds d) (asks : field.asksSkip = true) :
    d = .empty :=
  adds.added_eq.symm.trans (adds_of_asksSkip asks).added_eq

/-- A field that does not ask to be skipped adds a member. -/
theorem Adds.exists_ofKind (adds : field.Adds d) (kept : field.asksSkip = false) :
    ∃ settings kind, d = .ofKind field settings kind := by
  cases adds with
  | skipped made skip =>
    rw [asksSkip_of_made made, skip] at kept
    cases kept
  | member => exact ⟨_, _, rfl⟩

end FieldItem

/-- The fields that do not ask to be skipped. -/
def remaining (fields : List FieldItem) : List FieldItem :=
  fields.filter fun field => !field.asksSkip

namespace Derivation

variable {fields : List FieldItem} {keeps : FieldItem → Bool}

/-- Nothing is lost with fields that ask to be skipped. -/
theorem ofFields_filter (leaves : ∀ field ∈ fields, keeps field = false → field.asksSkip = true) :
    ofFields (fields.filter keeps) = ofFields fields := by
  induction fields with
  | nil => rfl
  | cons field rest ih =>
    obtain ⟨first, others⟩ := List.forall_mem_cons.mp leaves
    cases kept : keeps field with
    | true => rw [List.filter_cons_of_pos kept, ofFields, ofFields, ih others]
    | false =>
      have nothing : ofField field = .ok empty :=
        ofField_of_adds (FieldItem.adds_of_asksSkip (first kept))
      -- Neither a result nor an error can come of the field that is left out.
      rw [List.filter_cons_of_neg (Bool.eq_false_iff.mp kept), ih others, ofFields, nothing, ok_bind]
      simp only [empty_append, pure_eq_ok, bind_ok]

/-- What is derived is what the remaining fields add, each by itself. -/
theorem joined_added {parts : List Derivation} (adds : List.Forall₂ FieldItem.Adds fields parts) :
    joined ((remaining fields).map FieldItem.added) = joined parts := by
  -- On the fields along with what they add: a skipped one is missing on the left and adds nothing on
  -- the right.
  induction adds with
  | nil => rfl
  | @cons field part fields parts first _ ih =>
    have step : joined (part :: parts) = part ++ joined parts := rfl
    cases asks : field.asksSkip with
    | true =>
      have left : remaining (field :: fields) = remaining fields :=
        List.filter_cons_of_neg (by simp [asks])
      rw [left, ih, step, first.eq_empty_of_asksSkip asks, empty_append]
    | false =>
      have kept : remaining (field :: fields) = field :: remaining fields :=
        List.filter_cons_of_pos (by simp [asks])
      rw [kept, step, ← ih, ← first.added_eq]
      rfl

end Derivation

/-- **Skipping.** To leave out any fields that ask to be skipped changes neither what is derived of a
struct nor why nothing is. What is derived is what the remaining fields add in their order, a member
each, and what a field adds depends on that field alone. So the fields of two structs in a row yield
what those of the first and those of the second yield. -/
theorem derive_skipping (name parameters : String) (fields : List FieldItem) :
    (∀ keeps : FieldItem → Bool,
      (∀ field ∈ fields, keeps field = false → field.asksSkip = true) →
        derive ⟨name, parameters, .fields (fields.filter keeps)⟩ =
          derive ⟨name, parameters, .fields fields⟩) ∧
      (∀ d, derive ⟨name, parameters, .fields fields⟩ = .ok d →
        d = .joined ((remaining fields).map FieldItem.added) ∧
          ∀ field ∈ remaining fields, ∃ settings kind, field.added = .ofKind field settings kind) ∧
      ∀ others, derive ⟨name, parameters, .fields (fields ++ others)⟩ = do
        let before ← derive ⟨name, parameters, .fields fields⟩
        let behind ← derive ⟨name, parameters, .fields others⟩
        return before ++ behind := by
  refine ⟨fun keeps leaves => ?_, fun d derived => ?_, fun others => ?_⟩
  · simp only [derive_struct, Derivation.ofFields_filter leaves]
  · obtain ⟨-, listed, shape, made⟩ := derive_eq_ok_iff.mp derived
    obtain rfl : fields = listed := Body.fields.inj shape
    obtain ⟨parts, adds, rfl⟩ := Derivation.ofFields_eq_ok_iff.mp made
    refine ⟨(Derivation.joined_added adds).symm, fun field inside => ?_⟩
    obtain ⟨listed, kept⟩ := List.mem_filter.mp inside
    obtain ⟨part, -, first⟩ := exists_of_mem_left adds listed
    obtain ⟨settings, kind, isMember⟩ := first.exists_ofKind (by simpa using kept)
    exact ⟨settings, kind, first.added_eq.trans isMember⟩
  · simp only [derive_struct]
    cases Trivia.isTrivia parameters with
    | true => exact Derivation.ofFields_append fields others
    | false => rfl

/-- A skipped field of a type that says nothing, with a name that no constant could have, between two
others. -/
def draftFields : List FieldItem :=
  [⟨"title", .named ["String"], .everywhere, []⟩,
    ⟨"cache", .tuple (.type (.named ["u8"]) .nil), .inherited,
      [⟨["search"], .entries [.assign ["rename"] (.text ""), .flag ["skip"], .flag ["readonly"]]⟩]⟩,
    ⟨"pages", .named ["u16"], .everywhere, []⟩]

set_option maxRecDepth 8192 in
theorem derive_skipping_draft :
    (remaining draftFields).map FieldItem.name = ["title", "pages"] ∧
      derive ⟨"Draft", "", .fields draftFields⟩ =
        derive ⟨"Draft", "", .fields (remaining draftFields)⟩ ∧
      ∃ d, derive ⟨"Draft", "", .fields draftFields⟩ = .ok d ∧
        d.constants = [("TITLE", "title"), ("PAGES", "pages")] := by
  have kept : (remaining draftFields).map FieldItem.name = ["title", "pages"] := by decide
  have skipped := (derive_skipping "Draft" "" draftFields).1 (fun field => !field.asksSkip)
    fun field _ left => by simpa using left
  have plain : Trivia.isTrivia "" = true := by decide +kernel
  refine ⟨kept, skipped.symm, ?_⟩
  rw [derive_of_fields plain rfl]
  exact ⟨_, rfl, rfl⟩

end RecordSearch.Derive
