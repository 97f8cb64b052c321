import RecordSearch.Options.Basic
import RecordSearch.Schema

/-! The members that a search looks at when it is given no fields. -/
namespace RecordSearch

/-- Whether a search of the given mode looks at a member. -/
def Member.isEligible (m : Member) : Mode → Bool
  | .strict => m.isEligibleStrict
  | .all => m.isEligibleAll

/-- The eligible members of a table, in their order. -/
def select (members : List Member) (mode : Mode) : List Member :=
  members.filter fun m => m.isEligible mode

def Schema.selected (schema : Schema) (mode : Mode) : List Member :=
  select schema.rootMembers mode

/-- A search looks at public members that are no collections, and a strict one at no others than
writable strings. -/
theorem Member.isEligible_iff {m : Member} {mode : Mode} : m.isEligible mode = true ↔
    m.isPublic = true ∧ m.ty.isCollection = false ∧
      (mode = .strict → m.isWritable = true ∧ m.ty.isString = true) := by
  cases mode with
  | strict =>
    simp only [isEligible, isEligibleStrict, Bool.and_eq_true, forall_const, and_assoc]
    -- A string is no collection.
    refine and_congr_right fun _ => (and_iff_right_of_imp ?_).symm
    rintro ⟨-, string⟩
    rw [MemberType.isString_iff.mp string]
    rfl
  | all => simp [isEligible, isEligibleAll]

variable {schema : Schema} {m : Member} {mode : Mode}

/-- The selected members of a type are told by where they are declared, by their visibility and
access, and by their type. -/
theorem mem_selected_iff : m ∈ schema.selected mode ↔ m ∈ schema.rootMembers ∧
    m.isPublic = true ∧ m.ty.isCollection = false ∧
      (mode = .strict → m.isWritable = true ∧ m.ty.isString = true) := by
  rw [Schema.selected, select, List.mem_filter, Member.isEligible_iff]

theorem mem_rootMembers_of_selected (selected : m ∈ schema.selected mode) :
    m ∈ schema.rootMembers :=
  (mem_selected_iff.mp selected).1

theorem isString_of_selected (selected : m ∈ schema.selected .strict) : m.ty.isString = true :=
  ((mem_selected_iff.mp selected).2.2.2 rfl).2

theorem isCollection_of_selected (selected : m ∈ schema.selected mode) :
    m.ty.isCollection = false :=
  (mem_selected_iff.mp selected).2.2.1

end RecordSearch
