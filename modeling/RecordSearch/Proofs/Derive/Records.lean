import RecordSearch.Proofs.Derive.Agreement
import RecordSearch.Proofs.Expr.Soundness

/-!
# Derived records

A record of a derived type answers what its accessor reads from its fields. Where no member name is
used twice, every such record keeps to the table that is derived with the accessor.

## Main result

`derive_agreement`: the table and the accessor of whatever is derived are those that the fields have
to have, and records keep to the table.
-/
namespace RecordSearch.Derive

/-! ### What fields hold -/

/-- How a content can be read. A reading that the type of the content does not have is missing, and
what asks for it does not type-check. -/
structure Content where
  string? : Option String
  number? : Option Number
  bool? : Option Bool
  shown? : Option String
  record? : Option Record

/-- The value of a kind that a content is read as. A record shows a text beside its answers. -/
def Content.read? (content : Content) : ValueKind → Option Value
  | .string => content.string?.map .string
  | .number => content.number?.map .number
  | .bool => content.bool?.map .bool
  | .text => content.shown?.map .text
  | .record => do
    let shown ← content.shown?
    let field ← content.record?
    some (.record shown field)

/-- What a field of a record holds. -/
inductive Stored where
  | plain (content : Content)
  | optional (content? : Option Content)

namespace Stored

def isOptional : Stored → Bool
  | plain _ => false
  | optional _ => true

def content? : Stored → Option Content
  | plain content => some content
  | optional content? => content?

end Stored

/-- What a case answers of a field, if it type-checks: only an optional field may be unwrapped, and
it has to be. -/
def Arm.answer? (arm : Arm) (stored : Stored) : Option Value :=
  if arm.isNullable = stored.isOptional then
    match stored.content? with
    | some content => content.read? arm.value
    | none => some .absent
  else none

/-- What the accessor answers for a name: what the first case of the name does, or else nothing. -/
def Derivation.answer? (d : Derivation) (stored : String → Stored) (name : String) : Option Value :=
  match d.arms.find? (fun arm => arm.name == name) with
  | some arm => arm.answer? (stored arm.field)
  | none => some .absent

/-! ### What tables declare -/

/-- The type that an entry declares, given the tables of the types that records refer to. -/
def TableEntry.type? (tables : FieldType → TableId) (entry : TableEntry) : Option MemberType :=
  match entry.kind with
  | .string => some .string
  | .number => some .number
  | .float => some .float
  | .bool => some .bool
  | .text => some .text
  | .record => entry.nested.map fun type => .record (tables type)
  | .collection => some .collection

def TableEntry.member? (tables : FieldType → TableId) (entry : TableEntry) : Option Member :=
  (entry.type? tables).map fun ty =>
    ⟨entry.name, ty, !entry.isPrivate, !entry.isReadonly, entry.isNullable⟩

/-- Whether what a field holds is of the field's type, as far as its entry can tell. -/
structure Stored.Suits (schema : Schema) (tables : FieldType → TableId) (field : FieldItem)
    (entry : TableEntry) (stored : Stored) : Prop where
  isOptional : stored.isOptional = true ↔ ∃ inner, field.type.IsOptionOf inner
  readable : ∀ content, stored.content? = some content → ∀ kind, entry.kind.Answers kind →
    ∃ v, content.read? kind = some v
  /-- A nested record keeps to its own table. -/
  nested : ∀ content, stored.content? = some content → ∀ record, content.record? = some record →
    ∀ type, entry.nested = some type →
      ∀ m ∈ schema.members (tables type), (record m.name).Conforms schema m.ty m.isNullable

section Answers

variable {schema : Schema} {tables : FieldType → TableId} {field : FieldItem} {entry : TableEntry}
  {stored : Stored} {content : Content} {ty : MemberType} {v : Value}

theorem Stored.Suits.conforms (suits : stored.Suits schema tables field entry) {kind : ValueKind}
    (held : stored.content? = some content) (answers : entry.kind.Answers kind)
    (read : content.read? kind = some v) (declared : entry.type? tables = some ty)
    (isNullable : Bool) : v.Conforms schema ty isNullable := by
  rw [TableEntry.type?] at declared
  generalize named : entry.kind = declaredKind at answers declared
  cases answers with
  | string =>
    obtain ⟨s, -, rfl⟩ := Option.map_eq_some_iff.mp read
    cases declared
    exact .string _ s
  | number =>
    obtain ⟨n, -, rfl⟩ := Option.map_eq_some_iff.mp read
    cases declared
    exact .number _ n
  | float =>
    obtain ⟨n, -, rfl⟩ := Option.map_eq_some_iff.mp read
    cases declared
    exact .float _ n
  | bool =>
    obtain ⟨b, -, rfl⟩ := Option.map_eq_some_iff.mp read
    cases declared
    exact .bool _ b
  | text =>
    obtain ⟨shown, -, rfl⟩ := Option.map_eq_some_iff.mp read
    cases declared
    exact .text _ shown
  | record =>
    obtain ⟨shown, -, more⟩ := Option.bind_eq_some_iff.mp read
    obtain ⟨record, nested, whole⟩ := Option.bind_eq_some_iff.mp more
    cases whole
    obtain ⟨type, refers, rfl⟩ := Option.map_eq_some_iff.mp declared
    exact .record _ shown (suits.nested content held record nested type refers)

/-- The case of an entry answers what the entry declares. -/
theorem Arm.Reads.answer {arm : Arm} (reads : arm.Reads field entry) (isOf : entry.IsOf field)
    (suits : stored.Suits schema tables field entry) :
    ∃ v, arm.answer? stored = some v ∧
      ∀ ty, entry.type? tables = some ty → v.Conforms schema ty entry.isNullable := by
  -- The case unwraps the field exactly if the field is optional, so it type-checks.
  have alike : arm.isNullable = stored.isOptional := by
    rw [reads.isNullable, Bool.eq_iff_iff, isOf.isNullable, suits.isOptional]
  rw [Arm.answer?, if_pos alike]
  cases held : stored.content? with
  | some content =>
    obtain ⟨v, read⟩ := suits.readable content held arm.value reads.value
    refine ⟨v, read, fun ty declared => ?_⟩
    exact suits.conforms held reads.value read declared entry.isNullable
  | none =>
    -- Only what is optional can be missing, so the entry allows it.
    have nullable : entry.isNullable = true := by
      rw [← reads.isNullable, alike]
      cases stored with
      | plain content => cases held
      | optional content? => rfl
    refine ⟨.absent, rfl, fun ty _ => ?_⟩
    rw [nullable]
    exact .absent ty

end Answers

namespace Derivation

variable {d : Derivation} {fields : List FieldItem} {schema : Schema} {tables : FieldType → TableId}
  {stored : String → Stored}

/-- Every entry has its field. -/
theorem Agrees.map_snd_zip (agrees : d.Agrees fields) :
    ((searched fields).zip d.table).map Prod.snd = d.table :=
  List.map_snd_zip (Nat.le_of_eq agrees.table.length_eq.symm)

/-- The names of the cases are among those of the entries, in their order. -/
theorem Agrees.names_sublist (agrees : d.Agrees fields) :
    (d.arms.map Arm.name).Sublist (d.table.map TableEntry.name) := by
  have named : d.arms.map Arm.name =
      ((answered fields d.table).map Prod.snd).map TableEntry.name := by
    rw [List.map_map]
    exact (map_eq_of_forall₂ agrees.arms fun _ _ _ reads => reads.name.symm).symm
  rw [named]
  nth_rewrite 2 [← agrees.map_snd_zip]
  exact (List.filter_sublist.map Prod.snd).map TableEntry.name

section

variable (agrees : d.Agrees fields)
  (suits : List.Forall₂ (fun field entry => (stored field.name).Suits schema tables field entry)
    (searched fields) d.table)
include agrees suits

/-- A name whose case is that of an entry is answered with what the entry declares. -/
theorem Agrees.answer_of_find? {field : FieldItem} {entry : TableEntry} {arm : Arm} {name : String}
    (found : d.arms.find? (fun arm => arm.name == name) = some arm)
    (asked : (field, entry) ∈ answered fields d.table) (reads : arm.Reads field entry) :
    ∃ v, d.answer? stored name = some v ∧
      ∀ ty, entry.type? tables = some ty → v.Conforms schema ty entry.isNullable := by
  have paired := (List.mem_filter.mp asked).1
  have answer : d.answer? stored name = arm.answer? (stored field.name) := by
    rw [answer?, found, ← reads.field]
  rw [answer]
  exact reads.answer (List.forall₂_zip agrees.table paired) (List.forall₂_zip suits paired)

/-- Whatever name is asked for, the accessor answers. -/
theorem Agrees.exists_answer (name : String) : ∃ v, d.answer? stored name = some v := by
  cases found : d.arms.find? (fun arm => arm.name == name) with
  | none => exact ⟨.absent, by rw [answer?, found]⟩
  | some arm =>
    obtain ⟨⟨field, entry⟩, asked, reads⟩ :=
      exists_of_mem_right agrees.arms (List.mem_of_find?_eq_some found)
    obtain ⟨v, answered, -⟩ := agrees.answer_of_find? suits found asked reads
    exact ⟨v, answered⟩

variable (distinct : (d.table.map TableEntry.name).Nodup)
include distinct

/-- For the name of an entry it answers what the entry declares. -/
theorem Agrees.answer_of_mem {entry : TableEntry} (inside : entry ∈ d.table) {ty : MemberType}
    (declared : entry.type? tables = some ty) :
    ∃ v, d.answer? stored entry.name = some v ∧ v.Conforms schema ty entry.isNullable := by
  by_cases collection : entry.kind = .collection
  · -- A collection may answer anything.
    obtain rfl : .collection = ty := by simpa [TableEntry.type?, collection] using declared
    obtain ⟨v, answered⟩ := agrees.exists_answer suits entry.name
    exact ⟨v, answered, .collection _ v⟩
  · rw [← agrees.map_snd_zip] at inside
    obtain ⟨⟨field, entry⟩, paired, rfl⟩ := List.mem_map.mp inside
    have asked : (field, entry) ∈ answered fields d.table :=
      List.mem_filter.mpr ⟨paired, decide_eq_true collection⟩
    obtain ⟨arm, given, reads⟩ := exists_of_mem_left agrees.arms asked
    -- No other case has the name, since no other entry has it.
    have found := find?_eq_some_of_nodup (agrees.names_sublist.nodup distinct) given
    rw [reads.name] at found
    obtain ⟨v, answered, conforms⟩ := agrees.answer_of_find? suits found asked reads
    exact ⟨v, answered, conforms ty declared⟩

/-- A record keeps to the table that is derived with its accessor. -/
theorem Agrees.exists_describes
    (declared : d.table.map (TableEntry.member? tables) = schema.rootMembers.map some) :
    ∃ record, (∀ name, d.answer? stored name = some (record name)) ∧ schema.Describes record := by
  choose record answered using agrees.exists_answer suits
  refine ⟨record, answered, fun m inside => ?_⟩
  have listed : some m ∈ d.table.map (TableEntry.member? tables) := by
    rw [declared]
    exact List.mem_map_of_mem inside
  obtain ⟨entry, inTable, isMember⟩ := List.mem_map.mp listed
  obtain ⟨ty, typed, rfl⟩ := Option.map_eq_some_iff.mp isMember
  obtain ⟨v, answered', conforms⟩ := agrees.answer_of_mem suits distinct inTable typed
  obtain rfl : record entry.name = v := Option.some.inj ((answered entry.name).symm.trans answered')
  exact conforms

end

end Derivation

/-- Every entry that is of a field declares a member; if it is a record, it refers to a table. -/
theorem TableEntry.IsOf.exists_member {field : FieldItem} {entry : TableEntry}
    (isOf : entry.IsOf field) (tables : FieldType → TableId) :
    ∃ m, entry.member? tables = some m := by
  obtain ⟨type, -, -, refers⟩ := isOf.kind
  rw [member?, type?]
  cases kind : entry.kind with
  | record =>
    rw [if_pos kind] at refers
    rw [refers]
    exact ⟨_, rfl⟩
  | _ => exact ⟨_, rfl⟩

/-- Only a struct with named fields is derived from, field by field. -/
theorem ofFields_of_derive {item : Item} {d : Derivation} (accepted : derive item = .ok d) :
    ∃ fields, item.body = .fields fields ∧ Derivation.ofFields fields = .ok d := by
  rw [derive] at accepted
  split at accepted
  next =>
    cases body : item.body with
    | fields fields =>
      rw [body] at accepted
      exact ⟨fields, rfl, accepted⟩
    | _ =>
      rw [body] at accepted
      cases accepted
  next => cases accepted

/-- **Agreement.** Of whatever is derived, the table has one entry for each searched field and the
accessor has one case for each entry that is no collection, each made as its field asks. If no two
entries have one name, the accessor answers whatever it is asked, and the record that it makes keeps
to the table. -/
theorem derive_agreement {item : Item} {d : Derivation} (accepted : derive item = .ok d) :
    ∃ fields, item.body = .fields fields ∧
      List.Forall₂ (fun field entry => entry.IsOf field) (searched fields) d.table ∧
      List.Forall₂ (fun read arm => arm.Reads read.1 read.2) (answered fields d.table) d.arms ∧
      (∀ tables, ∀ entry ∈ d.table, ∃ m, entry.member? tables = some m) ∧
      ((d.table.map TableEntry.name).Nodup → ∀ schema tables stored,
        d.table.map (TableEntry.member? tables) = schema.rootMembers.map some →
        List.Forall₂ (fun field entry => (stored field.name).Suits schema tables field entry)
          (searched fields) d.table →
        ∃ record, (∀ name, d.answer? stored name = some (record name)) ∧
          schema.Describes record) := by
  obtain ⟨fields, body, made⟩ := ofFields_of_derive accepted
  have agrees := Derivation.agrees_of_ofFields made
  refine ⟨fields, body, agrees.table, agrees.arms, ?_, ?_⟩
  · intro tables entry inside
    obtain ⟨field, -, isOf⟩ := exists_of_mem_right agrees.table inside
    exact isOf.exists_member tables
  · intro distinct schema tables stored declared suits
    exact agrees.exists_describes suits distinct declared

/-- Fields that are renamed, raw, skipped, private, optional and nested. -/
def profileFields : List FieldItem :=
  [⟨"title", .named ["String"], .everywhere,
      [⟨["search"], .entries [.assign ["rename"] (.text "headline")]⟩]⟩,
    ⟨"r#type", .applied ["std", "option", "Option"] (.type (.named ["u32"]) .nil), .everywhere,
      [⟨["search"], .entries [.flag ["readonly"]]⟩]⟩,
    ⟨"cache", .tuple .nil, .inherited, [⟨["search"], .entries [.flag ["skip"]]⟩]⟩,
    ⟨"tags", .applied ["Vec"] (.type (.named ["String"]) .nil), .inherited, []⟩,
    ⟨"home", .applied ["Option"] (.type (.named ["Address"]) .nil), .everywhere,
      [⟨["search"], .entries [.flag ["Record"]]⟩]⟩]

def profile : Item := ⟨"Profile", "", .fields profileFields⟩

/-- What is derived from them. -/
def profileDerivation : Derivation where
  constants := [("HEADLINE", "headline"), ("TYPE", "type"), ("TAGS", "tags"), ("HOME", "home")]
  table := [⟨"headline", .string, none, false, false, false⟩,
    ⟨"type", .number, none, true, false, true⟩, ⟨"tags", .collection, none, false, true, false⟩,
    ⟨"home", .record, some (.named ["Address"]), false, false, true⟩]
  arms := [⟨"headline", "title", false, .string⟩, ⟨"type", "r#type", true, .number⟩,
    ⟨"home", "home", true, .record⟩]

def profileSchema : Schema where
  typeName := "Profile"
  root := 0
  members
    | 0 => [.ofType "headline" .string, (Member.ofType "type" .number).nullable.readonly,
        (Member.ofType "tags" .collection).hidden, (Member.ofType "home" (.record 1)).nullable]
    | _ => [.ofType "street" .string]

/-- A profile without a type, at an address that shows its street. -/
def profileStored : String → Stored
  | "title" => .plain ⟨some "Notes", none, none, some "Notes", none⟩
  | "r#type" => .optional none
  | "home" => .optional (some ⟨none, none, none, some "Row 1", some fun _ => .string "Row 1"⟩)
  | _ => .plain ⟨none, none, none, none, none⟩

set_option maxRecDepth 8192 in
theorem derive_profile : derive profile = .ok profileDerivation := by
  have plain : Trivia.isTrivia profile.parameters = true := by decide +kernel
  rw [derive, if_pos plain]
  rfl

theorem suits_profileStored : List.Forall₂
    (fun field entry => (profileStored field.name).Suits profileSchema (fun _ => 1) field entry)
    (searched profileFields) profileDerivation.table := by
  refine .cons ⟨?_, ?_, ?_⟩ (.cons ⟨?_, ?_, ?_⟩ (.cons ⟨?_, ?_, ?_⟩ (.cons ⟨?_, ?_, ?_⟩ .nil)))
  · rw [← FieldType.isSome_optionInner?_iff]
    exact Iff.rfl
  · rintro content ⟨⟩ kind ⟨⟩
    exact ⟨_, rfl⟩
  · rintro content ⟨⟩ record ⟨⟩
  · rw [← FieldType.isSome_optionInner?_iff]
    exact Iff.rfl
  · rintro content ⟨⟩
  · rintro content ⟨⟩
  · rw [← FieldType.isSome_optionInner?_iff]
    exact Iff.rfl
  · rintro content - kind ⟨⟩
  · rintro content ⟨⟩ record ⟨⟩
  · rw [← FieldType.isSome_optionInner?_iff]
    exact Iff.rfl
  · rintro content ⟨⟩ kind ⟨⟩
    exact ⟨_, rfl⟩
  · rintro content ⟨⟩ record ⟨⟩ type - m inside
    obtain rfl := List.mem_singleton.mp inside
    exact .string _ "Row 1"

theorem derive_agreement_profile :
    derive profile = .ok profileDerivation ∧
      ∃ record, (∀ name, profileDerivation.answer? profileStored name = some (record name)) ∧
        profileSchema.Describes record ∧ record "headline" = .string "Notes" ∧
          record "type" = .absent ∧ record "tags" = .absent ∧
            (record "home").toText? = some "Row 1" := by
  obtain ⟨fields, body, -, -, -, conforms⟩ := derive_agreement derive_profile
  obtain rfl : profileFields = fields := Body.fields.inj body
  obtain ⟨record, answered, described⟩ :=
    conforms (by decide) profileSchema (fun _ => 1) profileStored rfl suits_profileStored
  have read (name : String) {v : Value}
      (known : profileDerivation.answer? profileStored name = some v) : record name = v :=
    Option.some.inj ((answered name).symm.trans known)
  refine ⟨derive_profile, record, answered, described, read "headline" rfl, read "type" rfl,
    read "tags" rfl, ?_⟩
  rw [read "home" rfl]
  rfl

end RecordSearch.Derive
