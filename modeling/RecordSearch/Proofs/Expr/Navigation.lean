import RecordSearch.Proofs.Expr.Soundness

/-!
# Paths through nested records

A path is followed name by name, from the table of the record type. Each name is looked up in the
table at hand, and the type of the member found there says where the next name is looked up. The
tables alone tell where a path ends, and at which name one breaks off that cannot be followed.

## Main result

`resolve_path_and_eval`: a path resolves to where it ends, or is reported to break off at its first
wrong name; on a record that keeps to its declaration it evaluates to a value of the resolved type.
-/
namespace RecordSearch

/-! ### Following a path -/

/-- The members along a path from one type to another. -/
inductive Schema.Follows (schema : Schema) : MemberType → List String → List Member → MemberType →
    Prop
  | stay (ty : MemberType) : Follows schema ty [] [] ty
  | step {table : TableId} {name : String} {names : List String} {m : Member} {found : List Member}
      {stop : MemberType} (declared : findMember? (schema.members table) name = some m)
      (rest : Follows schema m.ty names found stop) :
      Follows schema (.record table) (name :: names) (m :: found) stop

/-- A path as it is written. -/
def pathText (placeholder : String) (names : List String) : String :=
  String.intercalate "." (placeholder :: names)

/-- What a name behind some others is missing in: the record type, if there are none. -/
def Schema.ownerAt (schema : Schema) (placeholder : String) : List String → String
  | [] => schema.typeName
  | before => pathText placeholder before

/-- Where a path breaks off, with what is reported of it. All names before that one can be
followed. -/
inductive Schema.Breaks (schema : Schema) (placeholder : String) : List String → SearchError → Prop
  | unknown {before after : List String} {name : String} {found : List Member} {table : TableId}
      (followed : schema.Follows (.record schema.root) before found (.record table))
      (missing : findMember? (schema.members table) name = none) :
      Breaks schema placeholder (before ++ name :: after)
        (.unknownMember (schema.ownerAt placeholder before) name)
  | plain {before after : List String} {name : String} {found : List Member} {stop : MemberType}
      (followed : schema.Follows (.record schema.root) before found stop)
      (noRecord : stop.table? = none) :
      Breaks schema placeholder (before ++ name :: after)
        (.notARecord (pathText placeholder before))

namespace Schema.Follows

variable {schema : Schema} {start stop : MemberType} {names : List String} {found : List Member}

/-- A path ends at the type of its last member. -/
theorem exists_last (followed : schema.Follows start names found stop) (named : names ≠ []) :
    ∃ before last, found = before ++ [last] ∧ last.ty = stop := by
  induction followed with
  | stay ty => exact absurd rfl named
  | @step table name names m found stop declared rest ih =>
    by_cases behind : names = []
    · rw [behind] at rest
      generalize typed : m.ty = ty at rest
      cases rest
      exact ⟨[], m, rfl, typed⟩
    · obtain ⟨before, last, whole, ends⟩ := ih behind
      exact ⟨m :: before, last, by rw [whole, List.cons_append], ends⟩

/-- A path that ends at no collection leads past none. -/
theorem start_ne_collection (followed : schema.Follows start names found stop)
    (noCollection : stop ≠ .collection) : start ≠ .collection := by
  cases followed with
  | stay => exact noCollection
  | step declared rest => simp

end Schema.Follows

/-- A path can be followed, or there is a first name at which it breaks off. -/
theorem Schema.follows_or_breaks (schema : Schema) (start : MemberType) (names : List String) :
    (∃ found stop, schema.Follows start names found stop) ∨
      ∃ before name after found stop, names = before ++ name :: after ∧
        schema.Follows start before found stop ∧
        (stop.table? = none ∨
          ∃ table, stop = .record table ∧ findMember? (schema.members table) name = none) := by
  -- The type at hand decides about the first name, the type of its member about the others.
  induction names generalizing start with
  | nil => exact Or.inl ⟨[], start, .stay start⟩
  | cons name names ih =>
    cases start with
    | record table =>
      cases declared : findMember? (schema.members table) name with
      | none =>
        exact Or.inr ⟨[], name, names, [], _, rfl, .stay _, Or.inr ⟨table, rfl, declared⟩⟩
      | some m =>
        rcases ih m.ty with
          ⟨found, stop, rest⟩ | ⟨before, wrong, after, found, stop, rfl, rest, broken⟩
        · exact Or.inl ⟨m :: found, stop, .step declared rest⟩
        · exact Or.inr ⟨name :: before, wrong, after, m :: found, stop, rfl, .step declared rest,
            broken⟩
    | _ => exact Or.inr ⟨[], name, names, [], _, rfl, .stay _, Or.inl rfl⟩

/-! ### Resolution of paths -/

namespace Expr

variable {schema : Schema} {placeholder : String} {e : Expr} {isNullable : Bool}

theorem path_append (start : Expr) (first second : List String) :
    start.path (first ++ second) = (start.path first).path second :=
  List.foldl_append

theorem path_ne_param {start : Expr} {names : List String} (named : names ≠ []) (name : String) :
    start.path names ≠ param name := by
  rw [← List.dropLast_append_getLast named, path_append]
  exact Expr.noConfusion

theorem text_path (start : Expr) (names : List String) :
    (start.path names).text = pathText start.text names := by
  induction names generalizing start with
  | nil => simp [path, pathText]
  | cons name names ih =>
    -- A member's text is that of its target with the name behind it.
    have shown : (start.path (name :: names)).text = pathText (start.text ++ "." ++ name) names :=
      ih (member start name)
    rw [shown, pathText, pathText, String.intercalate_cons_cons, String.intercalate_cons_append]

theorem ownerName_path (schema : Schema) (placeholder : String) (names : List String) :
    ((param placeholder).path names).ownerName schema = schema.ownerAt placeholder names := by
  cases names with
  | nil => rfl
  | cons name names =>
    have written := text_path (param placeholder) (name :: names)
    cases whole : (param placeholder).path (name :: names) with
    | param other => exact absurd whole (path_ne_param (List.cons_ne_nil _ _) other)
    | _ =>
      rw [whole] at written
      exact written

theorem resolve_member_of_findMember? {table : TableId} {m : Member} {name : String}
    (target : e.resolve schema placeholder = .ok ⟨.record table, isNullable⟩)
    (declared : findMember? (schema.members table) name = some m) :
    (member e name).resolve schema placeholder = .ok ⟨m.ty, isNullable || m.isNullable⟩ :=
  resolve_member_eq_ok_iff.mpr ⟨_, table, m, target, rfl, declared, rfl⟩

theorem resolve_member_of_missing {table : TableId} {name : String}
    (target : e.resolve schema placeholder = .ok ⟨.record table, isNullable⟩)
    (missing : findMember? (schema.members table) name = none) :
    (member e name).resolve schema placeholder =
      .error (.unknownMember (e.ownerName schema) name) := by
  rw [resolve, target, ok_bind]
  simp only [missing]

theorem resolve_member_of_plain {ty : MemberType} {name : String}
    (target : e.resolve schema placeholder = .ok ⟨ty, isNullable⟩) (noRecord : ty.table? = none) :
    (member e name).resolve schema placeholder = .error (.notARecord e.text) := by
  rw [resolve, target, ok_bind]
  cases ty with
  | record table => cases noRecord
  | _ => rfl

theorem resolve_path_of_error {error : SearchError} {names : List String}
    (failed : e.resolve schema placeholder = .error error) :
    (e.path names).resolve schema placeholder = .error error := by
  induction names generalizing e with
  | nil => exact failed
  | cons name names ih =>
    refine ih (e := member e name) ?_
    rw [resolve, failed, error_bind]

/-- A path resolves to where it ends, and may be absent if its start or a member on it may. -/
theorem resolve_path_of_follows {names : List String} {found : List Member}
    {start stop : MemberType} (followed : schema.Follows start names found stop)
    (begins : e.resolve schema placeholder = .ok ⟨start, isNullable⟩) :
    (e.path names).resolve schema placeholder =
      .ok ⟨stop, isNullable || found.any Member.isNullable⟩ := by
  induction followed generalizing e isNullable with
  | stay ty => rwa [List.any_nil, Bool.or_false]
  | @step table name names m found stop declared rest ih =>
    rw [List.any_cons, ← Bool.or_assoc]
    exact ih (resolve_member_of_findMember? begins declared)

theorem resolve_path_of_follows_root {names : List String} {found : List Member}
    {stop : MemberType} (followed : schema.Follows (.record schema.root) names found stop) :
    ((param placeholder).path names).resolve schema placeholder =
      .ok ⟨stop, found.any Member.isNullable⟩ :=
  resolve_path_of_follows followed (resolve_param_eq_ok_iff.mpr ⟨rfl, rfl⟩)

/-- A path avoids collections if it ends at none. -/
theorem avoidsCollections_path {names : List String} {found : List Member}
    {start stop : MemberType} (followed : schema.Follows start names found stop)
    (noCollection : stop ≠ .collection)
    (begins : e.resolve schema placeholder = .ok ⟨start, isNullable⟩)
    (avoids : e.AvoidsCollections schema placeholder) :
    (e.path names).AvoidsCollections schema placeholder := by
  induction followed generalizing e isNullable with
  | stay ty => exact avoids
  | @step table name names m found stop declared rest ih =>
    -- The member found is followed further, so it is a record, or it is where the path ends.
    have resolves := resolve_member_of_findMember? begins declared
    refine ih noCollection resolves ⟨avoids, fun resolved resolves' => ?_⟩
    obtain rfl := Except.ok.inj (resolves.symm.trans resolves')
    exact rest.start_ne_collection noCollection

theorem resolve_path_of_breaks {names : List String} {error : SearchError}
    (breaks : schema.Breaks placeholder names error) :
    ((param placeholder).path names).resolve schema placeholder = .error error := by
  -- The path up to the wrong name resolves, and what stands behind that name changes nothing.
  cases breaks with
  | @unknown before after name found table followed missing =>
    rw [path_append]
    refine resolve_path_of_error (e := member _ name) ?_
    rw [← ownerName_path]
    exact resolve_member_of_missing (resolve_path_of_follows_root followed) missing
  | @plain before after name found stop followed noRecord =>
    rw [path_append]
    refine resolve_path_of_error (e := member _ name) ?_
    rw [resolve_member_of_plain (resolve_path_of_follows_root followed) noRecord, text_path]
    rfl

theorem follows_or_breaks_root (schema : Schema) (placeholder : String) (names : List String) :
    (∃ found stop, schema.Follows (.record schema.root) names found stop) ∨
      ∃ error, schema.Breaks placeholder names error := by
  rcases schema.follows_or_breaks (.record schema.root) names with
    followed | ⟨before, name, after, found, stop, rfl, followed, noRecord | ⟨table, rfl, missing⟩⟩
  · exact Or.inl followed
  · exact Or.inr ⟨_, .plain followed noRecord⟩
  · exact Or.inr ⟨_, .unknown followed missing⟩

theorem resolve_path_eq_ok_iff {names : List String} {resolved : Resolved} :
    ((param placeholder).path names).resolve schema placeholder = .ok resolved ↔
      ∃ found, schema.Follows (.record schema.root) names found resolved.ty ∧
        resolved.isNullable = found.any Member.isNullable := by
  constructor
  · intro resolves
    rcases follows_or_breaks_root schema placeholder names with
      ⟨found, stop, followed⟩ | ⟨error, breaks⟩
    · obtain rfl := Except.ok.inj ((resolve_path_of_follows_root followed).symm.trans resolves)
      exact ⟨found, followed, rfl⟩
    · cases (resolve_path_of_breaks breaks).symm.trans resolves
  · rintro ⟨found, followed, nullable⟩
    rw [resolve_path_of_follows_root followed, ← nullable]

theorem resolve_path_eq_error_iff {names : List String} {error : SearchError} :
    ((param placeholder).path names).resolve schema placeholder = .error error ↔
      schema.Breaks placeholder names error := by
  constructor
  · intro failed
    rcases follows_or_breaks_root schema placeholder names with
      ⟨found, stop, followed⟩ | ⟨error', breaks⟩
    · cases (resolve_path_of_follows_root followed).symm.trans failed
    · obtain rfl := Except.error.inj ((resolve_path_of_breaks breaks).symm.trans failed)
      exact breaks
  · exact resolve_path_of_breaks

end Expr

/-! ### Evaluation of paths -/

theorem Operand.exists_member (operand : Operand) (record : Record) (name : String) :
    ∃ v, operand.member record name = .value v := by
  cases operand with
  | value v => cases v <;> exact ⟨_, rfl⟩
  | _ => exact ⟨_, rfl⟩

/-- What is of a type other than a collection is absent only if it may be. -/
theorem Value.Conforms.isNullable_of_isAbsent {schema : Schema} {v : Value} {ty : MemberType}
    {isNullable : Bool} (conforms : v.Conforms schema ty isNullable)
    (noCollection : ty ≠ .collection) (isAbsent : v.isAbsent = true) : isNullable = true := by
  cases conforms with
  | collection isNullable v => exact absurd rfl noCollection
  | absent ty => rfl
  | _ => cases isAbsent

namespace Expr

variable {schema : Schema} {placeholder : String}

/-- A member that is read is a value of the resolved type. -/
theorem conforms_eval_member {target : Expr} {name : String} {record : Record} {resolved : Resolved}
    (described : schema.Describes record)
    (resolves : (member target name).resolve schema placeholder = .ok resolved)
    (avoids : (member target name).AvoidsCollections schema placeholder) :
    ∃ v, (member target name).eval placeholder record = .value v ∧
      v.Conforms schema resolved.ty resolved.isNullable := by
  obtain ⟨v, read⟩ := (target.eval placeholder record).exists_member record name
  have fits : Operand.Fits schema resolved false (.value v) := by
    rw [← read]
    exact fits_eval described resolves avoids
  cases fits with
  | value conforms => exact ⟨v, read, conforms⟩

theorem conforms_eval_path {names : List String} {record : Record} {resolved : Resolved}
    (named : names ≠ []) (described : schema.Describes record)
    (resolves : ((param placeholder).path names).resolve schema placeholder = .ok resolved)
    (noCollection : resolved.ty ≠ .collection) :
    ∃ v, ((param placeholder).path names).eval placeholder record = .value v ∧
      v.Conforms schema resolved.ty resolved.isNullable := by
  obtain ⟨found, followed, -⟩ := resolve_path_eq_ok_iff.mp resolves
  have start : (param placeholder).resolve schema placeholder = .ok ⟨.record schema.root, false⟩ :=
    resolve_param_eq_ok_iff.mpr ⟨rfl, rfl⟩
  have avoids := avoidsCollections_path followed noCollection start trivial
  -- What is evaluated last is the member with the last name.
  rw [← List.dropLast_append_getLast named, path_append] at resolves avoids ⊢
  exact conforms_eval_member described resolves avoids

/-- **Navigation.** A path that is not empty resolves to the type of the last of the members that
it follows from the table of the record, and may be absent exactly if one of them may. Otherwise it
is reported to break off at the first name that cannot be followed. On a record that keeps to its
declaration it evaluates to a value of the type that it resolves to, absent only if it may be,
unless that type is a collection. -/
theorem resolve_path_and_eval (schema : Schema) (placeholder : String) {names : List String}
    (named : names ≠ []) :
    (∀ resolved, ((param placeholder).path names).resolve schema placeholder = .ok resolved ↔
        ∃ before last, schema.Follows (.record schema.root) names (before ++ [last]) last.ty ∧
          resolved = ⟨last.ty, (before ++ [last]).any Member.isNullable⟩) ∧
      (∀ error, ((param placeholder).path names).resolve schema placeholder = .error error ↔
        schema.Breaks placeholder names error) ∧
      ∀ record resolved, schema.Describes record →
        ((param placeholder).path names).resolve schema placeholder = .ok resolved →
        resolved.ty ≠ .collection →
        ∃ v, ((param placeholder).path names).eval placeholder record = .value v ∧
          v.Conforms schema resolved.ty resolved.isNullable ∧
          (v.isAbsent = true → resolved.isNullable = true) := by
  refine ⟨fun resolved => ?_, fun error => resolve_path_eq_error_iff, ?_⟩
  · rw [resolve_path_eq_ok_iff]
    constructor
    · rintro ⟨found, followed, nullable⟩
      obtain ⟨before, last, rfl, ends⟩ := followed.exists_last named
      rw [← ends] at followed
      exact ⟨before, last, followed, by rw [ends, ← nullable]⟩
    · rintro ⟨before, last, followed, rfl⟩
      exact ⟨before ++ [last], followed, rfl⟩
  · intro record resolved described resolves noCollection
    obtain ⟨v, evaluated, conforms⟩ := conforms_eval_path named described resolves noCollection
    exact ⟨v, evaluated, conforms, conforms.isNullable_of_isAbsent noCollection⟩

end Expr

/-- Employees with their managers, who are employees, and their offices. -/
def employees : Schema where
  typeName := "Employee"
  root := 0
  members
    | 0 => [.ofType "name" .string, (Member.ofType "manager" (.record 0)).nullable,
        .ofType "office" (.record 1)]
    | _ => [.ofType "city" .string]

/-- An employee with a manager or none, at an office in a city. -/
def employee (name city : String) (manager : Value) : Record
  | "manager" => manager
  | "office" => .record city fun _ => .string city
  | _ => .string name

theorem conforms_employee (name city : String) {manager : Value}
    (conforms : manager.Conforms employees (.record 0) true) :
    ∀ m ∈ employees.members 0,
      (employee name city manager m.name).Conforms employees m.ty m.isNullable := by
  intro m inside
  rcases List.mem_cons.mp inside with rfl | inside
  · exact .string _ name
  rcases List.mem_cons.mp inside with rfl | inside
  · exact conforms
  obtain rfl := List.mem_singleton.mp inside
  refine .record _ city fun m inside => ?_
  obtain rfl := List.mem_singleton.mp inside
  exact .string _ city

/-- An employee in Oslo, whose manager in Rome has none. -/
def clerk : Record := employee "Bob" "Oslo" (.record "Ann" (employee "Ann" "Rome" .absent))

theorem describes_clerk : employees.Describes clerk :=
  conforms_employee "Bob" "Oslo" (.record _ "Ann" (conforms_employee "Ann" "Rome" (.absent _)))

theorem resolve_path_and_eval_employee :
    employees.Describes clerk ∧
      ((Expr.param "c").path ["manager", "office", "city"]).resolve employees "c" =
        .ok ⟨.string, true⟩ ∧
      (∃ v, ((Expr.param "c").path ["manager", "office", "city"]).eval "c" clerk = .value v ∧
        v.Conforms employees .string true) ∧
      ((Expr.param "c").path ["manager", "name", "first"]).resolve employees "c" =
        .error (.notARecord "c.manager.name") ∧
      ((Expr.param "c").path ["manager", "salary"]).resolve employees "c" =
        .error (.unknownMember "c.manager" "salary") ∧
      ((Expr.param "c").path ["salary", "sum"]).resolve employees "c" =
        .error (.unknownMember "Employee" "salary") := by
  have toManager {names : List String} {found : List Member} {stop : MemberType}
      (rest : employees.Follows (.record 0) names found stop) :
      employees.Follows (.record 0) ("manager" :: names)
        ((Member.ofType "manager" (.record 0)).nullable :: found) stop :=
    .step rfl rest
  obtain ⟨ends, -, evaluates⟩ :=
    Expr.resolve_path_and_eval employees "c" (List.cons_ne_nil "manager" ["office", "city"])
  have toCity : employees.Follows (.record 0) ["manager", "office", "city"]
      ([(Member.ofType "manager" (.record 0)).nullable, .ofType "office" (.record 1)] ++
        [.ofType "city" .string]) .string :=
    toManager (.step rfl (.step rfl (.stay _)))
  have resolves := (ends ⟨.string, true⟩).mpr ⟨_, _, toCity, rfl⟩
  obtain ⟨v, evaluated, conforms, -⟩ := evaluates clerk _ describes_clerk resolves (by decide)
  refine ⟨describes_clerk, resolves, ⟨v, evaluated, conforms⟩, ?_, ?_, ?_⟩
  · have breaks : employees.Breaks "c" (["manager", "name"] ++ "first" :: [])
        (.notARecord "c.manager.name") := .plain (toManager (.step rfl (.stay _))) rfl
    exact ((Expr.resolve_path_and_eval employees "c" (List.cons_ne_nil _ _)).2.1 _).mpr breaks
  · have breaks : employees.Breaks "c" (["manager"] ++ "salary" :: [])
        (.unknownMember "c.manager" "salary") := .unknown (toManager (.stay _)) rfl
    exact ((Expr.resolve_path_and_eval employees "c" (List.cons_ne_nil _ _)).2.1 _).mpr breaks
  · have breaks : employees.Breaks "c" ([] ++ "salary" :: ["sum"])
        (.unknownMember "Employee" "salary") := .unknown (.stay _) rfl
    exact ((Expr.resolve_path_and_eval employees "c" (List.cons_ne_nil _ _)).2.1 _).mpr breaks

end RecordSearch
