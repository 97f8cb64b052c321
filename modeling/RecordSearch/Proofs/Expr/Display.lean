import RecordSearch.Proofs.Expr.Regrouping
import RecordSearch.Proofs.Text.Quoted
import RecordSearch.Unicode.Letter

/-!
# Expressions are read back from their texts

The text of an expression tells the expression, up to the grouping of its chains, if connectives stand
on top of it only and its names are free of the marks between them. Needles may be any text: they
are read back by their quotes.

What is written is read from the left. An operand is a name with suffixes, and a chain is made of
operands with separators between them. Each part can be told from what may stand behind it, and so two
equal texts fall into the same parts.

## Main results

`IsOperand.eq_of_text_append`: operands with the same text are equal.
`regroups_iff_text_eq`: expressions with the same text regroup each other.
-/
namespace RecordSearch.Expr

/-! ### Names -/

/-- The characters that end a name. -/
def marks : List Char := ['.', ' ', '(', ')']

def isMark (c : Char) : Bool := marks.contains c

/-- A name without marks. -/
def IsName (name : String) : Prop := name.toList.all (!isMark ·) = true

instance (name : String) : Decidable (IsName name) :=
  inferInstanceAs (Decidable (name.toList.all (!isMark ·) = true))

theorem isAlphanumeric_of_isMark {c : Char} (mark : isMark c = true) :
    Unicode.isAlphanumeric c = false := by
  have apart : marks.all (!Unicode.isAlphanumeric ·) = true := by decide +kernel
  simpa using List.all_eq_true.mp apart c (List.contains_iff_mem.mp mark)

/-- Letters, digits and underscores are no marks, so identifiers are such names. -/
theorem isName_of_alphanumeric {name : String}
    (each : name.toList.all (fun c => c == '_' || Unicode.isAlphanumeric c) = true) :
    IsName name := by
  rw [List.all_eq_true] at each
  refine List.all_eq_true.mpr fun c inside => ?_
  cases mark : isMark c with
  | false => rfl
  | true =>
    rcases Bool.or_eq_true_iff.mp (each c inside) with underscore | alphanumeric
    · rw [beq_iff_eq.mp underscore] at mark
      cases mark
    · rw [isAlphanumeric_of_isMark mark] at alphanumeric
      cases alphanumeric

/-- A text that is empty or goes on with a mark, but with no call: what may stand behind a suffix. -/
def Stops (rest : List Char) : Prop := rest.head?.all (fun c => isMark c && c != '(') = true

/-- A name ends where a mark stands. -/
theorem IsName.eq_of_append {name name' : String} {rest rest' : List Char} (isName : IsName name)
    (isName' : IsName name') (ends : rest.head?.all isMark = true)
    (ends' : rest'.head?.all isMark = true)
    (same : name.toList ++ rest = name'.toList ++ rest') : name = name' ∧ rest = rest' := by
  obtain ⟨characters, behind⟩ := Text.eq_of_stretch_append
    (List.all_eq_true.mp isName) (List.all_eq_true.mp isName')
    (by simpa using ends) (by simpa using ends') same
  exact ⟨String.toList_injective characters, behind⟩

theorem Stops.isMark_head {rest : List Char} (stops : Stops rest) :
    rest.head?.all isMark = true := by
  cases rest with
  | nil => rfl
  | cons c rest => exact (Bool.and_eq_true_iff.mp stops).1

theorem Stops.ne_call {rest : List Char} (stops : Stops rest) (behind : List Char) :
    rest ≠ '(' :: behind := by
  rintro rfl
  cases stops

/-! ### Suffixes -/

/-- What is written behind an operand. -/
inductive Suffix where
  | member (name : String)
  | toText
  | upper
  | isPresent
  | contains (needle : String)

/-- What is written behind the name of a suffix. -/
inductive Argument where
  | none
  | empty
  | needle (text : String)

def Argument.characters : Argument → List Char
  | none => []
  | empty => ['(', ')']
  | needle text => '(' :: ((Text.quoted text).toList ++ [')'])

/-- An argument is told by its parentheses, a needle by its quotes. -/
theorem Argument.eq_of_append {argument argument' : Argument} {rest rest' : List Char}
    (stops : Stops rest) (stops' : Stops rest')
    (same : argument.characters ++ rest = argument'.characters ++ rest') :
    argument = argument' ∧ rest = rest' := by
  cases argument with
  | none =>
    cases argument' with
    | none => exact ⟨rfl, same⟩
    | empty => exact absurd same (stops.ne_call _)
    | needle text' => exact absurd same (stops.ne_call _)
  | empty =>
    cases argument' with
    | none => exact absurd same.symm (stops'.ne_call _)
    | empty => exact ⟨rfl, List.append_cancel_left same⟩
    | needle text' => simp [characters] at same
  | needle text =>
    cases argument' with
    | none => exact absurd same.symm (stops'.ne_call _)
    | empty => simp [characters] at same
    | needle text' =>
      simp only [characters, List.cons_append, List.append_assoc, List.cons.injEq, true_and] at same
      obtain ⟨rfl, behind⟩ := Text.eq_of_quoted_append same
      exact ⟨rfl, (List.cons.inj behind).2⟩

namespace Suffix

def apply (e : Expr) : Suffix → Expr
  | member name => .member e name
  | toText => .toText e
  | upper => .upper e
  | isPresent => .isPresent e
  | contains needle => .contains e needle

/-- The name behind the dot and the argument. A presence test has no dot. -/
def call? : Suffix → Option (String × Argument)
  | member name => some (name, .none)
  | toText => some ("to_string", .empty)
  | upper => some ("to_uppercase", .empty)
  | isPresent => none
  | contains needle => some ("contains", .needle needle)

/-- No method is named like another one with the same kind of argument. -/
theorem call?_injective : Function.Injective call? := by
  intro s s' same
  cases s <;> cases s' <;> simp_all [call?]

def characters (s : Suffix) : List Char :=
  match s.call? with
  | some (name, argument) => '.' :: (name.toList ++ argument.characters)
  | none => " != null".toList

theorem toList_text_apply (e : Expr) (s : Suffix) :
    (s.apply e).text.toList = e.text.toList ++ s.characters := by
  cases s <;> simp [apply, text, characters, call?, Argument.characters]

/-- The names of a suffix, those of methods included, are without marks. -/
def IsReadable (s : Suffix) : Prop := ∀ call ∈ s.call?, IsName call.1

theorem stops_characters (s : Suffix) (rest : List Char) : Stops (s.characters ++ rest) := by
  cases s <;> rfl

/-- A suffix is told by its name and argument. -/
theorem eq_of_append {s s' : Suffix} {rest rest' : List Char} (readable : s.IsReadable)
    (readable' : s'.IsReadable) (stops : Stops rest) (stops' : Stops rest')
    (same : s.characters ++ rest = s'.characters ++ rest') : s = s' ∧ rest = rest' := by
  have isMark_argument (argument : Argument) {rest : List Char} (stops : Stops rest) :
      (argument.characters ++ rest).head?.all isMark = true := by
    cases argument with
    | none => exact stops.isMark_head
    | empty => rfl
    | needle text => rfl
  unfold characters at same
  cases call : s.call? with
  | none =>
    cases call' : s'.call? with
    | none =>
      rw [call, call'] at same
      exact ⟨call?_injective (call.trans call'.symm), List.append_cancel_left same⟩
    | some _ =>
      rw [call, call'] at same
      cases (List.cons.inj same).1
  | some dotted =>
    cases call' : s'.call? with
    | none =>
      rw [call, call'] at same
      cases (List.cons.inj same).1
    | some dotted' =>
      rw [call, call'] at same
      simp only [List.cons_append, List.append_assoc, List.cons.injEq, true_and] at same
      obtain ⟨name, arguments⟩ := (readable dotted call).eq_of_append (readable' dotted' call')
        (isMark_argument _ stops) (isMark_argument _ stops') same
      obtain ⟨argument, behind⟩ := Argument.eq_of_append stops stops' arguments
      have sameCall : s.call? = s'.call? := by
        rw [call, call', Prod.ext name argument]
      exact ⟨call?_injective sameCall, behind⟩

end Suffix

/-! ### Operands -/

/-- Operands: chains of suffixes behind a placeholder, without connectives. -/
inductive IsOperand : Expr → Prop
  | param {name : String} (isName : IsName name) : IsOperand (.param name)
  | member {target : Expr} {name : String} (operand : IsOperand target) (isName : IsName name) :
      IsOperand (.member target name)
  | toText {inner : Expr} (operand : IsOperand inner) : IsOperand (.toText inner)
  | upper {inner : Expr} (operand : IsOperand inner) : IsOperand (.upper inner)
  | isPresent {inner : Expr} (operand : IsOperand inner) : IsOperand (.isPresent inner)
  | contains {haystack : Expr} (needle : String) (operand : IsOperand haystack) :
      IsOperand (.contains haystack needle)

/-- What may stand behind an expression as a whole: nothing, or the parenthesis that closes it. -/
def Closes (rest : List Char) : Prop := rest = [] ∨ ∃ behind, rest = ')' :: behind

/-- What may stand behind the last suffix of an operand. -/
def EndsOperand (rest : List Char) : Prop :=
  Closes rest ∨ ∃ (k : Connective) (behind : List Char), rest = k.separator.toList ++ behind

theorem EndsOperand.stops {rest : List Char} (ends : EndsOperand rest) : Stops rest := by
  rcases ends with (rfl | ⟨behind, rfl⟩) | ⟨k, behind, rfl⟩
  · rfl
  · rfl
  · cases k <;> rfl

/-- A separator is no presence test. -/
theorem EndsOperand.ne_characters {rest : List Char} (ends : EndsOperand rest) (s : Suffix)
    (behind : List Char) : rest ≠ s.characters ++ behind := by
  rcases ends with (rfl | ⟨_, rfl⟩) | ⟨k, _, rfl⟩
  · cases s <;> simp [Suffix.characters, Suffix.call?]
  · cases s <;> simp [Suffix.characters, Suffix.call?]
  · cases k <;> cases s <;> simp [Suffix.characters, Suffix.call?, Connective.separator]

theorem stops_suffixes (suffixes : List Suffix) {rest : List Char} (stops : Stops rest) :
    Stops (suffixes.flatMap Suffix.characters ++ rest) := by
  cases suffixes with
  | nil => exact stops
  | cons s others =>
    rw [List.flatMap_cons, List.append_assoc]
    exact s.stops_characters _

theorem eq_of_suffixes_append {suffixes suffixes' : List Suffix} {rest rest' : List Char}
    (readable : ∀ s ∈ suffixes, s.IsReadable) (readable' : ∀ s ∈ suffixes', s.IsReadable)
    (ends : EndsOperand rest) (ends' : EndsOperand rest')
    (same : suffixes.flatMap Suffix.characters ++ rest =
      suffixes'.flatMap Suffix.characters ++ rest') : suffixes = suffixes' ∧ rest = rest' := by
  induction suffixes generalizing suffixes' with
  | nil =>
    cases suffixes' with
    | nil => exact ⟨rfl, same⟩
    | cons s' others' =>
      rw [List.flatMap_cons, List.append_assoc] at same
      exact absurd same (ends.ne_characters s' _)
  | cons s others ih =>
    rw [List.flatMap_cons, List.append_assoc] at same
    cases suffixes' with
    | nil => exact absurd same.symm (ends'.ne_characters s _)
    | cons s' others' =>
      rw [List.flatMap_cons, List.append_assoc] at same
      rw [List.forall_mem_cons] at readable readable'
      obtain ⟨rfl, behind⟩ := Suffix.eq_of_append readable.1 readable'.1
        (stops_suffixes others ends.stops) (stops_suffixes others' ends'.stops) same
      obtain ⟨rfl, rest⟩ := ih readable.2 readable'.2 behind
      exact ⟨rfl, rest⟩

/-- An operand as a placeholder with suffixes, first to last. -/
structure Suffixed (e : Expr) (name : String) (suffixes : List Suffix) : Prop where
  isName : IsName name
  readable : ∀ s ∈ suffixes, s.IsReadable
  eq : e = suffixes.foldl Suffix.apply (.param name)

theorem Suffixed.apply {e : Expr} {name : String} {suffixes : List Suffix}
    (suffixed : Suffixed e name suffixes) {s : Suffix} (readable : s.IsReadable) :
    Suffixed (s.apply e) name (suffixes ++ [s]) where
  isName := suffixed.isName
  readable := List.forall_mem_append.mpr ⟨suffixed.readable, List.forall_mem_singleton.mpr readable⟩
  eq := by rw [List.foldl_append, suffixed.eq]; rfl

theorem IsOperand.exists_suffixed {e : Expr} (operand : IsOperand e) :
    ∃ name suffixes, Suffixed e name suffixes := by
  have extend {e : Expr} (s : Suffix) (readable : s.IsReadable)
      (found : ∃ name suffixes, Suffixed e name suffixes) :
      ∃ name suffixes, Suffixed (s.apply e) name suffixes := by
    obtain ⟨name, suffixes, suffixed⟩ := found
    exact ⟨name, suffixes ++ [s], suffixed.apply readable⟩
  have method : IsName "contains" := by decide
  induction operand with
  | param isName => exact ⟨_, [], isName, by simp, rfl⟩
  | member _ isName ih => exact extend (.member _) (by rintro _ ⟨⟩; exact isName) ih
  | toText _ ih => exact extend .toText (by rintro _ ⟨⟩; decide) ih
  | upper _ ih => exact extend .upper (by rintro _ ⟨⟩; decide) ih
  | isPresent _ ih => exact extend .isPresent (by rintro _ ⟨⟩) ih
  | contains needle _ ih => exact extend (.contains needle) (by rintro _ ⟨⟩; exact method) ih

theorem toList_text_foldl (e : Expr) (suffixes : List Suffix) :
    (suffixes.foldl Suffix.apply e).text.toList =
      e.text.toList ++ suffixes.flatMap Suffix.characters := by
  induction suffixes generalizing e with
  | nil => simp
  | cons s others ih =>
    rw [List.foldl_cons, ih, s.toList_text_apply, List.flatMap_cons, List.append_assoc]

/-- Operands are told by their texts. -/
theorem IsOperand.eq_of_text_append {e e' : Expr} {rest rest' : List Char} (operand : IsOperand e)
    (operand' : IsOperand e') (ends : EndsOperand rest) (ends' : EndsOperand rest')
    (same : e.text.toList ++ rest = e'.text.toList ++ rest') : e = e' ∧ rest = rest' := by
  obtain ⟨name, suffixes, isName, readable, rfl⟩ := operand.exists_suffixed
  obtain ⟨name', suffixes', isName', readable', rfl⟩ := operand'.exists_suffixed
  rw [toList_text_foldl, toList_text_foldl, List.append_assoc, List.append_assoc] at same
  obtain ⟨rfl, behind⟩ := isName.eq_of_append isName'
    (stops_suffixes suffixes ends.stops).isMark_head
    (stops_suffixes suffixes' ends'.stops).isMark_head same
  obtain ⟨rfl, rest⟩ := eq_of_suffixes_append readable readable' ends ends' behind
  exact ⟨rfl, rest⟩

/-- No operand begins with a parenthesis. -/
theorem IsOperand.text_append_ne {e : Expr} {rest : List Char} (operand : IsOperand e)
    (ends : EndsOperand rest) (behind : List Char) : e.text.toList ++ rest ≠ '(' :: behind := by
  obtain ⟨name, suffixes, isName, -, rfl⟩ := operand.exists_suffixed
  rw [toList_text_foldl, List.append_assoc]
  intro same
  -- The parenthesis would stand behind an empty name, as if it opened a call.
  have empty : name.toList ++ (suffixes.flatMap Suffix.characters ++ rest) =
      "".toList ++ '(' :: behind := same
  obtain ⟨_, behind⟩ := isName.eq_of_append (by decide)
    (stops_suffixes suffixes ends.stops).isMark_head rfl empty
  exact (stops_suffixes suffixes ends.stops).ne_call _ behind

/-! ### Chains -/

/-- Expressions with connectives on top of operands alone. -/
inductive IsReadable : Expr → Prop
  | operand {e : Expr} (operand : IsOperand e) : IsReadable e
  | join (k : Connective) {left right : Expr} (readable : IsReadable left)
      (readable' : IsReadable right) : IsReadable (k.join left right)

namespace Connective

/-- What may stand behind a chain. -/
def Ends : Connective → List Char → Prop
  | conjunction, rest => Closes rest ∨ ∃ behind, rest = alternative.separator.toList ++ behind
  | alternative, rest => Closes rest

/-- What may stand behind an operand of a chain. -/
def Follows (k : Connective) (rest : List Char) : Prop :=
  k.Ends rest ∨ ∃ behind, rest = k.separator.toList ++ behind

variable {k : Connective} {rest : List Char}

theorem Follows.endsOperand (follows : k.Follows rest) : EndsOperand rest := by
  cases k with
  | conjunction =>
    obtain (closes | separated) | separated := follows
    · exact .inl closes
    · exact .inr ⟨_, separated⟩
    · exact .inr ⟨_, separated⟩
  | alternative => exact follows.imp_right fun separated => ⟨_, separated⟩

/-- What ends a chain is not the separator of another operand. -/
theorem Ends.ne_separator (ends : k.Ends rest) (behind : List Char) :
    rest ≠ k.separator.toList ++ behind := by
  cases k with
  | conjunction => rcases ends with (rfl | ⟨_, rfl⟩) | ⟨_, rfl⟩ <;> simp [separator]
  | alternative => rcases ends with rfl | ⟨_, rfl⟩ <;> simp [separator]

end Connective

theorem IsOperand.not_joins {e : Expr} (operand : IsOperand e) (k : Connective) :
    k.joins e = false := by
  cases operand <;> cases k <;> rfl

/-- The operands of a readable chain are readable. -/
theorem IsReadable.of_mem_operands {k : Connective} {e operand : Expr} (readable : IsReadable e)
    (member : operand ∈ e.operands k) : IsReadable operand := by
  induction readable with
  | @operand e isOperand =>
    rw [operands_of_not_joins (isOperand.not_joins k), List.mem_singleton] at member
    exact member ▸ .operand isOperand
  | @join k' left right readable readable' ih ih' =>
    by_cases same : k' = k
    · subst same
      rw [operands_join, List.mem_append] at member
      exact member.elim ih ih'
    · have alone : k.joins (k'.join left right) = false := by
        cases k <;> cases k' <;> first | rfl | exact absurd rfl same
      rw [operands_of_not_joins alone, List.mem_singleton] at member
      exact member ▸ .join k' readable readable'

/-- Whatever readable operand is written like `e` in a chain regroups it and ends where it ends. -/
def Decodes (k : Connective) (e : Expr) : Prop :=
  ∀ e', IsReadable e' → k.joins e' = false → ∀ rest rest', k.Follows rest → k.Follows rest' →
    (k.shown e).toList ++ rest = (k.shown e').toList ++ rest' → Regroups e e' ∧ rest = rest'

/-- The operands of a chain behind the first. -/
def chainCharacters (k : Connective) (operands : List Expr) : List Char :=
  operands.flatMap fun e => k.separator.toList ++ (k.shown e).toList

theorem chainCharacters_cons_append (k : Connective) (e : Expr) (others : List Expr)
    (rest : List Char) :
    chainCharacters k (e :: others) ++ rest =
      k.separator.toList ++ ((k.shown e).toList ++ (chainCharacters k others ++ rest)) := by
  simp [chainCharacters]

theorem toList_shown_foldl_append (k : Connective) (head : Expr) (tail : List Expr)
    (rest : List Char) :
    (k.shown (tail.foldl k.join head)).toList ++ rest =
      (k.shown head).toList ++ (chainCharacters k tail ++ rest) := by
  induction tail generalizing head with
  | nil => rfl
  | cons e others ih =>
    rw [List.foldl_cons, ih, chainCharacters_cons_append, k.shown_join]
    simp

theorem follows_chainCharacters {k : Connective} {rest : List Char} (operands : List Expr)
    (ends : k.Ends rest) : k.Follows (chainCharacters k operands ++ rest) := by
  cases operands with
  | nil => exact .inl ends
  | cons e others => exact .inr ⟨_, chainCharacters_cons_append k e others rest⟩

theorem ne_chainCharacters {k : Connective} {rest : List Char} (ends : k.Ends rest) (e : Expr)
    (others : List Expr) (behind : List Char) : rest ≠ chainCharacters k (e :: others) ++ behind := by
  rw [chainCharacters_cons_append]
  exact ends.ne_separator _

theorem regroups_of_chain_append {k : Connective} {head head' : Expr} {tail tail' : List Expr}
    {rest rest' : List Char} (decodes : ∀ e ∈ head :: tail, Decodes k e)
    (readable' : ∀ e ∈ head' :: tail', IsReadable e ∧ k.joins e = false)
    (ends : k.Ends rest) (ends' : k.Ends rest')
    (same : (k.shown head).toList ++ (chainCharacters k tail ++ rest) =
      (k.shown head').toList ++ (chainCharacters k tail' ++ rest')) :
    Regroups head head' ∧ List.Forall₂ Regroups tail tail' ∧ rest = rest' := by
  induction tail generalizing head head' tail' with
  | nil =>
    rw [List.forall_mem_cons] at decodes readable'
    obtain ⟨first, behind⟩ := decodes.1 head' readable'.1.1 readable'.1.2 _ _
      (follows_chainCharacters [] ends) (follows_chainCharacters tail' ends') same
    cases tail' with
    | nil => exact ⟨first, .nil, behind⟩
    | cons e' others' => exact absurd behind (ne_chainCharacters ends e' others' rest')
  | cons e others ih =>
    rw [List.forall_mem_cons] at decodes readable'
    obtain ⟨first, behind⟩ := decodes.1 head' readable'.1.1 readable'.1.2 _ _
      (follows_chainCharacters (e :: others) ends) (follows_chainCharacters tail' ends') same
    cases tail' with
    | nil => exact absurd behind.symm (ne_chainCharacters ends' e others rest)
    | cons e' others' =>
      -- Behind the separator stands a chain again.
      rw [chainCharacters_cons_append, chainCharacters_cons_append] at behind
      obtain ⟨second, others, rest⟩ := ih decodes.2 readable'.2 (List.append_cancel_left behind)
      exact ⟨first, .cons second others, rest⟩

/-- A chain is told by its operands. -/
theorem regroups_of_shown_append {k : Connective} {e e' : Expr} {rest rest' : List Char}
    (decodes : ∀ operand ∈ e.operands k, Decodes k operand) (readable' : IsReadable e')
    (ends : k.Ends rest) (ends' : k.Ends rest')
    (same : (k.shown e).toList ++ rest = (k.shown e').toList ++ rest') :
    Regroups e e' ∧ rest = rest' := by
  obtain ⟨head, tail, operands, regroups⟩ := exists_chain k e
  obtain ⟨head', tail', operands', regroups'⟩ := exists_chain k e'
  rw [regroups.shown_eq, regroups'.shown_eq, toList_shown_foldl_append,
    toList_shown_foldl_append] at same
  obtain ⟨first, others, rest⟩ := regroups_of_chain_append (operands ▸ decodes)
    (fun e member => ⟨readable'.of_mem_operands (operands' ▸ member),
      not_joins_of_mem_operands (operands' ▸ member)⟩) ends ends' same
  exact ⟨regroups.trans ((Regroups.foldl_join k first others).trans regroups'.symm), rest⟩

/-! ### Operands of chains -/

/-- What is no alternative gets no parentheses. -/
theorem shown_of_not_or {e : Expr} (alone : Connective.alternative.joins e = false) :
    Connective.conjunction.shown e = e.text := by
  cases e <;> first | rfl | cases alone

theorem toList_shown_or_append (left right : Expr) (rest : List Char) :
    (Connective.conjunction.shown (or left right)).toList ++ rest =
      '(' :: ((or left right).text.toList ++ ')' :: rest) := by
  simp [Connective.shown, enclose, isOr]

/-- An operand is told from an alternative by the parenthesis. -/
theorem IsOperand.decodes_conjunction {e : Expr} (operand : IsOperand e) :
    Decodes .conjunction e := by
  intro e' readable' alone' rest rest' follows follows' same
  rw [shown_of_not_or (operand.not_joins _)] at same
  cases readable' with
  | operand operand' =>
    rw [shown_of_not_or (operand'.not_joins _)] at same
    obtain ⟨rfl, behind⟩ :=
      operand.eq_of_text_append operand' follows.endsOperand follows'.endsOperand same
    exact ⟨.refl e, behind⟩
  | join k _ _ =>
    cases k with
    | conjunction => cases alone'
    | alternative =>
      rw [Connective.join, toList_shown_or_append] at same
      exact absurd same (operand.text_append_ne follows.endsOperand _)

/-- An alternative in a chain of conjunctions is a chain between parentheses. -/
theorem decodes_conjunction_or {left right : Expr}
    (decodes : ∀ operand ∈ (or left right).operands .alternative, Decodes .alternative operand) :
    Decodes .conjunction (or left right) := by
  intro e' readable' alone' rest rest' follows follows' same
  rw [toList_shown_or_append] at same
  cases readable' with
  | operand operand' =>
    rw [shown_of_not_or (operand'.not_joins _)] at same
    exact absurd same.symm (operand'.text_append_ne follows'.endsOperand _)
  | join k readable readable' =>
    cases k with
    | conjunction => cases alone'
    | alternative =>
      rw [Connective.join, toList_shown_or_append] at same
      obtain ⟨regroups, behind⟩ := regroups_of_shown_append decodes
        (.join .alternative readable readable') (.inr ⟨rest, rfl⟩) (.inr ⟨rest', rfl⟩)
        (List.cons.inj same).2
      exact ⟨regroups, (List.cons.inj behind).2⟩

/-- What stands in a chain of alternatives is a chain of conjunctions. -/
theorem decodes_alternative {e : Expr} (alone : Connective.alternative.joins e = false)
    (decodes : ∀ operand ∈ e.operands .conjunction, Decodes .conjunction operand) :
    Decodes .alternative e := by
  intro e' readable' alone' rest rest' follows follows' same
  have conjunctions : (Connective.conjunction.shown e).toList ++ rest =
      (Connective.conjunction.shown e').toList ++ rest' := by
    rw [shown_of_not_or alone, shown_of_not_or alone']
    exact same
  exact regroups_of_shown_append decodes readable' follows follows' conjunctions

theorem IsReadable.decodes_operands {e : Expr} (readable : IsReadable e) (k : Connective) :
    ∀ operand ∈ e.operands k, Decodes k operand := by
  induction readable generalizing k with
  | @operand e isOperand =>
    rw [operands_of_not_joins (isOperand.not_joins k), List.forall_mem_singleton]
    cases k with
    | conjunction => exact isOperand.decodes_conjunction
    | alternative =>
      refine decodes_alternative (isOperand.not_joins _) ?_
      rw [operands_of_not_joins (isOperand.not_joins _), List.forall_mem_singleton]
      exact isOperand.decodes_conjunction
  | @join k' left right _ _ ih ih' =>
    have own : ∀ operand ∈ (k'.join left right).operands k', Decodes k' operand := by
      rw [operands_join, List.forall_mem_append]
      exact ⟨ih k', ih' k'⟩
    -- In a chain of the other connective it is one operand.
    cases k' with
    | conjunction =>
      cases k with
      | conjunction => exact own
      | alternative => exact List.forall_mem_singleton.mpr (decodes_alternative rfl own)
    | alternative =>
      cases k with
      | conjunction => exact List.forall_mem_singleton.mpr (decodes_conjunction_or own)
      | alternative => exact own

/-- The text of an expression tells it up to the grouping of its chains, and so what it answers. -/
theorem regroups_iff_text_eq {e e' : Expr} (readable : e.IsReadable) (readable' : e'.IsReadable) :
    (e.text = e'.text ↔ e.Regroups e') ∧
      (e.text = e'.text → ∀ placeholder record,
        e.test placeholder record = e'.test placeholder record) := by
  have regroups (same : e.text = e'.text) : e.Regroups e' := by
    have shown : (Connective.alternative.shown e).toList ++ [] =
        (Connective.alternative.shown e').toList ++ [] := by
      rw [Connective.shown, Connective.shown, same]
    exact (regroups_of_shown_append (readable.decodes_operands .alternative) readable' (.inl rfl)
      (.inl rfl) shown).1
  exact ⟨⟨regroups, Regroups.text_eq⟩, fun same => (regroups same).test_eq⟩

/-- The needle reads like a piece of the text around it. -/
theorem regroups_iff_text_eq_size :
    let size := contains (toText (member (param "b") "größe")) "\") && (b.größe"
    let known := isPresent (member (param "b") "größe")
    let either := or known size
    let first := and (and size known) either
    let second := and size (and known either)
    first.IsReadable ∧ second.IsReadable ∧ first.text = second.text ∧ first.Regroups second ∧
      ∀ record, first.test "b" record = second.test "b" record := by
  intro size known either first second
  have name : IsName "größe" := isName_of_alphanumeric (by decide +kernel)
  have member : IsOperand (member (param "b") "größe") := .member (.param (by decide)) name
  have sizeReadable : IsReadable size := .operand (.contains _ (.toText member))
  have knownReadable : IsReadable known := .operand (.isPresent member)
  have eitherReadable : IsReadable either := .join .alternative knownReadable sizeReadable
  have firstReadable : IsReadable first :=
    .join .conjunction (.join .conjunction sizeReadable knownReadable) eitherReadable
  have secondReadable : IsReadable second :=
    .join .conjunction sizeReadable (.join .conjunction knownReadable eitherReadable)
  have same : first.text = second.text := by decide +kernel
  obtain ⟨regroups, answers⟩ := regroups_iff_text_eq firstReadable secondReadable
  exact ⟨firstReadable, secondReadable, same, regroups.mp same, answers same "b"⟩

-- A presence test of a conjunction is written like one of its right operand, and answers otherwise.
example :
    let whole := isPresent (and (param "b") (param "c"))
    let right := and (param "b") (isPresent (param "c"))
    whole.text = right.text ∧ whole.test "b" (fun _ => .absent) = true ∧
      right.test "b" (fun _ => .absent) = false := by
  decide

end RecordSearch.Expr
