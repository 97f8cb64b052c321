import Mathlib.Data.List.Basic
import RecordSearch.Text.Quoted

/-!
# Quoted texts are read back

What is escaped can be told apart: the characters of one escape are never the first characters of
another, and none begins with the quote that ends a text. A quoted text tells the text it was made of,
and where it ends, whatever stands behind it.

## Main result

`eq_of_quoted_append`: quoted texts with the same characters are of one text.
-/
namespace RecordSearch.Text

/-- Characters of one kind end where others begin. -/
theorem eq_of_stretch_append {p : Char → Bool} {stretch stretch' left right : List Char}
    (kind : ∀ c ∈ stretch, p c = true) (kind' : ∀ c ∈ stretch', p c = true)
    (ends : left.head?.all (!p ·) = true) (ends' : right.head?.all (!p ·) = true)
    (same : stretch ++ left = stretch' ++ right) : stretch = stretch' ∧ left = right := by
  have takes : ∀ {stretch behind : List Char}, (∀ c ∈ stretch, p c = true) →
      behind.head?.all (!p ·) = true → (stretch ++ behind).takeWhile p = stretch := by
    intro stretch behind kind ends
    have none : behind.takeWhile p = [] := by
      cases behind with
      | nil => rfl
      | cons c rest => exact List.takeWhile_cons_of_neg (by simpa using ends)
    rw [List.takeWhile_append_of_pos kind, none, List.append_nil]
  have first : stretch = stretch' := by
    rw [← takes kind ends, same, takes kind' ends']
  exact ⟨first, List.append_cancel_left (first ▸ same)⟩

/-! ### Hexadecimal digits -/

theorem forall_mem_toDigits {P : Char → Prop} (each : ∀ digit < 16, P (Nat.digitChar digit))
    (n : Nat) : ∀ c ∈ Nat.toDigits 16 n, P c := by
  induction n using Nat.strongRecOn with
  | ind n ih =>
    rw [Nat.toDigits_eq_if (by decide)]
    split
    next small => exact List.forall_mem_singleton.mpr (each n small)
    next large =>
      rw [List.forall_mem_append]
      refine ⟨ih (n / 16) (by omega), List.forall_mem_singleton.mpr ?_⟩
      exact each (n % 16) (Nat.mod_lt n (by decide))

theorem digitChar_inj : ∀ m < 16, ∀ n < 16, Nat.digitChar m = Nat.digitChar n → m = n := by
  decide

/-- The last digit, and the others in front of it. -/
theorem toDigits_eq_append (n : Nat) :
    Nat.toDigits 16 n =
      (if n < 16 then [] else Nat.toDigits 16 (n / 16)) ++ [Nat.digitChar (n % 16)] := by
  rw [Nat.toDigits_eq_if (by decide)]
  split
  next small => rw [Nat.mod_eq_of_lt small, List.nil_append]
  next large => rfl

theorem toDigits_injective : Function.Injective (Nat.toDigits 16) := by
  intro m n same
  induction m using Nat.strongRecOn generalizing n with
  | ind m ih =>
    rw [toDigits_eq_append m, toDigits_eq_append n] at same
    obtain ⟨others, lastDigit⟩ := List.append_inj' same rfl
    have last : m % 16 = n % 16 :=
      digitChar_inj _ (Nat.mod_lt m (by decide)) _ (Nat.mod_lt n (by decide))
        (List.singleton_inj.mp lastDigit)
    by_cases small : m < 16 <;> by_cases small' : n < 16
    · omega
    · rw [if_pos small, if_neg small'] at others
      exact absurd others.symm Nat.toDigits_ne_nil
    · rw [if_neg small, if_pos small'] at others
      exact absurd others Nat.toDigits_ne_nil
    · rw [if_neg small, if_neg small'] at others
      have front : m / 16 = n / 16 := ih (m / 16) (by omega) others
      omega

/-! ### Escapes -/

/-- The characters that are written with a letter, each with its letter. -/
def escapeLetters : List (Char × Char) :=
  [('\x00', '0'), ('\t', 't'), ('\r', 'r'), ('\n', 'n'), ('\\', '\\'), ('"', '"')]

theorem mem_escapeLetters {c letter : Char} (written : escapeLetter? c = some letter) :
    (c, letter) ∈ escapeLetters := by
  unfold escapeLetter? at written
  split at written <;> simp_all [escapeLetters, eq_comm]

/-- Each letter stands for one character, and none is the one that announces a code point. -/
theorem escapeLetters_apart :
    (∀ one ∈ escapeLetters, ∀ other ∈ escapeLetters, one.2 = other.2 → one.1 = other.1) ∧
      ∀ one ∈ escapeLetters, one.2 ≠ 'u' := by
  decide

/-- How a character is written: with a letter, as it is, or as its code point. -/
inductive Escaped (c : Char) : List Char → Prop
  | letter {letter : Char} (member : (c, letter) ∈ escapeLetters) : Escaped c ['\\', letter]
  | plain (noQuote : c ≠ '"') (noBackslash : c ≠ '\\') : Escaped c [c]
  | code : Escaped c ('\\' :: 'u' :: '\x7b' :: (Nat.toDigits 16 c.toNat ++ ['\x7d']))

theorem escaped_escape (c : Char) : Escaped c (escape c) := by
  unfold escape
  split
  next letter written => exact .letter (mem_escapeLetters written)
  next unwritten =>
    split
    · refine .plain ?_ ?_
      · rintro rfl
        cases unwritten
      · rintro rfl
        cases unwritten
    · exact .code

/-- The digits of a code point end with the brace behind them. -/
theorem eq_of_toDigits_append {m n : Nat} {left right : List Char}
    (same : Nat.toDigits 16 m ++ '\x7d' :: left = Nat.toDigits 16 n ++ '\x7d' :: right) :
    m = n ∧ left = right := by
  have noBrace (n : Nat) : ∀ c ∈ Nat.toDigits 16 n, (c != '\x7d') = true :=
    forall_mem_toDigits (by decide) n
  obtain ⟨digits, behind⟩ := eq_of_stretch_append (noBrace m) (noBrace n) rfl rfl same
  exact ⟨toDigits_injective digits, (List.cons.inj behind).2⟩

/-- What is written tells the character and where it ends. -/
theorem Escaped.eq_of_append {c d : Char} {first second left right : List Char}
    (escaped : Escaped c first) (escaped' : Escaped d second)
    (same : first ++ left = second ++ right) : c = d ∧ left = right := by
  obtain ⟨apart, noCode⟩ := escapeLetters_apart
  -- The first two characters tell in which of the three ways it is written.
  cases escaped with
  | letter member =>
    cases escaped' with
    | letter member' =>
      simp only [List.cons_append, List.nil_append, List.cons.injEq, true_and] at same
      exact ⟨apart _ member _ member' same.1, same.2⟩
    | plain noQuote noBackslash => exact absurd (List.cons.inj same).1.symm noBackslash
    | code => exact absurd (List.cons.inj (List.cons.inj same).2).1 (noCode _ member)
  | plain noQuote noBackslash =>
    cases escaped' with
    | letter member' => exact absurd (List.cons.inj same).1 noBackslash
    | plain => exact List.cons.inj same
    | code => exact absurd (List.cons.inj same).1 noBackslash
  | code =>
    cases escaped' with
    | letter member' => exact absurd (List.cons.inj (List.cons.inj same).2).1.symm (noCode _ member')
    | plain noQuote noBackslash => exact absurd (List.cons.inj same).1.symm noBackslash
    | code =>
      simp only [List.cons_append, List.append_assoc, List.nil_append, List.cons.injEq,
        true_and] at same
      obtain ⟨code, rest⟩ := eq_of_toDigits_append same
      exact ⟨Char.toNat_inj.mp code, rest⟩

theorem Escaped.ne_quote {c : Char} {written left right : List Char} (escaped : Escaped c written) :
    written ++ left ≠ '"' :: right := by
  intro same
  cases escaped with
  | letter member => cases (List.cons.inj same).1
  | plain noQuote noBackslash => exact noQuote (List.cons.inj same).1
  | code => cases (List.cons.inj same).1

/-! ### Texts -/

theorem eq_of_flatMap_escape_append {text text' left right : List Char}
    (same : text.flatMap escape ++ '"' :: left = text'.flatMap escape ++ '"' :: right) :
    text = text' ∧ left = right := by
  induction text generalizing text' with
  | nil =>
    cases text' with
    | nil => exact ⟨rfl, (List.cons.inj same).2⟩
    | cons d rest' =>
      rw [List.flatMap_cons, List.append_assoc] at same
      exact absurd same.symm (escaped_escape d).ne_quote
  | cons c rest ih =>
    rw [List.flatMap_cons, List.append_assoc] at same
    cases text' with
    | nil => exact absurd same (escaped_escape c).ne_quote
    | cons d rest' =>
      rw [List.flatMap_cons, List.append_assoc] at same
      obtain ⟨rfl, others⟩ := (escaped_escape c).eq_of_append (escaped_escape d) same
      obtain ⟨rfl, behind⟩ := ih others
      exact ⟨rfl, behind⟩

/-- A quoted text tells the text it was made of and where it ends. -/
theorem eq_of_quoted_append {text text' : String} {left right : List Char}
    (same : (quoted text).toList ++ left = (quoted text').toList ++ right) :
    text = text' ∧ left = right := by
  simp only [toList_quoted, List.cons_append, List.append_assoc, List.nil_append, List.cons.injEq,
    true_and] at same
  obtain ⟨characters, behind⟩ := eq_of_flatMap_escape_append same
  exact ⟨String.toList_injective characters, behind⟩

end RecordSearch.Text
