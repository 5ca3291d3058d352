import DefaultArgs.Decimal.Reading
import Mathlib.Data.Int.Notation
import Mathlib.Data.List.Induction
import Mathlib.Data.Nat.Notation

/-!
# Whole numbers in decimal digits

Digits spell a number from the left: each one counts ten times as much as the next. A sign in front
of them gives an integer. These two rules are all that is read, so every text spells one integer at
most, and every integer is spelled by its own decimal text.

## Main definitions

* `Numeral text n`: the digits `text` spell the number `n`
* `SignedNumeral text z`: an optional sign and digits spell the integer `z`

## Main results

* `readDigits_eq_some_iff`, `readInt_eq_some_iff`: exactly the spelled numbers are read
* `signedNumeral_toString`: an integer is spelled by its own text
-/

namespace DefaultArgs

/-- **One or more digits spell a number**, the most significant first. -/
inductive Numeral : List Char → ℕ → Prop
  | single {c : Char} (digit : c.isDigit) : Numeral [c] (c.toNat - '0'.toNat)
  | snoc {text : List Char} {n : ℕ} {c : Char} (front : Numeral text n) (digit : c.isDigit) :
      Numeral (text ++ [c]) (10 * n + (c.toNat - '0'.toNat))

/-- **An optional sign and digits spell an integer.** -/
inductive SignedNumeral : List Char → ℤ → Prop
  | bare {text : List Char} {n : ℕ} (digits : Numeral text n) : SignedNumeral text n
  | plus {text : List Char} {n : ℕ} (digits : Numeral text n) : SignedNumeral ('+' :: text) n
  | minus {text : List Char} {n : ℕ} (digits : Numeral text n) : SignedNumeral ('-' :: text) (-n)

variable {text rest : List Char} {n : ℕ} {z : ℤ} {c : Char}

section Digits

theorem Numeral.ne_nil (spelled : Numeral text n) : text ≠ [] := by
  cases spelled <;> simp

theorem Numeral.isDigit (spelled : Numeral text n) : ∀ c ∈ text, c.isDigit := by
  induction spelled with
  | single digit => simpa using digit
  | snoc _ digit ih => exact List.forall_mem_append.2 ⟨ih, List.forall_mem_singleton.2 digit⟩

theorem Numeral.exists_last (spelled : Numeral text n) :
    ∃ front c, text = front ++ [c] ∧ c.isDigit := by
  cases spelled with
  | single digit => exact ⟨[], _, rfl, digit⟩
  | snoc _ digit => exact ⟨_, _, rfl, digit⟩

theorem Numeral.ofDigitChars_eq (spelled : Numeral text n) : Nat.ofDigitChars 10 text 0 = n := by
  induction spelled with
  | single => simp [Nat.ofDigitChars_cons]
  | snoc _ _ ih => rw [Nat.ofDigitChars_append, ih, Nat.ofDigitChars_cons, Nat.ofDigitChars_nil]

/-- All digits spell something. A number is built up from the left, so the induction is on the last
digit. -/
theorem numeral_ofDigitChars (nonempty : text ≠ []) (digits : ∀ c ∈ text, c.isDigit) :
    Numeral text (Nat.ofDigitChars 10 text 0) := by
  obtain ⟨front, c, rfl⟩ := text.eq_nil_or_concat.resolve_left nonempty
  rw [List.concat_eq_append] at digits ⊢
  clear nonempty
  induction front using List.reverseRecOn generalizing c with
  | nil => simpa [Nat.ofDigitChars_cons] using Numeral.single (digits c (by simp))
  | append_singleton front d ih =>
    obtain ⟨before, last⟩ := List.forall_mem_append.1 digits
    rw [Nat.ofDigitChars_append, Nat.ofDigitChars_cons, Nat.ofDigitChars_nil]
    exact (ih d before).snoc (last c (by simp))

theorem readDigits_eq_some_iff : readDigits text = some n ↔ Numeral text n := by
  unfold readDigits
  constructor
  · intro read
    split at read
    · next digits =>
      obtain rfl := Option.some.inj read
      exact numeral_ofDigitChars digits.1 (List.all_eq_true.1 digits.2)
    · cases read
  · intro spelled
    rw [if_pos ⟨spelled.ne_nil, List.all_eq_true.2 spelled.isDigit⟩, spelled.ofDigitChars_eq]

theorem numeral_toDigits (n : ℕ) : Numeral (Nat.toDigits 10 n) n := by
  have spelled : Numeral (Nat.toDigits 10 n) _ := numeral_ofDigitChars Nat.toDigits_ne_nil
    fun c mem => Nat.isDigit_of_mem_toDigits (by decide) (by decide) mem
  rwa [Nat.ofDigitChars_ten_toDigits] at spelled

end Digits

section Signs

/-- The three ways in which a sign can be taken. -/
theorem takeSign_cases (text : List Char) :
    (∃ rest, text = '-' :: rest ∧ takeSign text = (true, rest)) ∨
      (∃ rest, text = '+' :: rest ∧ takeSign text = (false, rest)) ∨
      takeSign text = (false, text) := by
  unfold takeSign
  split
  · exact .inl ⟨_, rfl, rfl⟩
  · exact .inr (.inl ⟨_, rfl, rfl⟩)
  · exact .inr (.inr rfl)

/-- A digit is no sign. -/
theorem takeSign_of_isDigit (digit : c.isDigit) :
    takeSign (c :: rest) = (false, c :: rest) := by
  rcases takeSign_cases (c :: rest) with ⟨_, eq, -⟩ | ⟨_, eq, -⟩ | unsigned
  · obtain rfl := (List.cons.inj eq).1
    cases digit
  · obtain rfl := (List.cons.inj eq).1
    cases digit
  · exact unsigned

theorem Numeral.takeSign_eq (spelled : Numeral text n) : takeSign text = (false, text) := by
  cases text with
  | nil => exact absurd rfl spelled.ne_nil
  | cons c rest => exact takeSign_of_isDigit (spelled.isDigit c List.mem_cons_self)

theorem readInt_of_takeSign {negative : Bool} (taken : takeSign text = (negative, rest)) :
    readInt text = (readDigits rest).map fun n : ℕ => if negative then -(n : ℤ) else n := by
  simp only [readInt, taken]
  cases readDigits rest <;> rfl

theorem readInt_eq_some_iff : readInt text = some z ↔ SignedNumeral text z := by
  constructor
  · intro read
    rcases takeSign_cases text with ⟨rest, rfl, taken⟩ | ⟨rest, rfl, taken⟩ | taken
    all_goals
      rw [readInt_of_takeSign taken] at read
      obtain ⟨n, digits, rfl⟩ := Option.map_eq_some_iff.1 read
      rw [readDigits_eq_some_iff] at digits
    · exact .minus digits
    · exact .plus digits
    · exact .bare digits
  · intro spelled
    cases spelled with
    | bare digits =>
      rw [readInt_of_takeSign digits.takeSign_eq, readDigits_eq_some_iff.2 digits]
      rfl
    | @plus text n digits =>
      have taken : takeSign ('+' :: text) = (false, text) := rfl
      rw [readInt_of_takeSign taken, readDigits_eq_some_iff.2 digits]
      rfl
    | @minus text n digits =>
      have taken : takeSign ('-' :: text) = (true, text) := rfl
      rw [readInt_of_takeSign taken, readDigits_eq_some_iff.2 digits]
      rfl

/-- **An integer is spelled by its own text.** -/
theorem signedNumeral_toString (z : ℤ) : SignedNumeral (toString z).toList z := by
  cases z with
  | ofNat n =>
    show SignedNumeral n.repr.toList n
    rw [Nat.toList_repr]
    exact .bare (numeral_toDigits n)
  | negSucc n =>
    show SignedNumeral ("-" ++ (n + 1).repr).toList (-((n + 1 : ℕ) : ℤ))
    rw [String.toList_append, Nat.toList_repr]
    exact .minus (numeral_toDigits (n + 1))

/-- The last character of a spelled integer is a digit. -/
theorem SignedNumeral.exists_last (spelled : SignedNumeral text z) :
    ∃ front c, text = front ++ [c] ∧ c.isDigit := by
  cases spelled with
  | bare digits => exact digits.exists_last
  | plus digits | minus digits =>
    obtain ⟨front, c, rfl, digit⟩ := digits.exists_last
    exact ⟨_ :: front, c, rfl, digit⟩

end Signs

end DefaultArgs
