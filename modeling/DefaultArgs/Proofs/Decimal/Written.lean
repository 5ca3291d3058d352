import DefaultArgs.Decimal.Layout
import DefaultArgs.Proofs.Decimal.Numerals
import DefaultArgs.Proofs.Decimal.Rounding
import Mathlib.Data.List.DropRight

/-!
# Written decimals read back

A decimal is written with a full stop among its significant digits, with zeros beside them, or with
an exponent. What is read from such a text is seldom the same decimal, for a zero before or behind
the digits changes the exponent too. It always has the same size, and the size is all that rounding
needs. So a floating-point number that is written by its shortest decimal is read as the same
number.

## Main definitions

* `ExponentText text x`: the text is empty or writes the exponent `x` behind a letter
* `DecimalText text d`: the text writes the decimal `d` with its digits, full stop and exponent

## Main results

* `DecimalText.read_eq`: what is written by these rules is read
* `exists_decimalText_layout`: a decimal is written by these rules, in some form of its size
* `Floating.read_text`: the text of a finite number is read as this number
-/

namespace DefaultArgs

/-- **The exponent at the end of a decimal**: nothing, or a letter and an integer. -/
inductive ExponentText : List Char → ℤ → Prop
  | none : ExponentText [] 0
  | letter (x : ℤ) : ExponentText ('e' :: (toString x).toList) x

/-- **The text of a decimal without its sign**: digits, with a full stop among them or without one,
and an exponent. -/
inductive DecimalText : List Char → Decimal → Prop
  | whole {digits rest : List Char} {n : ℕ} {x : ℤ} (spelled : Numeral digits n)
      (exponent : ExponentText rest x) : DecimalText (digits ++ rest) ⟨false, n, x⟩
  | point {whole fraction rest : List Char} {n : ℕ} {x : ℤ} (before : whole ≠ [])
      (behind : fraction ≠ []) (spelled : Numeral (whole ++ fraction) n)
      (exponent : ExponentText rest x) :
      DecimalText (whole ++ '.' :: (fraction ++ rest)) ⟨false, n, x - fraction.length⟩

variable {text rest digits : List Char} {m n k : ℕ} {x y : ℤ} {d : Decimal}

section Reading

/-- The digits in front of something else. -/
theorem span_isDigit (front : ∀ c ∈ digits, c.isDigit) (stop : ∀ c ∈ rest.head?, ¬c.isDigit) :
    (digits ++ rest).span Char.isDigit = (digits, rest) := by
  rw [List.span_eq_takeWhile_dropWhile, List.takeWhile_append_of_pos front,
    List.dropWhile_append_of_pos front]
  cases rest with
  | nil => simp
  | cons c rest => simp [stop c rfl]

theorem ExponentText.read_eq (exponent : ExponentText rest x) :
    Decimal.readExponent rest = some x := by
  cases exponent with
  | none => rfl
  | letter =>
    show (if 'e' = 'e' ∨ 'e' = 'E' then readInt (toString x).toList else Option.none) = some x
    rw [if_pos (.inl rfl), readInt_eq_some_iff.2 (signedNumeral_toString x)]

/-- An exponent starts with its letter, so the digits in front of it end there. -/
theorem ExponentText.not_isDigit (exponent : ExponentText rest x) :
    ∀ c ∈ rest.head?, ¬c.isDigit := by
  intro c first
  cases exponent with
  | none => cases first
  | letter =>
    obtain rfl := Option.some.inj first
    decide

/-- A minus sign is taken, and no other sign stands in front of digits. -/
theorem takeSign_append (negative : Bool) (nonempty : digits ≠ [])
    (front : ∀ c ∈ digits, c.isDigit) :
    takeSign ((if negative then ['-'] else []) ++ (digits ++ rest)) =
      (negative, digits ++ rest) := by
  obtain ⟨c, behind, rfl⟩ := List.exists_cons_of_ne_nil nonempty
  cases negative with
  | true => rfl
  | false => exact takeSign_of_isDigit (front c List.mem_cons_self)

/-- **What is written is read**, behind a minus sign or without one. -/
theorem DecimalText.read_eq (written : DecimalText text d) (negative : Bool) :
    Decimal.read ((if negative then ['-'] else []) ++ text) = some { d with negative } := by
  cases written with
  | @whole digits rest n x spelled exponent =>
    have noFraction : Decimal.takeFraction rest = ([], rest) := by
      cases exponent with
      | none => rfl
      | letter => rfl
    simp only [Decimal.read, takeSign_append negative spelled.ne_nil spelled.isDigit,
      span_isDigit spelled.isDigit exponent.not_isDigit, noFraction, List.append_nil,
      spelled.ne_nil, exponent.read_eq, spelled.ofDigitChars_eq, if_false]
    simp
  | @point whole fraction rest n x before behind spelled exponent =>
    obtain ⟨digits_whole, digits_fraction⟩ := List.forall_mem_append.1 spelled.isDigit
    have point : ∀ c ∈ ('.' :: (fraction ++ rest)).head?, ¬c.isDigit := by
      intro c first
      obtain rfl := Option.some.inj first
      decide
    simp only [Decimal.read, takeSign_append negative before digits_whole,
      span_isDigit digits_whole point, Decimal.takeFraction,
      span_isDigit digits_fraction exponent.not_isDigit, spelled.ne_nil, exponent.read_eq,
      spelled.ofDigitChars_eq, if_false]
    rfl

/-- A written decimal ends in a digit. It is the last one of the exponent, or of the digits if there
is no exponent. -/
theorem DecimalText.exists_last (written : DecimalText text d) :
    ∃ front c, text = front ++ [c] ∧ c.isDigit := by
  have ending : ∀ front {rest x} {c : Char}, ExponentText rest x → c.isDigit →
      ∃ front' c', front ++ c :: rest = front' ++ [c'] ∧ c'.isDigit := by
    intro front rest x c exponent digit
    cases exponent with
    | none => exact ⟨front, c, rfl, digit⟩
    | letter =>
      obtain ⟨behind, c', split, digit'⟩ := (signedNumeral_toString x).exists_last
      exact ⟨front ++ c :: 'e' :: behind, c', by rw [split]; simp, digit'⟩
  cases written with
  | @whole digits rest n x spelled exponent =>
    obtain ⟨front, c, rfl⟩ := (List.eq_nil_or_concat digits).resolve_left spelled.ne_nil
    have digit := spelled.isDigit c (by simp)
    simpa using ending front exponent digit
  | @point whole fraction rest n x before behind spelled exponent =>
    obtain ⟨front, c, rfl⟩ := (List.eq_nil_or_concat fraction).resolve_left behind
    have digit := spelled.isDigit c (by simp)
    simpa using ending (whole ++ '.' :: front) exponent digit

end Reading

section Zeros

/-- Zeros in front count nothing. -/
theorem Numeral.replicate_zero_append (spelled : Numeral text n) (k : ℕ) :
    Numeral (List.replicate k '0' ++ text) n := by
  have digits : ∀ c ∈ List.replicate k '0' ++ text, c.isDigit := by
    refine List.forall_mem_append.2 ⟨fun c mem => ?_, spelled.isDigit⟩
    rw [List.eq_of_mem_replicate mem]
    rfl
  have same := numeral_ofDigitChars (by simp [spelled.ne_nil]) digits
  rwa [Nat.ofDigitChars_append, Nat.ofDigitChars_replicate_zero, mul_zero,
    spelled.ofDigitChars_eq] at same

/-- Each zero at the end counts ten times. -/
theorem Numeral.append_replicate_zero (spelled : Numeral text n) (k : ℕ) :
    Numeral (text ++ List.replicate k '0') (n * 10 ^ k) := by
  induction k with
  | zero => simpa using spelled
  | succ k ih =>
    have next := ih.snoc (c := '0') rfl
    rw [List.append_assoc, ← List.replicate_succ'] at next
    convert next using 1
    simp only [Nat.sub_self, Nat.add_zero]
    ring

/-- Zeros at the end of the digits can be counted by the exponent. -/
theorem Decimal.size_mul_ten_pow (place : x + k = y) :
    Decimal.size ⟨false, n * 10 ^ k, x⟩ = n * 10 ^ y := by
  rw [← place, Decimal.size, zpow_add₀ (by norm_num), zpow_natCast]
  push_cast
  ring

theorem Decimal.size_mk (place : x = y) : Decimal.size ⟨false, n, x⟩ = n * 10 ^ y := by
  rw [← place, Decimal.size]

/-- **The significant digits of a number** spell all but a power of ten. The power counts the zeros
that are left out. Something is left, for the digits of no positive number are all zero. -/
theorem exists_significant (positive : n ≠ 0) : ∃ m zeros, Numeral (Decimal.significant n) m ∧
    n = m * 10 ^ zeros ∧
      (Nat.toDigits 10 n).length = (Decimal.significant n).length + zeros := by
  have split : (Nat.toDigits 10 n).rdropWhile (· = '0') ++
      (Nat.toDigits 10 n).rtakeWhile (· = '0') = Nat.toDigits 10 n :=
    List.rdropWhile_append_rtakeWhile
  obtain ⟨zeros, behind⟩ :
      ∃ zeros, (Nat.toDigits 10 n).rtakeWhile (· = '0') = List.replicate zeros '0' := by
    refine ⟨_, List.eq_replicate_iff.2 ⟨rfl, fun c mem => ?_⟩⟩
    simpa using List.mem_rtakeWhile_imp mem
  rw [behind] at split
  have value := (numeral_toDigits n).ofDigitChars_eq
  have nonempty : (Nat.toDigits 10 n).rdropWhile (· = '0') ≠ [] := by
    intro none
    rw [← split, none, List.nil_append, Nat.ofDigitChars_replicate_zero, mul_zero] at value
    exact positive value.symm
  have kept : Decimal.significant n = (Nat.toDigits 10 n).rdropWhile (· = '0') := by
    unfold Decimal.significant
    split
    · next none => exact absurd none nonempty
    · rfl
  rw [← kept] at split nonempty
  have digits : ∀ c ∈ Decimal.significant n, c.isDigit := by
    intro c mem
    apply (numeral_toDigits n).isDigit c
    rw [← split]
    exact List.mem_append_left _ mem
  refine ⟨_, zeros, numeral_ofDigitChars nonempty digits, ?_, ?_⟩
  · rw [← split, Nat.ofDigitChars_append, Nat.ofDigitChars_replicate_zero, mul_comm] at value
    exact value.symm
  · rw [← split, List.length_append, List.length_replicate]

end Zeros

section Layout

/-- A full stop among the digits and zeros around them give the first digit its place. -/
theorem exists_decimalText_positional (spelled : Numeral digits m) (leading : ℤ) :
    ∃ d, DecimalText (Decimal.positional digits leading) d ∧
      d.size = m * 10 ^ (leading + 1 - digits.length) := by
  cases leading with
  | negSucc zeros =>
    have written : DecimalText (['0'] ++ '.' :: (List.replicate zeros '0' ++ digits ++ [])) _ :=
      .point (by simp) (by simp [spelled.ne_nil]) (spelled.replicate_zero_append (zeros + 1)) .none
    rw [List.append_nil] at written
    refine ⟨_, written, Decimal.size_mk ?_⟩
    rw [List.length_append, List.length_replicate]
    omega
  | ofNat last =>
    simp only [Decimal.positional]
    rcases le_or_gt digits.length (last + 1) with short | long
    · have filled := spelled.append_replicate_zero (last + 1 - digits.length + 1)
      rw [List.replicate_succ', ← List.append_assoc] at filled
      have written := DecimalText.point (by simp [spelled.ne_nil]) (by simp) filled .none
      rw [List.append_nil] at written
      rw [List.take_of_length_le short, List.drop_of_length_le short, if_pos rfl]
      refine ⟨_, written, Decimal.size_mul_ten_pow ?_⟩
      rw [List.length_singleton, Int.ofNat_eq_natCast]
      omega
    · have before : (digits.take (last + 1)).length = last + 1 :=
        List.length_take_of_le long.le
      have behind : digits.drop (last + 1) ≠ [] := by
        rw [Ne, List.drop_eq_nil_iff]
        omega
      have split : Numeral (digits.take (last + 1) ++ digits.drop (last + 1)) m := by
        rwa [List.take_append_drop]
      have written := DecimalText.point (List.ne_nil_of_length_eq_add_one before) behind split .none
      rw [List.append_nil] at written
      rw [before, Nat.sub_self, List.replicate_zero, List.append_nil, if_neg behind]
      refine ⟨_, written, Decimal.size_mk ?_⟩
      rw [List.length_drop, Int.ofNat_eq_natCast]
      omega

/-- An exponent gives the first digit its place. -/
theorem exists_decimalText_scientific (spelled : Numeral digits m) (leading : ℤ) :
    ∃ d, DecimalText (Decimal.scientific digits leading) d ∧
      d.size = m * 10 ^ (leading + 1 - digits.length) := by
  match digits, spelled with
  | [], spelled => exact absurd rfl spelled.ne_nil
  | [c], spelled =>
    refine ⟨_, .whole spelled (.letter leading), Decimal.size_mk ?_⟩
    rw [List.length_singleton]
    omega
  | first :: second :: rest, spelled =>
    have written : DecimalText ([first] ++ '.' :: (second :: rest ++ _)) _ :=
      .point (by simp) (by simp) spelled (.letter leading)
    refine ⟨_, written, Decimal.size_mk ?_⟩
    simp only [List.length_cons]
    omega

/-- **A decimal is written in some form of its size.** The zeros that are left out are counted by
the place of the first digit. -/
theorem exists_decimalText_layout (d : Decimal) :
    ∃ d', DecimalText d.layout d' ∧ d'.size = d.size := by
  unfold Decimal.layout
  by_cases zero : d.digits = 0
  · have written : DecimalText (['0'] ++ '.' :: (['0'] ++ [])) _ :=
      .point (by simp) (by simp) ((numeral_toDigits 0).append_replicate_zero 1) .none
    rw [if_pos zero]
    refine ⟨_, written, ?_⟩
    rw [Decimal.size, Decimal.size, zero, Nat.zero_mul, Nat.cast_zero, zero_mul, zero_mul]
  · obtain ⟨m, zeros, spelled, value, length⟩ := exists_significant zero
    have size : d.size = m * 10 ^ ((Nat.toDigits 10 d.digits).length - 1 + d.exponent + 1 -
        (Decimal.significant d.digits).length) := by
      rw [← Decimal.size_mul_ten_pow (x := d.exponent) (k := zeros) (by omega), ← value]
      rfl
    rw [if_neg zero, size]
    split
    · exact exists_decimalText_positional spelled _
    · exact exists_decimalText_scientific spelled _

end Layout

section Floating

variable {f : FloatFormat} {x : Floating f}

/-- The text of a finite number: a minus sign or none, and its shortest decimal. -/
theorem Floating.toList_text (finite : x.isFinite) :
    x.text.toList = (if x.negative then ['-'] else []) ++ (f.shortest x.magnitude).layout := by
  have below : x.magnitude < f.infinity := of_decide_eq_true finite
  rw [Floating.text, if_neg below.not_gt, if_neg below.ne, String.toList_append,
    String.toList_ofList]
  congr 1
  split <;> rfl

/-- **The text of a finite number is read as this number.** -/
theorem Floating.read_text (finite : x.isFinite) :
    (Decimal.read x.text.toList).map (Floating.ofDecimal f) = some x := by
  obtain ⟨d, written, size⟩ := exists_decimalText_layout (f.shortest x.magnitude)
  have magnitude : f.ofDecimal { d with negative := x.negative } = x.magnitude := by
    calc f.ofDecimal { d with negative := x.negative } = f.ofDecimal (f.shortest x.magnitude) :=
          FloatFormat.ofDecimal_congr size
      _ = x.magnitude := FloatFormat.ofDecimal_shortest (of_decide_eq_true finite)
  rw [Floating.toList_text finite, written.read_eq x.negative, Option.map_some, Floating.ofDecimal,
    magnitude]

/-- The text of a finite number ends in a digit. -/
theorem Floating.exists_last_text (finite : x.isFinite) :
    ∃ front c, x.text.toList = front ++ [c] ∧ c.isDigit := by
  obtain ⟨d, written, -⟩ := exists_decimalText_layout (f.shortest x.magnitude)
  obtain ⟨front, c, split, digit⟩ := written.exists_last
  refine ⟨(if x.negative then ['-'] else []) ++ front, c, ?_, digit⟩
  rw [Floating.toList_text finite, split, List.append_assoc]

end Floating

end DefaultArgs
