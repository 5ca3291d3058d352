import DefaultArgs.Default.Reading
import DefaultArgs.Proofs.Decimal.Numerals
import Mathlib.Algebra.Group.Int.Defs

/-!
# Which texts are literals of whole numbers

The four types of whole numbers share one grammar: an optional sign, digits, and one marker at most.
The marker means nothing, so `5L` is a literal of every one of them. What tells the types apart is
their range, and the range is all that can refuse a text of the grammar. A refusal names the text as
it was given, together with its marker.

## Main definitions

* `IntegerText text z`: the text is in the grammar and spells `z`
* `Primitive.bits? kind`: the width of a type of whole numbers
* `InRange bits z`: a word of this width holds `z`
* `Literal.integer? v`: the whole number that a literal holds

## Main results

* `readInt_dropMarker_eq_some_iff`: exactly the grammar is read
* `Literal.read_eq_ok_iff`, `Literal.read_eq_error_iff`: reading beside the two texts that stand for
  themselves
* `Primitive.read?_eq_some_iff_of_bits`, `Primitive.read?_eq_none_iff_of_bits`: the literals of
  whole numbers
* `Literal.read_integer_iff`: when such a literal is read, and how it is refused
-/

namespace DefaultArgs

/-- **The text of a whole number**: an optional sign and digits, with at most one marker behind
them. -/
inductive IntegerText : List Char → ℤ → Prop
  | plain {text : List Char} {z : ℤ} (spelled : SignedNumeral text z) : IntegerText text z
  | marked {text : List Char} {z : ℤ} {c : Char} (spelled : SignedNumeral text z)
      (marker : isMarker c) : IntegerText (text ++ [c]) z

/-- The width of a type of whole numbers. -/
def Primitive.bits? : Primitive → Option ℕ
  | byte => some 8
  | short => some 16
  | int => some 32
  | long => some 64
  | boolean | char | float | double => none

/-- A word of the given width holds the integer, in two's complement. -/
def InRange (bits : ℕ) (z : ℤ) : Prop :=
  -2 ^ (bits - 1) ≤ z ∧ z < 2 ^ (bits - 1)

/-- The whole number that a literal holds. -/
def Literal.integer? : Literal → Option ℤ
  | byte value => some value.toInt
  | short value => some value.toInt
  | int value => some value.toInt
  | long value => some value.toInt
  | null | boolean _ | char _ | float _ | double _ | string _ | verbatim _ => none

variable {text : List Char} {z : ℤ} {c : Char} {bits : ℕ} {kind : Primitive} {ty : ValueType}
  {v : Literal} {e : LiteralError}

section Markers

theorem not_isMarker_of_isDigit (digit : c.isDigit) : ¬isMarker c := by
  intro marker
  simp only [isMarker, List.mem_cons, List.not_mem_nil, or_false, decide_eq_true_eq] at marker
  rcases marker with rfl | rfl | rfl | rfl | rfl | rfl <;> cases digit

theorem dropMarker_concat_of_isMarker (marker : isMarker c) : dropMarker (text ++ [c]) = text := by
  simp [dropMarker, marker]

theorem dropMarker_concat_of_isDigit (digit : c.isDigit) :
    dropMarker (text ++ [c]) = text ++ [c] := by
  simp [dropMarker, not_isMarker_of_isDigit digit]

/-- A marker is dropped, or the text stays as it is. -/
theorem dropMarker_cases (text : List Char) :
    (∃ c, isMarker c ∧ text = dropMarker text ++ [c]) ∨ dropMarker text = text := by
  rcases List.eq_nil_or_concat text with rfl | ⟨front, c, rfl⟩
  · exact .inr rfl
  · rw [List.concat_eq_append]
    cases marker : isMarker c with
    | true => exact .inl ⟨c, marker, by rw [dropMarker_concat_of_isMarker marker]⟩
    | false => exact .inr (by simp [dropMarker, marker])

/-- A whole number is read behind a marker or without one: its text ends in a digit, which no marker
is. -/
theorem readInt_dropMarker_eq_some_iff :
    readInt (dropMarker text) = some z ↔ IntegerText text z := by
  rw [readInt_eq_some_iff]
  constructor
  · intro spelled
    rcases dropMarker_cases text with ⟨c, marker, split⟩ | same
    · rw [split]
      exact .marked spelled marker
    · exact .plain (same ▸ spelled)
  · intro written
    cases written with
    | plain spelled =>
      obtain ⟨front, c, rfl, digit⟩ := spelled.exists_last
      rwa [dropMarker_concat_of_isDigit digit]
    | marked spelled marker => rwa [dropMarker_concat_of_isMarker marker]

theorem readBounded?_eq_some_iff {text : String} :
    readBounded? bits text = some z ↔ IntegerText text.toList z ∧ InRange bits z := by
  have bound : ((Nat.pow 2 (bits - 1) : ℕ) : ℤ) = 2 ^ (bits - 1) := by
    exact Int.natCast_pow 2 (bits - 1)
  rw [readBounded?, Option.filter_eq_some_iff, readInt_dropMarker_eq_some_iff, bound, InRange,
    decide_eq_true_eq]

end Markers

section Words

/-- Words of a width hold exactly the integers in its range. So there is one literal for each of
them. -/
theorem make_eq_iff {W : Type} {make : W → Literal} {ofInt : ℤ → W} {toInt : W → ℤ}
    (made : ∀ v, v.primitive? = some kind ↔ ∃ w, make w = v)
    (held : ∀ w, (make w).integer? = some (toInt w)) (back : ∀ w, ofInt (toInt w) = w)
    (exact : toInt (ofInt z) = z) :
    make (ofInt z) = v ↔ v.primitive? = some kind ∧ v.integer? = some z := by
  constructor
  · rintro rfl
    exact ⟨(made _).2 ⟨_, rfl⟩, by rw [held, exact]⟩
  · rintro ⟨sort, value⟩
    obtain ⟨w, rfl⟩ := (made v).1 sort
    obtain rfl : toInt w = z := Option.some.inj ((held w).symm.trans value)
    rw [back]

/-- A type of whole numbers has one literal for each integer in its range, and a text is read as the
literal of the integer that it spells. -/
theorem Primitive.exists_literal (whole : kind.bits? = some bits) : ∃ literal : ℤ → Literal,
    (∀ text, kind.read? text = (readBounded? bits text).map literal) ∧
      ∀ z, InRange bits z → ∀ v, literal z = v ↔ v.primitive? = some kind ∧ v.integer? = some z := by
  cases kind with
  | boolean | char | float | double => cases whole
  | byte =>
    cases whole
    refine ⟨.byte ∘ Int8.ofInt, fun text => rfl, fun z range v => ?_⟩
    refine make_eq_iff ?_ (fun w => rfl) Int8.ofInt_toInt (Int8.toInt_ofInt_of_le range.1 range.2)
    intro v
    cases v <;> simp [Literal.primitive?]
  | short =>
    cases whole
    refine ⟨.short ∘ Int16.ofInt, fun text => rfl, fun z range v => ?_⟩
    refine make_eq_iff ?_ (fun w => rfl) Int16.ofInt_toInt (Int16.toInt_ofInt_of_le range.1 range.2)
    intro v
    cases v <;> simp [Literal.primitive?]
  | int =>
    cases whole
    refine ⟨.int ∘ Int32.ofInt, fun text => rfl, fun z range v => ?_⟩
    refine make_eq_iff ?_ (fun w => rfl) Int32.ofInt_toInt (Int32.toInt_ofInt_of_le range.1 range.2)
    intro v
    cases v <;> simp [Literal.primitive?]
  | long =>
    cases whole
    refine ⟨.long ∘ Int64.ofInt, fun text => rfl, fun z range v => ?_⟩
    refine make_eq_iff ?_ (fun w => rfl) Int64.ofInt_toInt (Int64.toInt_ofInt_of_le range.1 range.2)
    intro v
    cases v <;> simp [Literal.primitive?]

variable {text : String} (whole : kind.bits? = some bits)

include whole

/-- **A text is a literal of a type of whole numbers** if it is in the grammar and spells a number
in the range of the type, and the literal holds this number. -/
theorem Primitive.read?_eq_some_iff_of_bits :
    kind.read? text = some v ↔ ∃ z, IntegerText text.toList z ∧ InRange bits z ∧
      v.primitive? = some kind ∧ v.integer? = some z := by
  obtain ⟨literal, reads, holds⟩ := Primitive.exists_literal whole
  rw [reads, Option.map_eq_some_iff]
  refine exists_congr fun z => ?_
  rw [readBounded?_eq_some_iff, and_assoc]
  exact and_congr_right fun _ => and_congr_right fun range => holds z range v

theorem Primitive.read?_eq_none_iff_of_bits :
    kind.read? text = none ↔ ∀ z, IntegerText text.toList z → ¬InRange bits z := by
  obtain ⟨literal, reads, -⟩ := Primitive.exists_literal whole
  rw [reads, Option.map_eq_none_iff, Option.eq_none_iff_forall_ne_some]
  refine forall_congr' fun z => ?_
  rw [Ne, readBounded?_eq_some_iff, not_and]

end Words

namespace Literal

section Reading

variable {text : String} (notNull : text ≠ "null") (nonempty : text ≠ "")

include notNull nonempty

theorem read_eq_ok_iff : Literal.read ty text = .ok v ↔ ty.read? text = some v := by
  rw [Literal.read, if_neg notNull, if_neg nonempty]
  cases ty.read? text <;> simp

theorem read_eq_error_iff :
    Literal.read ty text = .error e ↔ e = .notParseable text ty ∧ ty.read? text = none := by
  rw [Literal.read, if_neg notNull, if_neg nonempty]
  cases ty.read? text <;> simp [eq_comm]

/-- **Literals of whole numbers.** A text is read as a literal exactly if it is an optional sign,
digits and one marker at most, and spells a number in the range of the type; the literal is of the
type and holds this number. Every other text is refused as a whole, with the type. -/
theorem read_integer_iff (whole : kind.bits? = some bits) :
    (∀ v, Literal.read (.primitive kind) text = .ok v ↔ ∃ z, IntegerText text.toList z ∧
        InRange bits z ∧ v.primitive? = some kind ∧ v.integer? = some z) ∧
      ∀ e, Literal.read (.primitive kind) text = .error e ↔
        e = .notParseable text (.primitive kind) ∧
          ∀ z, IntegerText text.toList z → ¬InRange bits z := by
  constructor
  · intro v
    rw [read_eq_ok_iff notNull nonempty]
    exact Primitive.read?_eq_some_iff_of_bits whole
  · intro e
    rw [read_eq_error_iff notNull nonempty]
    exact and_congr_right fun _ => Primitive.read?_eq_none_iff_of_bits whole

end Reading

/-- The least byte is read, with a zero and a marker that change nothing. Behind a plus sign its
digits are out of range, and the refusal names the marker too. -/
theorem read_integer_iff_leastByte :
    Primitive.byte.bits? = some 8 ∧
      Literal.read (.primitive .byte) "-0128L" = .ok (.byte (-128)) ∧
      Literal.read (.primitive .byte) "+128L" =
        .error (.notParseable "+128L" (.primitive .byte)) := by
  have whole : Primitive.byte.bits? = some 8 := rfl
  have spelled : IntegerText "-0128L".toList (-128) := readInt_dropMarker_eq_some_iff.1 rfl
  have spelled' : readInt (dropMarker "+128L".toList) = some 128 := rfl
  obtain ⟨accepted, -⟩ :=
    read_integer_iff (show "-0128L" ≠ "null" by decide) (show "-0128L" ≠ "" by decide) whole
  obtain ⟨-, refused⟩ :=
    read_integer_iff (show "+128L" ≠ "null" by decide) (show "+128L" ≠ "" by decide) whole
  refine ⟨whole, (accepted _).2 ⟨-128, spelled, ?_, rfl, rfl⟩, (refused _).2 ⟨rfl, ?_⟩⟩
  · exact ⟨by decide, by decide⟩
  · intro z written range
    obtain rfl : 128 = z :=
      Option.some.inj (spelled'.symm.trans (readInt_dropMarker_eq_some_iff.2 written))
    exact absurd range.2 (by decide)

end Literal

end DefaultArgs
