import DefaultArgs.Proofs.Decimal.Written
import DefaultArgs.Proofs.Default.Admissible
import DefaultArgs.Proofs.Default.Integers

/-!
# Literals read their own text back

The text of a literal is written for generated code, and a declaration may repeat it. It is read as
the same literal, at the type of the literal. Writing adds a marker for two of the types and reading
drops one for all the numeric types: the text of any other number ends in a digit, and a digit is no
marker. Strings and characters are written between quotes, which reading keeps.

## Main definitions

* `Literal.isFinite v`: if the literal is a floating-point number, it is finite

## Main results

* `Floating.read?_of_dropMarker`: the text of a finite number is read as this number
* `Primitive.read?_text`: a primitive value is read from its own text
* `Literal.read_text_again`: reading a literal, writing it and reading it again
-/

namespace DefaultArgs

/-- If the literal is a floating-point number, it is finite. -/
def Literal.isFinite : Literal → Bool
  | float value => value.isFinite
  | double value => value.isFinite
  | null | boolean _ | char _ | byte _ | short _ | int _ | long _ | string _ | verbatim _ => true

variable {kind : Primitive} {ty : ValueType} {text : String} {v : Literal} {bits : ℕ}

section Numbers

variable {f : FloatFormat} {x : Floating f}

/-- The text of a finite number is read as this number, whatever marker is behind it. -/
theorem Floating.read?_of_dropMarker (finite : x.isFinite)
    (dropped : dropMarker text.toList = x.text.toList) : Floating.read? f text = some x := by
  rw [Floating.read?, dropped, Floating.read_text finite, Option.filter_some, if_pos finite]

theorem Floating.isFinite_of_read? (read : Floating.read? f text = some x) : x.isFinite :=
  (Option.filter_eq_some_iff.1 read).2

/-- A whole number is in the range of its type, and its text spells it. -/
theorem exists_integerText_text (whole : kind.bits? = some bits) (sort : v.primitive? = some kind) :
    ∃ z, IntegerText v.text.toList z ∧ InRange bits z ∧ v.integer? = some z := by
  cases v with
  | null | boolean | char | float | double | string | verbatim => cases sort <;> cases whole
  | byte value | short value | int value =>
    cases sort
    cases whole
    exact ⟨value.toInt, .plain (signedNumeral_toString _), ⟨value.le_toInt, value.toInt_lt⟩, rfl⟩
  | long value =>
    cases sort
    cases whole
    refine ⟨value.toInt, ?_, ⟨value.le_toInt, value.toInt_lt⟩, rfl⟩
    rw [Literal.text, String.toList_append]
    exact .marked (signedNumeral_toString _) (by decide)

end Numbers

namespace Primitive

/-- **A primitive value is read from its own text**, if it is no character and finite. -/
theorem read?_text (notChar : kind ≠ .char) (sort : v.primitive? = some kind)
    (finite : v.isFinite) : kind.read? v.text = some v := by
  have integer : ∀ bits, kind.bits? = some bits → kind.read? v.text = some v := by
    intro bits whole
    obtain ⟨z, written, range, value⟩ := exists_integerText_text whole sort
    exact (read?_eq_some_iff_of_bits whole).2 ⟨z, written, range, sort, value⟩
  cases v with
  | null | string | verbatim => cases sort
  | char => exact absurd (Option.some.inj sort).symm notChar
  | boolean value =>
    cases sort
    cases value <;> rfl
  | byte | short | int | long =>
    cases sort
    exact integer _ rfl
  | float x =>
    cases sort
    have marked : dropMarker (x.text ++ "F").toList = x.text.toList := by
      rw [String.toList_append]
      exact dropMarker_concat_of_isMarker (by decide)
    rw [read?, Literal.text, Floating.read?_of_dropMarker finite marked, Option.map_some]
  | double x =>
    cases sort
    have bare : dropMarker x.text.toList = x.text.toList := by
      obtain ⟨front, c, split, digit⟩ := Floating.exists_last_text finite
      rw [split, dropMarker_concat_of_isDigit digit]
    rw [read?, Literal.text, Floating.read?_of_dropMarker finite bare, Option.map_some]

/-- Only finite values are read. -/
theorem isFinite_of_read? (read : kind.read? text = some v) : v.isFinite := by
  have sort := primitive?_of_read? read
  cases v with
  | null | boolean | char | byte | short | int | long | string | verbatim => rfl
  | float x | double x =>
    cases sort
    obtain ⟨x, read, same⟩ := Option.map_eq_some_iff.1 read
    cases same
    exact Floating.isFinite_of_read? read

/-- The two texts that stand for themselves spell no primitive value. -/
theorem ne_of_read? (notChar : kind ≠ .char) (read : kind.read? text = some v) :
    text ≠ "null" ∧ text ≠ "" := by
  have neither : kind.read? "null" = none ∧ kind.read? "" = none := by
    cases kind with
    | char => exact absurd rfl notChar
    | boolean | byte | short | int | long | float | double => exact ⟨rfl, rfl⟩
  constructor
  · rintro rfl
    cases neither.1.symm.trans read
  · rintro rfl
    cases neither.2.symm.trans read

end Primitive

namespace Literal

/-- A primitive value is read from its own text, at its own type. -/
theorem read_primitive_text (notChar : kind ≠ .char) (sort : v.primitive? = some kind)
    (finite : v.isFinite) : Literal.read (.primitive kind) v.text = .ok v := by
  have read := Primitive.read?_text notChar sort finite
  obtain ⟨notNull, nonempty⟩ := Primitive.ne_of_read? notChar read
  exact (read_eq_ok_iff notNull nonempty).2 read

/-- Only null is read from the text of null. -/
theorem eq_null_of_read (read : Literal.read ty "null" = .ok v) : v = .null := by
  rw [Literal.read, if_pos rfl] at read
  split at read <;> cases read
  rfl

/-- Only strings are read from the empty text. -/
theorem eq_string_of_read (read : Literal.read ty "" = .ok v) : ty = .string := by
  rw [Literal.read, if_neg (by decide), if_pos rfl] at read
  split at read
  · assumption
  · cases read

/-- **What is read once is read again.** Whatever literal a text spells at a type, its own text
spells it at this type, strings and characters apart. This holds for every literal of a primitive
type, as long as it is no infinity. -/
theorem read_text_again :
    (∀ ty text v, ty ≠ .string → ty ≠ .primitive .char → Literal.read ty text = .ok v →
        Literal.read ty v.text = .ok v) ∧
      ∀ kind v, kind ≠ .char → v.primitive? = some kind → v.isFinite →
        Literal.read (.primitive kind) v.text = .ok v := by
  refine ⟨fun ty text v notString notChar read => ?_, fun kind v => read_primitive_text⟩
  rcases eq_or_ne text "null" with rfl | notNull
  · obtain rfl := eq_null_of_read read
    exact read
  rcases eq_or_ne text "" with rfl | nonempty
  · exact absurd (eq_string_of_read read) notString
  have spelled := (read_eq_ok_iff notNull nonempty).1 read
  cases ty with
  | void => cases spelled
  | string => exact absurd rfl notString
  | nominal name =>
    cases spelled
    exact read
  | primitive kind =>
    have other : kind ≠ .char := fun same => notChar (congrArg _ same)
    exact read_primitive_text other (Primitive.primitive?_of_read? spelled)
      (Primitive.isFinite_of_read? spelled)

/-- The least long, and the negative float next to zero, are read from texts with a sign and a
marker. -/
theorem read_text_again_extremes :
    Literal.read (.primitive .long) "-9223372036854775808L" = .ok (.long Int64.minValue) ∧
      Literal.read (.primitive .float) "-1e-45F" = .ok (.float ⟨true, 1⟩) := by
  have least : (Literal.long Int64.minValue).text = "-9223372036854775808L" := rfl
  have tiny : (Literal.float ⟨true, 1⟩).text = "-1e-45F" := by decide +kernel
  rw [← least, ← tiny]
  exact ⟨read_text_again.2 .long _ (by decide) rfl rfl,
    read_text_again.2 .float _ (by decide) rfl (by decide)⟩

/-- A character is written between quotes, which are characters when they are read. -/
example : Literal.read (.primitive .char) (Literal.char "x").text = .ok (.char "'x'") := rfl

end Literal

end DefaultArgs
