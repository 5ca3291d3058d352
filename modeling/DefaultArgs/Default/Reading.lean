import DefaultArgs.Decimal.Reading
import DefaultArgs.Diagnostic

/-!
# Reading literals

The text of a literal default is read as a value of the type of its parameter. The text `null` and
the empty text have meanings of their own. Any other text is kept as it is for strings, characters
and reference types, and has to spell a value for the other primitive types; a number may carry one
marker at its end.

## Main definitions

* `dropMarker text`: the text of a number without its marker
* `Primitive.read? kind text`: the value of a primitive type that a text spells
* `Literal.read ty text`: the literal that a text spells
* `Literal.fits v ty`: the literal is a value of the type
-/

namespace DefaultArgs

/-- The character marks the width of a number. -/
def isMarker (c : Char) : Bool :=
  c ∈ ['l', 'L', 'd', 'D', 'f', 'F']

/-- The text of a number without one marker at its end. -/
def dropMarker (text : List Char) : List Char :=
  match text.getLast? with
  | some c => if isMarker c then text.dropLast else text
  | none => text

/-- The whole number that a text spells, if it lies in the range of a type of `bits` bits. -/
def readBounded? (bits : Nat) (text : String) : Option Int :=
  let bound : Int := Nat.pow 2 (bits - 1)
  (readInt (dropMarker text.toList)).filter fun n => -bound ≤ n ∧ n < bound

/-- The finite number of a format that a text spells. -/
def Floating.read? (f : FloatFormat) (text : String) : Option (Floating f) :=
  ((Decimal.read (dropMarker text.toList)).map (Floating.ofDecimal f)).filter Floating.isFinite

/-- The value of a primitive type that a text spells. -/
def Primitive.read? (kind : Primitive) (text : String) : Option Literal :=
  match kind with
  | .boolean =>
    if text = "true" then some (.boolean true)
    else if text = "false" then some (.boolean false)
    else none
  | .char => some (.char text)
  | .byte => (readBounded? 8 text).map (.byte ∘ Int8.ofInt)
  | .short => (readBounded? 16 text).map (.short ∘ Int16.ofInt)
  | .int => (readBounded? 32 text).map (.int ∘ Int32.ofInt)
  | .long => (readBounded? 64 text).map (.long ∘ Int64.ofInt)
  | .float => (Floating.read? .single text).map .float
  | .double => (Floating.read? .double text).map .double

/-- The value of a type that a text other than `null` and the empty text spells. -/
def ValueType.read? (ty : ValueType) (text : String) : Option Literal :=
  match ty with
  | .string => some (.string text)
  | .nominal _ => some (.verbatim text)
  | .void => none
  | .primitive kind => kind.read? text

namespace Literal

/-- The literal of a type that a text spells. -/
def read (ty : ValueType) (text : String) : Except LiteralError Literal :=
  if text = "null" then
    if ty.isReference then .ok .null else .error (.nullOnPrimitive ty)
  else if text = "" then
    if ty = .string then .ok (.string "") else .error (.emptyNotAllowed ty)
  else
    match ty.read? text with
    | some value => .ok value
    | none => .error (.notParseable text ty)

/-- The literal is a value of the type: a primitive value of its own type, a string of the string
type, verbatim text of a named type, and null of every reference type. -/
def fits : Literal → ValueType → Bool
  | null, ty => ty.isReference
  | string _, .string => true
  | verbatim _, .nominal _ => true
  | value, .primitive kind => value.primitive? = some kind
  | _, _ => false

end Literal

end DefaultArgs
