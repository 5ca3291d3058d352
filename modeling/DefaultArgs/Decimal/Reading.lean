/-!
# Decimals and how they are read

The grammar of whole numbers is an optional sign and one or more digits. The grammar of decimals
adds a full stop among or around the digits and an exponent after them. Only the ten ASCII digits
count.

## Main definitions

* `Decimal`: the number `± digits · 10 ^ exponent`
* `takeSign text`: the sign at the front of the text, and what follows
* `readInt text`: the whole number that the text spells
* `Decimal.read text`: the decimal that the text spells
-/

namespace DefaultArgs

/-! ## Decimals

A decimal is a sign, a whole number of digits and a power of ten. The same number has many
decimals; none of them is preferred here.
-/

/-- The number `digits · 10 ^ exponent`, negated if `negative` holds. -/
structure Decimal where
  negative : Bool
  digits : Nat
  exponent : Int
deriving DecidableEq, Repr

/-! ## Reading numbers -/

/-- Whether a minus sign is at the front, and the text after one optional sign. -/
def takeSign : List Char → Bool × List Char
  | '-' :: rest => (true, rest)
  | '+' :: rest => (false, rest)
  | rest => (false, rest)

/-- The number that one or more digits spell. -/
def readDigits (text : List Char) : Option Nat :=
  if text ≠ [] ∧ text.all Char.isDigit then some (Nat.ofDigitChars 10 text 0) else none

/-- The whole number that an optional sign and one or more digits spell. -/
def readInt (text : List Char) : Option Int :=
  let (negative, rest) := takeSign text
  (readDigits rest).map fun n => if negative then -(n : Int) else n

namespace Decimal

/-- The digits after a full stop at the front, and what follows them. -/
def takeFraction : List Char → List Char × List Char
  | '.' :: rest => rest.span Char.isDigit
  | rest => ([], rest)

/-- The exponent that the rest of a decimal spells: nothing, or a letter `e` in either case and a
whole number. -/
def readExponent : List Char → Option Int
  | [] => some 0
  | c :: rest => if c = 'e' ∨ c = 'E' then readInt rest else none

/-- The decimal that a text spells: an optional sign, digits with at most one full stop among or
around them, and an optional exponent. -/
def read (text : List Char) : Option Decimal :=
  let (negative, unsigned) := takeSign text
  let (whole, afterWhole) := unsigned.span Char.isDigit
  let (fraction, afterFraction) := takeFraction afterWhole
  if whole ++ fraction = [] then none
  else (readExponent afterFraction).map fun exponent =>
    ⟨negative, Nat.ofDigitChars 10 (whole ++ fraction) 0, exponent - fraction.length⟩

end Decimal

end DefaultArgs
