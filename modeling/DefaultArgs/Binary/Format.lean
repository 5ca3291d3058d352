import DefaultArgs.Decimal.Reading

/-!
# Binary floating-point numbers

A floating-point format is given by the widths of its fraction and of its exponent. The pattern of
a number without its sign is its *magnitude*: an exponent field above a fraction field. Magnitudes
are ordered like the numbers they stand for, so the next larger number has the next magnitude, and
the first magnitude that stands for no finite number is infinity.

Every finite number is a whole count of the format's smallest positive number, its *unit*. Reading
a decimal is then one exact division of natural numbers, rounded to the nearest magnitude. Powers
are written with `Nat.pow`, so that they are the same whatever powers are imported.

## Main definitions

* `FloatFormat`: a format, with `FloatFormat.single` and `FloatFormat.double`
* `FloatFormat.units f n`: the number of magnitude `n`, counted in units
* `FloatFormat.nearest f num den`: the magnitude nearest to `num / den` units, ties to even
* `FloatFormat.ofDecimal f d`: the magnitude nearest to a decimal
* `Floating f`: a number of the format
-/

namespace DefaultArgs

/-- A binary floating-point format. -/
structure FloatFormat where
  /-- The bits of the fraction field. -/
  fractionBits : Nat
  /-- The bits of the exponent field. -/
  exponentBits : Nat
deriving DecidableEq

namespace FloatFormat

/-- The format of 32 bits. -/
def single : FloatFormat := ⟨23, 8⟩

/-- The format of 64 bits. -/
def double : FloatFormat := ⟨52, 11⟩

variable (f : FloatFormat)

/-- The unit is two to the power of minus `scale`. -/
def scale : Nat := Nat.pow 2 (f.exponentBits - 1) - 2 + f.fractionBits

/-- The first magnitude that is no finite number. -/
def infinity : Nat := (Nat.pow 2 f.exponentBits - 1) * Nat.pow 2 f.fractionBits

/-- The number of a magnitude, counted in units. -/
def units (magnitude : Nat) : Nat :=
  let hidden := Nat.pow 2 f.fractionBits
  let field := magnitude / hidden
  if field = 0 then magnitude
  else (hidden + magnitude % hidden) * Nat.pow 2 (field - 1)

/-- The quotient rounded to the nearest whole number, a half to the even neighbour. -/
def roundHalfEven (num den : Nat) : Nat :=
  let quotient := num / den
  let twice := 2 * (num % den)
  if twice < den ∨ (twice = den ∧ quotient % 2 = 0) then quotient else quotient + 1

/-- The magnitude nearest to `num / den` units, a half to the even magnitude. The format's exponent
is taken to be unbounded above. -/
def nearest (num den : Nat) : Nat :=
  let shift := (num / den).log2 - f.fractionBits
  shift * Nat.pow 2 f.fractionBits + roundHalfEven num (den * Nat.pow 2 shift)

/-- The magnitude nearest to a decimal, infinity if it is beyond the finite numbers. The first
three cases settle decimals whose exponent alone decides, so that no power is computed for
them. -/
def ofDecimal (d : Decimal) : Nat :=
  if d.digits = 0 then 0
  else if Nat.pow 2 f.exponentBits ≤ d.exponent then f.infinity
  else if d.exponent + d.digits.log2 + f.scale + 2 < 0 then 0
  else
    match d.exponent with
    | .ofNat e => min f.infinity (f.nearest (d.digits * Nat.pow 10 e * Nat.pow 2 f.scale) 1)
    | .negSucc e => min f.infinity (f.nearest (d.digits * Nat.pow 2 f.scale) (Nat.pow 10 (e + 1)))

end FloatFormat

/-- A number of a floating-point format, by its sign and magnitude. Magnitudes above infinity stand
for no number. -/
structure Floating (f : FloatFormat) where
  /-- The sign bit is set. -/
  negative : Bool
  /-- The exponent and fraction fields. -/
  magnitude : Nat
deriving DecidableEq

namespace Floating

variable {f : FloatFormat}

/-- The pattern stands for a finite number. -/
def isFinite (x : Floating f) : Bool :=
  x.magnitude < f.infinity

/-- The number of a bit pattern; bits above the sign are ignored. -/
def ofBits (f : FloatFormat) (bits : Nat) : Floating f :=
  let width := f.fractionBits + f.exponentBits
  ⟨bits.testBit width, bits % Nat.pow 2 width⟩

/-- The number nearest to a decimal. -/
def ofDecimal (f : FloatFormat) (d : Decimal) : Floating f :=
  ⟨d.negative, f.ofDecimal d⟩

end Floating

end DefaultArgs
