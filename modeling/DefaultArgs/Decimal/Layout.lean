import DefaultArgs.Binary.Format

/-!
# Floating-point numbers as text

A finite number is written by its shortest decimal. Numbers from `10⁻⁴` to below `10¹⁶` are written
positionally and always with a full stop and a digit after it; all others as one digit before the
full stop, the remaining ones after it, and an exponent.

## Main definitions

* `exactDigits f n`: the digits of the exact decimal of magnitude `n`
* `candidates digits dropped`: the two neighbours that keep all but `dropped` digits
* `shortest f n`: the shortest decimal that reads back as magnitude `n`
* `positionalFrom`, `positionalBelow`: the leading exponents that are written positionally
* `Decimal.layout d`: the text of a decimal without its sign
* `Floating.text x`: the text of a floating-point number
-/

namespace DefaultArgs

/-! ## The shortest decimal of a floating-point number

Of all decimals that read back as a given magnitude, the one with the fewest digits is chosen, and
of these the one nearest to the number; of two equally near the larger.

The exact decimal of a magnitude is its count of units times a power of five. Its leading digits,
rounded down and up, are the only candidates for each count of digits, and counts are tried from
one digit on. When every digit is kept the candidate is the exact decimal, so the search needs no
bound of its own.
-/

namespace FloatFormat

variable (f : FloatFormat)

/-- The exact number of a magnitude is this many times ten to the power of minus the scale. -/
def exactDigits (magnitude : Nat) : Nat :=
  f.units magnitude * Nat.pow 5 f.scale

/-- The two neighbours of `digits` among the multiples of `10 ^ dropped`, in multiples of it: the
nearer one first, and of two equally near the larger. -/
def candidates (digits dropped : Nat) : List Nat :=
  let step := Nat.pow 10 dropped
  let below := digits / step
  if 2 * (digits % step) < step then [below, below + 1] else [below + 1, below]

/-- The decimal without its sign that drops `dropped` digits of an exact decimal. -/
def dropping (dropped kept : Nat) : Decimal :=
  ⟨false, kept, (dropped : Int) - f.scale⟩

/-- The first decimal that reads back as the magnitude, when at most `dropped` of the digits are
dropped and candidates with fewer digits come first. -/
def shortestFrom (magnitude digits : Nat) : Nat → Decimal
  | 0 => f.dropping 0 digits
  | dropped + 1 =>
    match ((candidates digits (dropped + 1)).map (f.dropping (dropped + 1))).find?
        (f.ofDecimal · = magnitude) with
    | some d => d
    | none => shortestFrom magnitude digits dropped

/-- The shortest decimal that reads back as the magnitude. -/
def shortest (magnitude : Nat) : Decimal :=
  let digits := f.exactDigits magnitude
  f.shortestFrom magnitude digits ((Nat.toDigits 10 digits).length - 1)

end FloatFormat

/-! ## The layout of a decimal -/

/-- The least exponent of the leading digit that is written positionally. -/
def positionalFrom : Int := -4

/-- The least exponent of the leading digit from which on an exponent is written. -/
def positionalBelow : Int := 16

namespace Decimal

/-- The significant digits of a number, without the zeros at the end. -/
def significant (n : Nat) : List Char :=
  match ((Nat.toDigits 10 n).reverse.dropWhile (· = '0')).reverse with
  | [] => ['0']
  | digits => digits

/-- Digits with a full stop after the one that counts `10 ^ 0`, where the first digit counts
`10 ^ leading`. -/
def positional (digits : List Char) (leading : Int) : List Char :=
  match leading with
  | .negSucc zeros => '0' :: '.' :: List.replicate zeros '0' ++ digits
  | .ofNat last =>
    let whole := digits.take (last + 1)
    let fraction := digits.drop (last + 1)
    whole ++ List.replicate (last + 1 - whole.length) '0' ++
      '.' :: (if fraction = [] then ['0'] else fraction)

/-- Digits with a full stop after the first one, and the exponent of the first digit. A single
digit has no full stop. -/
def scientific (digits : List Char) (leading : Int) : List Char :=
  let mantissa :=
    match digits with
    | first :: second :: rest => first :: '.' :: second :: rest
    | few => few
  mantissa ++ 'e' :: (toString leading).toList

/-- The text of a decimal without its sign. -/
def layout (d : Decimal) : List Char :=
  let leading := (Nat.toDigits 10 d.digits).length - 1 + d.exponent
  let digits := significant d.digits
  if d.digits = 0 then ['0', '.', '0']
  else if positionalFrom ≤ leading ∧ leading < positionalBelow then positional digits leading
  else scientific digits leading

end Decimal

/-- The text of a floating-point number. -/
def Floating.text {f : FloatFormat} (x : Floating f) : String :=
  if f.infinity < x.magnitude then "NaN"
  else
    (if x.negative then "-" else "") ++
      if x.magnitude = f.infinity then "inf"
      else String.ofList (f.shortest x.magnitude).layout

end DefaultArgs
