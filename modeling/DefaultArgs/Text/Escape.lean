/-!
# Escaped text

Text between quotes is written with escapes for the backslash, for the enclosing quote and for
control characters. Six characters have an escape of one letter; every other control character is
written as its code in four hexadecimal digits.

## Main definitions

* `hexDigit n`: the digit for `n < 16`
* `hexDigits width n`: the last `width` digits of `n`
* `isControl c`: `c` is a control character
* `shortEscapes`: the characters with an escape of one letter
* `escape quote text`: the text as it stands between two `quote` characters
-/

namespace DefaultArgs.Text

/-! ## Hexadecimal digits

Numbers written with a fixed count of lowercase hexadecimal digits, the most significant first.
-/

/-- The lowercase hexadecimal digit for a number below sixteen. -/
def hexDigit (n : Nat) : Char :=
  if n < 10 then Char.ofNat ('0'.toNat + n) else Char.ofNat ('a'.toNat + (n - 10))

/-- The last `width` hexadecimal digits of a number, the most significant first. -/
def hexDigits : Nat → Nat → List Char
  | 0, _ => []
  | width + 1, n => hexDigits width (n / 16) ++ [hexDigit (n % 16)]

@[simp] theorem length_hexDigits (width n : Nat) : (hexDigits width n).length = width := by
  induction width generalizing n with
  | zero => rfl
  | succ width ih => simp [hexDigits, ih]

/-! ## Escapes -/

/-- The character is a control character. -/
def isControl (c : Char) : Bool :=
  c.toNat < 0x20 || (0x7F ≤ c.toNat && c.toNat < 0xA0)

/-- The characters with an escape of one letter, and the letter after the backslash. -/
def shortEscapes : List (Char × Char) :=
  [('\\', '\\'), ('\n', 'n'), ('\r', 'r'), ('\t', 't'), ('\x08', 'b'), ('\x0C', 'f')]

/-- One character as it stands between two `quote` characters. -/
def escapeChar (quote c : Char) : List Char :=
  match shortEscapes.lookup c with
  | some letter => ['\\', letter]
  | none =>
    if c = quote then ['\\', c]
    else if isControl c then '\\' :: 'u' :: hexDigits 4 c.toNat
    else [c]

/-- The text as it stands between two `quote` characters. -/
def escape (quote : Char) (text : String) : String :=
  String.ofList (text.toList.flatMap (escapeChar quote))

/-- The text between two `quote` characters, the quotes included. -/
def quoted (quote : Char) (text : String) : String :=
  String.ofList [quote] ++ escape quote text ++ String.ofList [quote]

@[simp] theorem toList_escape (quote : Char) (text : String) :
    (escape quote text).toList = text.toList.flatMap (escapeChar quote) := by
  simp [escape]

end DefaultArgs.Text
