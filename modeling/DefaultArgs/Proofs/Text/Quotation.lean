import DefaultArgs.Default.Declared
import Mathlib.Algebra.Group.Nat.Defs

/-!
# Text between quotes is read back

Escaped text is read from left to right. A backslash starts an escape, which is one letter or four
hexadecimal digits behind a `u`; every other character stands for itself, and the first quote that
no backslash is in front of ends the text. Every character is written so that reading takes exactly
what was written for it. So nothing is lost, whatever the neighbours of a character are, and no text
ends in front of its closing quote.

## Main definitions

* `scan? quote text`: reads escaped text up to the first quote that is not escaped
* `Written quote c written`: the ways to write a character

## Main results

* `Written.scan?_append`: a character is read back, whatever is behind it
* `scan?_escape_append`, `scan?_quoted`: a text is read back, and ends at its closing quote
* `escape_unambiguous`: moreover no control character is left, and literals that look alike are
  equal
-/

namespace DefaultArgs.Text

section Reading

/-- The value of a hexadecimal digit of either case. -/
def digitValue? (c : Char) : Option ℕ :=
  if '0' ≤ c ∧ c ≤ '9' then some (c.toNat - '0'.toNat)
  else if 'a' ≤ c ∧ c ≤ 'f' then some (c.toNat - 'a'.toNat + 10)
  else if 'A' ≤ c ∧ c ≤ 'F' then some (c.toNat - 'A'.toNat + 10)
  else none

/-- The number that hexadecimal digits spell. -/
def readHex? (digits : List Char) : Option ℕ :=
  digits.foldlM (fun n c => (digitValue? c).map (16 * n + ·)) 0

/-- The character whose code hexadecimal digits spell. -/
def charOfCode? (digits : List Char) : Option Char :=
  (readHex? digits).bind fun n => if n.isValidChar then some (Char.ofNat n) else none

/-- The character that a letter behind a backslash stands for. -/
def charOfLetter? (quote : Char) : Char → Option Char
  | '\\' => some '\\'
  | 'n' => some '\n'
  | 'r' => some '\r'
  | 't' => some '\t'
  | 'b' => some '\x08'
  | 'f' => some '\x0C'
  | letter => if letter = quote then some quote else none

/-- What is read of escaped text. -/
structure Scanned where
  /-- The characters up to the first quote that is not escaped, or to the end. -/
  text : List Char
  /-- What is behind this quote, if there is one. -/
  after : Option (List Char)
deriving DecidableEq, Repr

/-- What is read if more characters are in front. -/
def Scanned.prepend (front : List Char) (scanned : Scanned) : Scanned :=
  { scanned with text := front ++ scanned.text }

/-- Read escaped text from left to right, up to the first quote that is not escaped. There is no
result if a backslash starts no escape. -/
def scan? (quote : Char) : List Char → Option Scanned
  | [] => some ⟨[], none⟩
  | '\\' :: 'u' :: a :: b :: c :: d :: rest =>
    (charOfCode? [a, b, c, d]).bind fun code => (scan? quote rest).map (.prepend [code])
  | '\\' :: letter :: rest =>
    (charOfLetter? quote letter).bind fun c => (scan? quote rest).map (.prepend [c])
  | ['\\'] => none
  | c :: rest => if c = quote then some ⟨[], some rest⟩ else (scan? quote rest).map (.prepend [c])

end Reading

variable {quote c d : Char} {rest : List Char}

theorem Scanned.prepend_prepend (front behind : List Char) (scanned : Scanned) :
    (scanned.prepend behind).prepend front = scanned.prepend (front ++ behind) := by
  simp [prepend]

section Digits

theorem digitValue?_hexDigit : ∀ n < 16, digitValue? (hexDigit n) = some n := by decide

theorem isControl_hexDigit : ∀ n < 16, isControl (hexDigit n) = false := by decide

theorem exists_of_mem_hexDigits {width n : ℕ} (mem : c ∈ hexDigits width n) :
    ∃ digit < 16, c = hexDigit digit := by
  induction width generalizing n with
  | zero => cases mem
  | succ width ih =>
    rcases List.mem_append.1 mem with inner | last
    · exact ih inner
    · exact ⟨n % 16, Nat.mod_lt _ (by decide), List.mem_singleton.1 last⟩

/-- As many digits as were written are read back. The induction is on the last digit, which is
written behind the others and read last. -/
theorem readHex?_hexDigits (width n : ℕ) :
    readHex? (hexDigits width n) = some (n % 16 ^ width) := by
  induction width generalizing n with
  | zero => simp [readHex?, hexDigits, Nat.mod_one]
  | succ width ih =>
    have leading : readHex? (hexDigits width (n / 16)) = some (n / 16 % 16 ^ width) := ih _
    have last := digitValue?_hexDigit (n % 16) (Nat.mod_lt _ (by decide))
    rw [readHex?] at leading ⊢
    rw [hexDigits, List.foldlM_append, leading]
    simp [last, Nat.pow_succ', Nat.mod_mul, Nat.add_comm]

theorem charOfCode?_hexDigits (short : c.toNat < 16 ^ 4) :
    charOfCode? (hexDigits 4 c.toNat) = some c := by
  have valid : c.toNat.isValidChar := c.valid
  rw [charOfCode?, readHex?_hexDigits, Nat.mod_eq_of_lt short, Option.bind_some, if_pos valid,
    Char.ofNat_toNat]

end Digits

section Writing

/-- The four ways to write a character between two quotes. -/
inductive Written (quote c : Char) : List Char → Prop
  | letter {l : Char} (listed : (c, l) ∈ shortEscapes) : Written quote c ['\\', l]
  | quote (same : c = quote) : Written quote c ['\\', quote]
  | code (control : isControl c) : Written quote c ('\\' :: 'u' :: hexDigits 4 c.toNat)
  | plain (notBackslash : c ≠ '\\') (notQuote : c ≠ quote) (printable : isControl c = false) :
      Written quote c [c]

theorem written_escapeChar (quote c : Char) : Written quote c (escapeChar quote c) := by
  unfold escapeChar
  split
  · next l listed =>
    obtain ⟨before, after, split, -⟩ := List.lookup_eq_some_iff.1 listed
    exact .letter (by simp [split])
  · next unlisted =>
    split
    · next same =>
      subst same
      exact .quote rfl
    · next notQuote =>
      split
      · next control => exact .code control
      · next printable =>
        refine .plain ?_ notQuote (Bool.eq_false_iff.2 printable)
        rintro rfl
        cases unlisted

end Writing

section Steps

theorem scan?_letter (other : d ≠ 'u') :
    scan? quote ('\\' :: d :: rest) =
      (charOfLetter? quote d).bind fun c => (scan? quote rest).map (.prepend [c]) := by
  rw [scan?]
  rintro _ _ _ _ _ rfl
  exact absurd rfl other

theorem scan?_code (short : c.toNat < 16 ^ 4) :
    scan? quote ('\\' :: 'u' :: (hexDigits 4 c.toNat ++ rest)) =
      (scan? quote rest).map (.prepend [c]) := by
  have code := charOfCode?_hexDigits short
  -- Four digits are read at once, so they have to be seen one by one.
  obtain ⟨d₁, d₂, d₃, d₄, digits⟩ : ∃ d₁ d₂ d₃ d₄, hexDigits 4 c.toNat = [d₁, d₂, d₃, d₄] :=
    ⟨_, _, _, _, rfl⟩
  rw [digits] at code ⊢
  simp only [List.cons_append, List.nil_append, scan?, code, Option.bind_some]

theorem scan?_plain (notBackslash : c ≠ '\\') (notQuote : c ≠ quote) :
    scan? quote (c :: rest) = (scan? quote rest).map (.prepend [c]) := by
  rw [scan?, if_neg notQuote] <;> simp [notBackslash]

theorem scan?_quote (notBackslash : quote ≠ '\\') :
    scan? quote (quote :: rest) = some ⟨[], some rest⟩ := by
  rw [scan?, if_pos rfl] <;> simp [notBackslash]

end Steps

section Characters

variable {written : List Char}

/-- A character that is written in any of the four ways is read back, and reading goes on behind it.
No letter of a short escape is a quote. -/
theorem Written.scan?_append (mark : quote = '\'' ∨ quote = '"') (h : Written quote c written) :
    scan? quote (written ++ rest) = (scan? quote rest).map (.prepend [c]) := by
  cases h with
  | letter listed =>
    have read : ∀ p ∈ shortEscapes, charOfLetter? quote p.2 = some p.1 ∧ p.2 ≠ 'u' := by
      simp [shortEscapes, charOfLetter?]
    obtain ⟨back, other⟩ := read _ listed
    rw [List.cons_append, List.singleton_append, scan?_letter other, back, Option.bind_some]
  | quote same =>
    subst same
    have back : charOfLetter? c c = some c ∧ c ≠ 'u' := by
      rcases mark with rfl | rfl <;> decide
    rw [List.cons_append, List.singleton_append, scan?_letter back.2, back.1, Option.bind_some]
  | code control =>
    have short : c.toNat < 16 ^ 4 := by
      simp [isControl] at control
      omega
    exact scan?_code short
  | plain notBackslash notQuote => exact scan?_plain notBackslash notQuote

/-- None of the four ways leaves a control character. -/
theorem Written.isControl_eq_false (mark : quote = '\'' ∨ quote = '"')
    (h : Written quote c written) : ∀ d ∈ written, isControl d = false := by
  have backslash : isControl '\\' = false := by decide
  cases h with
  | letter listed =>
    have printable : ∀ p ∈ shortEscapes, isControl p.2 = false := by decide
    exact List.forall_mem_cons.2 ⟨backslash, List.forall_mem_singleton.2 (printable _ listed)⟩
  | quote same =>
    have printable : isControl quote = false := by
      rcases mark with rfl | rfl <;> decide
    exact List.forall_mem_cons.2 ⟨backslash, List.forall_mem_singleton.2 printable⟩
  | code control =>
    have marker : isControl 'u' = false := by decide
    refine List.forall_mem_cons.2 ⟨backslash, List.forall_mem_cons.2 ⟨marker, fun d mem => ?_⟩⟩
    obtain ⟨n, small, rfl⟩ := exists_of_mem_hexDigits mem
    exact isControl_hexDigit n small
  | plain _ _ printable => exact List.forall_mem_singleton.2 printable

end Characters

section Texts

/-- **A text is read back, and reading goes on behind it**, whatever is there. -/
theorem scan?_escape_append (mark : quote = '\'' ∨ quote = '"') (text : String)
    (rest : List Char) : scan? quote ((escape quote text).toList ++ rest) =
      (scan? quote rest).map (.prepend text.toList) := by
  rw [toList_escape]
  induction text.toList with
  | nil =>
    have same : Scanned.prepend [] = id := rfl
    simp [same]
  | cons c inner ih =>
    rw [List.flatMap_cons, List.append_assoc, (written_escapeChar quote c).scan?_append mark, ih,
      Option.map_map]
    apply congrArg (Option.map · _)
    funext scanned
    exact scanned.prepend_prepend [c] inner

theorem not_isControl_of_mem_escape (mark : quote = '\'' ∨ quote = '"') (text : String) :
    ∀ c ∈ (escape quote text).toList, isControl c = false := by
  intro c mem
  rw [toList_escape] at mem
  obtain ⟨source, -, mem⟩ := List.mem_flatMap.1 mem
  exact (written_escapeChar quote source).isControl_eq_false mark c mem

theorem toList_quoted (quote : Char) (text : String) :
    (quoted quote text).toList = quote :: ((escape quote text).toList ++ [quote]) := by
  simp [quoted]

/-- Behind its opening quote, a text ends at the closing one. -/
theorem scan?_quoted (mark : quote = '\'' ∨ quote = '"') (text : String) (rest : List Char) :
    scan? quote ((escape quote text).toList ++ quote :: rest) =
      some ⟨text.toList, some rest⟩ := by
  have notBackslash : quote ≠ '\\' := by
    rcases mark with rfl | rfl <;> decide
  rw [scan?_escape_append mark, scan?_quote notBackslash, Option.map_some, Scanned.prepend,
    List.append_nil]

/-- Quoted texts are read back, so different texts are quoted differently. -/
theorem quoted_injective (mark : quote = '\'' ∨ quote = '"') {a b : String}
    (same : quoted quote a = quoted quote b) : a = b := by
  have lists := congrArg String.toList same
  rw [toList_quoted, toList_quoted, List.cons_inj_right] at lists
  have read := scan?_quoted mark a []
  rw [lists, scan?_quoted mark b []] at read
  exact String.toList_inj.1 (congrArg Scanned.text (Option.some.inj read)).symm

/-- **Escaped text stands for one text and does not leave its quotes.** Either of the two quotes may
be around a text. Its escaped form is read back as this text, without meeting a quote that would end
it, and has no control character. Behind the opening quote, the first quote that is not escaped is
the very last character. So strings whose literals look alike are equal, and so are characters. -/
theorem escape_unambiguous :
    (∀ quote text, quote = '\'' ∨ quote = '"' →
        scan? quote (escape quote text).toList = some ⟨text.toList, none⟩ ∧
        (∀ c ∈ (escape quote text).toList, isControl c = false) ∧
        ∃ body, (quoted quote text).toList = quote :: body ∧
          scan? quote body = some ⟨text.toList, some []⟩) ∧
      (∀ a b, (Literal.string a).text = (Literal.string b).text → a = b) ∧
      ∀ a b, (Literal.char a).text = (Literal.char b).text → a = b := by
  refine ⟨fun quote text mark => ⟨?_, not_isControl_of_mem_escape mark text, _,
    toList_quoted quote text, scan?_quoted mark text []⟩, ?_, ?_⟩
  · have read := scan?_escape_append mark text []
    rw [List.append_nil] at read
    rw [read, scan?, Option.map_some, Scanned.prepend, List.append_nil]
  · exact fun a b => quoted_injective (.inr rfl)
  · exact fun a b => quoted_injective (.inl rfl)

/-- A backslash in front of `u0001` is no escape, and a control character next to it is one. -/
theorem escape_unambiguous_backslashes :
    (escape '"' "\\u0001\x01\"").toList = "\\\\u0001\\u0001\\\"".toList ∧
      scan? '"' "\\\\u0001\\u0001\\\"".toList = some ⟨"\\u0001\x01\"".toList, none⟩ := by
  have written : (escape '"' "\\u0001\x01\"").toList = "\\\\u0001\\u0001\\\"".toList := by
    decide
  obtain ⟨back, -, -⟩ := escape_unambiguous.1 '"' "\\u0001\x01\"" (.inr rfl)
  exact ⟨written, written ▸ back⟩

end Texts

end DefaultArgs.Text
