/-!
# Parts of a text

A text is taken apart behind a start that it is known by, or at all of its full stops.

## Main definitions

* `after? lead text`: what follows `lead` in a text that starts with it
* `cut text`: the segments between the full stops
* `splitDots text`: the same for strings
* `joinDots parts`: the parts with a full stop between neighbours

## Main results

* `after?_eq_some_iff`: a text is its start and what follows it
* `cut_ne_nil`: there is always at least one segment
* `joinDots_splitDots`: joining the segments of a text gives the text back
-/

namespace DefaultArgs.Text

/-! ## The start of a text -/

/-- What follows `lead` in a text that starts with it. -/
def after? : List Char → List Char → Option (List Char)
  | [], text => some text
  | _ :: _, [] => none
  | c :: lead, d :: text => if c = d then after? lead text else none

/-- A text is its start and what follows it. -/
theorem after?_eq_some_iff {lead text rest : List Char} :
    after? lead text = some rest ↔ text = lead ++ rest := by
  induction lead generalizing text with
  | nil => simp [after?]
  | cons c lead ih =>
    cases text with
    | nil => simp [after?]
    | cons d text => by_cases h : c = d <;> simp [after?, h, ih, Ne.symm]

/-! ## Dotted text

A dotted text is a sequence of segments with a full stop between neighbours. Segments may be empty:
cutting keeps every segment, so that joining the segments gives the text back.
-/

/-- The segments of a text between its full stops, the empty ones included. -/
def cut : List Char → List (List Char)
  | [] => [[]]
  | c :: rest => if c = '.' then [] :: cut rest else (cut rest).modifyHead (c :: ·)

/-- The segments of a string between its full stops, the empty ones included. -/
def splitDots (text : String) : List String :=
  (cut text.toList).map String.ofList

/-- The parts with a full stop between neighbours. -/
def joinDots (parts : List String) : String :=
  ".".intercalate parts

/-- There is always at least one segment. -/
theorem cut_ne_nil (text : List Char) : cut text ≠ [] := by
  induction text with
  | nil => simp [cut]
  | cons c rest ih =>
    rw [cut]
    split
    · simp
    · cases h : cut rest with
      | nil => exact absurd h ih
      | cons => simp

theorem intercalate_cut (text : List Char) : List.intercalate ['.'] (cut text) = text := by
  induction text with
  | nil => rfl
  | cons c rest ih =>
    rw [cut]
    split
    · next dot =>
      cases h : cut rest with
      | nil => exact absurd h (cut_ne_nil rest)
      | cons segment more => rw [← ih, h, dot]; simp [List.intercalate, List.intersperse]
    · cases h : cut rest with
      | nil => exact absurd h (cut_ne_nil rest)
      | cons segment more =>
        rw [h] at ih
        cases more <;> simp_all [List.intercalate, List.intersperse]

theorem splitDots_ne_nil (text : String) : splitDots text ≠ [] := by
  rw [splitDots, ne_eq, List.map_eq_nil_iff]
  exact cut_ne_nil text.toList

/-- Joining the segments of a text gives the text back. -/
theorem joinDots_splitDots (text : String) : joinDots (splitDots text) = text := by
  rw [← String.toList_inj, joinDots, String.toList_intercalate]
  simpa [splitDots, Function.comp_def] using intercalate_cut text.toList

end DefaultArgs.Text
