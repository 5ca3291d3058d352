import DefaultArgs.Proofs.Listing
import DefaultArgs.Proofs.Spelling.Distance

/-!
# The distance by two rows

The distance of two texts can be computed with two rows of cells only, one for each prefix of the
second text. The first text is read once. For each of its characters the current row is written cell
by cell over what stood there, from the cell before and from the two cells of the row above, and
then the rows change places.

This goes forwards through both texts, where the recursion of the distance goes backwards. The least
number of edits is the same in both directions, so the distance has a recursion on the last
characters too. It is what one cell takes from its neighbours. The invariant of a row is that its
cells up to a place hold distances to prefixes, and that of the whole run is that the row above is
complete. Every cell that is read or written is inside its row.

## Main definitions

* `distanceByRows? a b`: the distance by two rows, if no cell outside a row is used
* `WrittenTo s b k row`: the cells of a row up to a place hold the distances of `s`
* `RowsBehind s b rows`: the rows after the text `s` was read

## Main results

* `levenshtein_reverse`, `levenshtein_concat_concat`: the recursion on the last characters
* `WrittenTo.next`, `RowsBehind.next`: a cell, and a row, is written
* `distanceByRows?_eq`: the two rows give the least number of edits
* `cappedDistanceByRows?_eq`: the same with the computation cut short
-/

namespace DefaultArgs

variable {a b s : List Char} {c d : Char}

section Reversed

theorem Edit.reverse (edit : Edit a b) : Edit a.reverse b.reverse := by
  cases edit with
  | insert before behind c => simpa using Edit.insert behind.reverse before.reverse c
  | delete before behind c => simpa using Edit.delete behind.reverse before.reverse c
  | replace before behind c d => simpa using Edit.replace behind.reverse before.reverse c d

theorem Edits.reverse {n : Nat} (edits : Edits n a b) : Edits n a.reverse b.reverse := by
  induction edits with
  | refl a => exact .refl a.reverse
  | step _ edit ih => exact .step ih edit.reverse

/-- **The distance is the same in both directions.** -/
theorem levenshtein_reverse (a b : List Char) :
    levenshtein a.reverse b.reverse = levenshtein a b := by
  apply le_antisymm
  · exact levenshtein_le_of_edits (edits_levenshtein a b).reverse
  · refine levenshtein_le_of_edits ?_
    simpa using (edits_levenshtein a.reverse b.reverse).reverse

/-- **The recursion on the last characters**: that of the first characters in the other direction.
-/
theorem levenshtein_concat_concat (c d : Char) (a b : List Char) :
    levenshtein (a ++ [c]) (b ++ [d]) =
      min (min (levenshtein a (b ++ [d]) + 1) (levenshtein (a ++ [c]) b + 1))
        (levenshtein a b + if c = d then 0 else 1) := by
  have first := levenshtein_cons_cons c d a.reverse b.reverse
  simpa only [← List.reverse_concat, levenshtein_reverse] using first

end Reversed

section Rows

/-- Write a cell of a row. There are no cells behind the row. -/
def writeCell? (row : List Nat) (j value : Nat) : Option (List Nat) :=
  if j < row.length then some (row.set j value) else none

/-- Write the cell behind a character of the second text: one more than the cell above it or the
cell before it, or what is in the cell between these two and the cost of replacing the character. -/
def extendCell? (c : Char) (above current : List Nat) : Char × Nat → Option (List Nat)
  | (d, j) => do
    let deleted ← above[j + 1]?
    let inserted ← current[j]?
    let replaced ← above[j]?
    writeCell? current (j + 1)
      (min (min (deleted + 1) (inserted + 1)) (replaced + if c = d then 0 else 1))

/-- Write the current row for the next character of the first text, over what stands in it. Then the
rows change places. -/
def swapRows? (b : List Char) : List Nat × List Nat → Char × Nat → Option (List Nat × List Nat)
  | (above, current), (c, i) => do
    let started ← writeCell? current 0 (i + 1)
    let written ← b.zipIdx.foldlM (extendCell? c above) started
    return (written, above)

/-- The distance of two texts by two rows, if no cell outside a row is used. -/
def distanceByRows? (a b : List Char) : Option Nat := do
  let blank := List.replicate (b.length + 1) 0
  let rows ← a.zipIdx.foldlM (swapRows? b) (List.range (b.length + 1), blank)
  rows.1[b.length]?

/-- The distance of two texts by two rows, cut short if their lengths differ by too much. -/
def cappedDistanceByRows? (a b : String) : Option Nat :=
  let longest := max a.length b.length
  if longest / 2 < longest - min a.length b.length then some longest
  else distanceByRows? a.toList b.toList

end Rows

/-- **A row is written up to a place**: it has a cell for every prefix of `b`, and the cells up to
the place hold the distances of `s` to the prefixes. What stands in the other cells does not matter.
-/
structure WrittenTo (s b : List Char) (k : Nat) (row : List Nat) : Prop where
  length_eq : row.length = b.length + 1
  cell : ∀ j ≤ k, row[j]? = some (levenshtein s (b.take j))

namespace WrittenTo

variable {above current : List Nat} {i j : Nat}

/-- The row of the empty text. -/
theorem range (b : List Char) : WrittenTo [] b b.length (List.range (b.length + 1)) where
  length_eq := List.length_range
  cell j le := by
    rw [levenshtein_nil_left, List.length_take_of_le le,
      List.getElem?_range (Nat.lt_succ_of_le le)]

/-- The first cell of a row is the length of the text. -/
theorem first (room : current.length = b.length + 1) (length : s.length = i + 1) :
    ∃ row, writeCell? current 0 (i + 1) = some row ∧ WrittenTo s b 0 row := by
  refine ⟨current.set 0 (i + 1), if_pos (by omega), by simpa using room, fun j le => ?_⟩
  obtain rfl : j = 0 := Nat.le_zero.1 le
  simp [room, length]

/-- **A cell is written from its neighbours.** -/
theorem next (complete : WrittenTo s b b.length above)
    (written : WrittenTo (s ++ [c]) b j current) (at_j : b[j]? = some d) :
    ∃ row, extendCell? c above current (d, j) = some row ∧
      WrittenTo (s ++ [c]) b (j + 1) row := by
  have lt : j < b.length := (List.getElem?_eq_some_iff.1 at_j).1
  have longer : b.take (j + 1) = b.take j ++ [d] := by
    rw [List.take_add_one, at_j]
    rfl
  have recursion := levenshtein_concat_concat c d s (b.take j)
  rw [← longer] at recursion
  have inside : j + 1 < current.length := by
    rw [written.length_eq]
    exact Nat.succ_lt_succ lt
  refine ⟨current.set (j + 1) (levenshtein (s ++ [c]) (b.take (j + 1))), ?_, ?_, ?_⟩
  · simp only [extendCell?, complete.cell (j + 1) lt, written.cell j le_rfl,
      complete.cell j lt.le, Option.bind_eq_bind, Option.bind_some, writeCell?, if_pos inside,
      recursion]
  · rw [List.length_set]
    exact written.length_eq
  · intro k le
    rcases Nat.lt_or_eq_of_le le with before | rfl
    · rw [List.getElem?_set_ne (Nat.ne_of_gt before)]
      exact written.cell k (Nat.le_of_lt_succ before)
    · exact List.getElem?_set_self inside

end WrittenTo

/-- **The rows after a text was read**: the upper row is complete, and the other one has room for
the next row. -/
structure RowsBehind (s b : List Char) (rows : List Nat × List Nat) : Prop where
  complete : WrittenTo s b b.length rows.1
  room : rows.2.length = b.length + 1

namespace RowsBehind

theorem start (b : List Char) :
    RowsBehind [] b (List.range (b.length + 1), List.replicate (b.length + 1) 0) where
  complete := .range b
  room := List.length_replicate

/-- **A row is written cell by cell.** -/
theorem next {rows : List Nat × List Nat} (behind : RowsBehind s b rows) (c : Char) :
    ∃ rows', swapRows? b rows (c, s.length) = some rows' ∧ RowsBehind (s ++ [c]) b rows' := by
  obtain ⟨above, current⟩ := rows
  obtain ⟨started, start, first⟩ : ∃ row, writeCell? current 0 (s.length + 1) = some row ∧
      WrittenTo (s ++ [c]) b 0 row := WrittenTo.first behind.room List.length_append
  obtain ⟨written, run, complete⟩ := exists_foldlM_zipIdx (WrittenTo (s ++ [c]) b) first
    fun j d current at_j written => behind.complete.next written at_j
  refine ⟨(written, above), ?_, complete, behind.complete.length_eq⟩
  simp only [swapRows?, start, Option.bind_eq_bind, Option.bind_some, run]
  rfl

end RowsBehind

/-- **The two rows give the least number of edits**, and no cell outside a row is used. -/
theorem distanceByRows?_eq (a b : List Char) : distanceByRows? a b = some (levenshtein a b) := by
  obtain ⟨rows, run, behind⟩ := exists_foldlM_zipIdx (f := swapRows? b) (l := a)
    (fun i rows => RowsBehind (a.take i) b rows) (.start b) fun i c rows at_i behind => by
      have lt : i < a.length := (List.getElem?_eq_some_iff.1 at_i).1
      have next := behind.next c
      rw [List.length_take_of_le lt.le] at next
      rw [List.take_add_one, at_i]
      exact next
  have answer := behind.complete.cell b.length le_rfl
  rw [List.take_length, List.take_length] at answer
  simp only [distanceByRows?, run, Option.bind_eq_bind, Option.bind_some, answer]

/-- Cut short or not, the two rows give the distance. -/
theorem cappedDistanceByRows?_eq (a b : String) :
    cappedDistanceByRows? a b = some (cappedDistance a b) := by
  unfold cappedDistanceByRows? cappedDistance
  dsimp only
  split
  · rfl
  · exact distanceByRows?_eq a.toList b.toList

end DefaultArgs
