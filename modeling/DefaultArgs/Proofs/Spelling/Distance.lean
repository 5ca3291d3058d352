import DefaultArgs.Spelling
import Mathlib.Data.Nat.Dist
import Mathlib.Order.Bounds.Basic

/-!
# The distance is the least number of edits

The rows of the computation hold the distances of one text to all suffixes of the other: the tail of
a row is the row of the shorter text. So the distance obeys the recursion on the first characters of
both texts, in which a character is deleted, inserted, replaced or kept.

That many edits suffice, since each branch of the recursion is an edit. Fewer edits do not: a single
edit of one text changes its distance to the other by at most one, wherever the edit is made.

## Main definitions

* `Edit a b`: a single edit turns `a` into `b`
* `Edits n a b`: `n` edits, one after the other, turn `a` into `b`

## Main results

* `Edits.symm`, `Edits.trans`: edits can be undone and put together
* `Edits.cons`: edits can be performed behind a first character
* `Edits.dist_length_le`: `n` edits change the length by at most `n`
* `suffixDistances_eq_map_tails`: a row holds the distances to all suffixes
* `levenshtein_cons_cons`: the recursion on the first characters
* `edits_levenshtein`, `levenshtein_le_of_edits`: the distance is a number of edits, and no number
  of edits is less
* `isLeast_levenshtein`: the distance is the least number of edits
* `cappedDistance_means`: what the distance is if it is cut short for very different lengths
-/

namespace DefaultArgs

/-! ## Edits

An edit inserts, deletes or replaces a single character, anywhere in a text. What a number of edits
can do does not depend on how the distance of two texts is computed: edits can be undone and
performed one after the other, they can be performed behind a common first character, and each of
them changes the length by at most one.
-/

section Edits

/-- **A single edit**: a character is inserted, deleted or replaced by another, anywhere in the
text. -/
inductive Edit : List Char → List Char → Prop
  | insert (before behind : List Char) (c : Char) : Edit (before ++ behind) (before ++ c :: behind)
  | delete (before behind : List Char) (c : Char) : Edit (before ++ c :: behind) (before ++ behind)
  | replace (before behind : List Char) (c d : Char) :
      Edit (before ++ c :: behind) (before ++ d :: behind)

/-- **A number of edits**, each performed on the text that the one before it leaves. -/
inductive Edits : Nat → List Char → List Char → Prop
  | refl (a : List Char) : Edits 0 a a
  | step {n : Nat} {a b c : List Char} (edits : Edits n a b) (edit : Edit b c) :
      Edits (n + 1) a c

variable {a b c : List Char} {m n : Nat}

namespace Edit

/-- An edit can be undone by an edit. -/
theorem symm (edit : Edit a b) : Edit b a := by
  cases edit with
  | insert before behind c => exact .delete before behind c
  | delete before behind c => exact .insert before behind c
  | replace before behind c d => exact .replace before behind d c

/-- An edit can be performed behind a first character. -/
theorem cons (edit : Edit a b) (first : Char) : Edit (first :: a) (first :: b) := by
  cases edit with
  | insert before behind c => exact .insert (first :: before) behind c
  | delete before behind c => exact .delete (first :: before) behind c
  | replace before behind c d => exact .replace (first :: before) behind c d

theorem edits (edit : Edit a b) : Edits 1 a b :=
  .step (.refl a) edit

/-- An edit changes the length by at most one. -/
theorem dist_length_le (edit : Edit a b) : Nat.dist a.length b.length ≤ 1 := by
  cases edit <;> simp only [Nat.dist, List.length_append, List.length_cons] <;> omega

end Edit

namespace Edits

/-- Texts are equal if no edit is needed. -/
theorem eq_of_zero (edits : Edits 0 a b) : a = b := by
  cases edits
  rfl

theorem trans (first : Edits m a b) (second : Edits n b c) : Edits (m + n) a c := by
  induction second with
  | refl => exact first
  | step _ edit ih => exact .step (ih first) edit

/-- The edits are undone from the last one to the first. -/
theorem symm (edits : Edits n a b) : Edits n b a := by
  induction edits with
  | refl a => exact .refl a
  | @step n a b c _ edit ih =>
    have undone : Edits (1 + n) c a := edit.symm.edits.trans ih
    rwa [Nat.add_comm] at undone

theorem cons (edits : Edits n a b) (first : Char) : Edits n (first :: a) (first :: b) := by
  induction edits with
  | refl a => exact .refl (first :: a)
  | step _ edit ih => exact .step ih (edit.cons first)

/-- A text is built from nothing by inserting its characters. -/
theorem insertAll (b : List Char) : Edits b.length [] b := by
  induction b with
  | nil => exact .refl []
  | cons d b ih => exact .step ih (.insert [] b d)

/-- **Each edit changes the length by at most one.** -/
theorem dist_length_le (edits : Edits n a b) : Nat.dist a.length b.length ≤ n := by
  induction edits with
  | refl a => simp
  | @step n a b c _ edit ih =>
    have last : Nat.dist b.length c.length ≤ 1 := edit.dist_length_le
    calc Nat.dist a.length c.length
        ≤ Nat.dist a.length b.length + Nat.dist b.length c.length :=
          Nat.dist.triangle_inequality ..
      _ ≤ n + 1 := Nat.add_le_add ih last

end Edits

end Edits

/-! ## The distance -/

section Distances

variable {a b s t : List Char} {c d : Char} {n : Nat}

section Rows

theorem suffixDistances_nil (a : List Char) : suffixDistances [] a = [a.length] := by
  induction a with
  | nil => rfl
  | cons c a ih =>
    rw [suffixDistances, ih]
    rfl

/-- **The tail of a row is the row of the shorter text.** A row is extended from the back, so its
tail does not depend on its head. -/
theorem suffixDistances_cons (d : Char) (b a : List Char) :
    suffixDistances (d :: b) a = levenshtein a (d :: b) :: suffixDistances b a := by
  induction a with
  | nil => rfl
  | cons c a ih =>
    unfold levenshtein
    rw [suffixDistances, ih]
    rfl

/-- **A row holds the distances to all suffixes**, the longest first. -/
theorem suffixDistances_eq_map_tails (b a : List Char) :
    suffixDistances b a = b.tails.map (levenshtein a) := by
  induction b with
  | nil =>
    unfold levenshtein
    simp [suffixDistances_nil]
  | cons d b ih => rw [suffixDistances_cons, ih, List.tails, List.map_cons]

@[simp] theorem levenshtein_nil_left (b : List Char) : levenshtein [] b = b.length := by
  cases b <;> rfl

@[simp] theorem levenshtein_nil_right (a : List Char) : levenshtein a [] = a.length := by
  rw [levenshtein, suffixDistances_nil]
  rfl

/-- **The recursion on the first characters**: the first one is deleted, the second one is inserted,
or the first one is replaced by the second one, which is free if they are the same. -/
theorem levenshtein_cons_cons (c d : Char) (a b : List Char) :
    levenshtein (c :: a) (d :: b) =
      min (min (levenshtein a (d :: b) + 1) (levenshtein (c :: a) b + 1))
        (levenshtein a b + if c = d then 0 else 1) := by
  have row : suffixDistances (d :: b) a = levenshtein a (d :: b) :: suffixDistances b a :=
    suffixDistances_cons d b a
  rw [levenshtein, suffixDistances, row]
  rfl

end Rows

section Bounds

theorem levenshtein_cons_left_le (c : Char) (a b : List Char) :
    levenshtein (c :: a) b ≤ levenshtein a b + 1 := by
  cases b with
  | nil => simp
  | cons d b =>
    rw [levenshtein_cons_cons]
    omega

theorem levenshtein_cons_right_le (d : Char) (a b : List Char) :
    levenshtein a (d :: b) ≤ levenshtein a b + 1 := by
  cases a with
  | nil => simp
  | cons c a =>
    rw [levenshtein_cons_cons]
    omega

theorem levenshtein_cons_cons_le (c d : Char) (a b : List Char) :
    levenshtein (c :: a) (d :: b) ≤ levenshtein a b + 1 := by
  rw [levenshtein_cons_cons]
  split <;> omega

theorem levenshtein_self (a : List Char) : levenshtein a a = 0 := by
  induction a with
  | nil => rfl
  | cons c a ih =>
    rw [levenshtein_cons_cons, ih]
    simp

/-- No more edits are needed than the longer text has characters. -/
theorem levenshtein_le_max (a b : List Char) : levenshtein a b ≤ max a.length b.length := by
  induction a generalizing b with
  | nil => simp
  | cons c a ih =>
    cases b with
    | nil => simp
    | cons d b =>
      have rest := ih b
      have step := levenshtein_cons_cons_le c d a b
      simp only [List.length_cons]
      omega

end Bounds

section Upper

/-- **The distance is a number of edits.** Each branch of the recursion is one edit, or none if the
first characters agree. -/
theorem edits_levenshtein (a b : List Char) : Edits (levenshtein a b) a b := by
  induction a generalizing b with
  | nil =>
    rw [levenshtein_nil_left]
    exact .insertAll b
  | cons c a ihc =>
    induction b with
    | nil =>
      rw [levenshtein_nil_right]
      exact (Edits.insertAll (c :: a)).symm
    | cons d b ihd =>
      have deleted : Edits (1 + levenshtein a (d :: b)) (c :: a) (d :: b) :=
        (Edit.delete [] a c).edits.trans (ihc (d :: b))
      have inserted : Edits (levenshtein (c :: a) b + 1) (c :: a) (d :: b) :=
        .step ihd (.insert [] b d)
      have replaced : Edits (levenshtein a b + if c = d then 0 else 1) (c :: a) (d :: b) := by
        split
        · next same =>
          subst same
          exact (ihc b).cons c
        · exact .step ((ihc b).cons c) (.replace [] b c d)
      rw [Nat.add_comm] at deleted
      rw [levenshtein_cons_cons]
      rcases min_choice (min (levenshtein a (d :: b) + 1) (levenshtein (c :: a) b + 1))
        (levenshtein a b + if c = d then 0 else 1) with least | least <;> rw [least]
      · rcases min_choice (levenshtein a (d :: b) + 1) (levenshtein (c :: a) b + 1)
          with least | least <;> rw [least]
        · exact deleted
        · exact inserted
      · exact replaced

end Upper

section Lower

/-- Deleting the first character of a text brings it nearer to another by at most one. -/
theorem levenshtein_le_cons_right (d : Char) (a b : List Char) :
    levenshtein a b ≤ levenshtein a (d :: b) + 1 := by
  induction a with
  | nil =>
    simp only [levenshtein_nil_left, List.length_cons]
    omega
  | cons c a ih =>
    have longer : levenshtein (c :: a) b ≤ levenshtein a b + 1 := levenshtein_cons_left_le c a b
    rw [levenshtein_cons_cons]
    omega

/-- Replacing the first character of a text brings it nearer to another by at most one. -/
theorem levenshtein_replace_le (c d : Char) (a b : List Char) :
    levenshtein a (d :: b) ≤ levenshtein a (c :: b) + 1 := by
  induction a with
  | nil => simp
  | cons e a ih =>
    have deleted : levenshtein (e :: a) (d :: b) ≤ levenshtein a (d :: b) + 1 :=
      levenshtein_cons_left_le e a (d :: b)
    have inserted : levenshtein (e :: a) (d :: b) ≤ levenshtein (e :: a) b + 1 :=
      levenshtein_cons_right_le d (e :: a) b
    have replaced : levenshtein (e :: a) (d :: b) ≤ levenshtein a b + 1 :=
      levenshtein_cons_cons_le e d a b
    rw [levenshtein_cons_cons e c]
    omega

/-- If one text is never farther than another by more than one, so it is behind a common first
character. Both sides have the same branches in the recursion, and each of them grows by at most
one. -/
theorem levenshtein_cons_le_of_le (near : ∀ a, levenshtein a t ≤ levenshtein a s + 1) (d : Char)
    (a : List Char) : levenshtein a (d :: t) ≤ levenshtein a (d :: s) + 1 := by
  induction a with
  | nil => simpa using near []
  | cons c a ih =>
    have tails : levenshtein a t ≤ levenshtein a s + 1 := near a
    have whole : levenshtein (c :: a) t ≤ levenshtein (c :: a) s + 1 := near (c :: a)
    rw [levenshtein_cons_cons c d a t, levenshtein_cons_cons c d a s]
    omega

theorem levenshtein_append_le_of_le (near : ∀ a, levenshtein a t ≤ levenshtein a s + 1)
    (before a : List Char) :
    levenshtein a (before ++ t) ≤ levenshtein a (before ++ s) + 1 := by
  induction before generalizing a with
  | nil => exact near a
  | cons d before ih => exact levenshtein_cons_le_of_le ih d a

/-- **A single edit changes a distance by at most one**, wherever it is made. -/
theorem Edit.levenshtein_le (edit : Edit s t) (a : List Char) :
    levenshtein a t ≤ levenshtein a s + 1 := by
  cases edit with
  | insert before behind c =>
    exact levenshtein_append_le_of_le (levenshtein_cons_right_le c · behind) before a
  | delete before behind c =>
    exact levenshtein_append_le_of_le (levenshtein_le_cons_right c · behind) before a
  | replace before behind c d =>
    exact levenshtein_append_le_of_le (levenshtein_replace_le c d · behind) before a

/-- **No number of edits is less than the distance.** -/
theorem levenshtein_le_of_edits (edits : Edits n a b) : levenshtein a b ≤ n := by
  induction edits with
  | refl a => exact (levenshtein_self a).le
  | @step n a b c _ edit ih =>
    have last : levenshtein a c ≤ levenshtein a b + 1 := edit.levenshtein_le a
    omega

end Lower

section Least

/-- **The distance is the least number of edits.** -/
theorem isLeast_levenshtein (a b : List Char) : IsLeast {n | Edits n a b} (levenshtein a b) :=
  ⟨edits_levenshtein a b, fun _ => levenshtein_le_of_edits⟩

theorem levenshtein_comm (a b : List Char) : levenshtein a b = levenshtein b a := by
  apply le_antisymm
  · exact levenshtein_le_of_edits (edits_levenshtein b a).symm
  · exact levenshtein_le_of_edits (edits_levenshtein a b).symm

theorem levenshtein_eq_zero_iff : levenshtein a b = 0 ↔ a = b := by
  constructor
  · intro zero
    have none := edits_levenshtein a b
    rw [zero] at none
    exact none.eq_of_zero
  · rintro rfl
    exact levenshtein_self a

theorem dist_length_le_levenshtein (a b : List Char) :
    Nat.dist a.length b.length ≤ levenshtein a b :=
  (edits_levenshtein a b).dist_length_le

end Least

section Capped

variable {x y : String}

theorem cappedDistance_of_far
    (far : max x.length y.length / 2 < Nat.dist x.length y.length) :
    cappedDistance x y = max x.length y.length := by
  unfold cappedDistance
  unfold Nat.dist at far
  exact if_pos (by omega)

theorem cappedDistance_of_near
    (near : Nat.dist x.length y.length ≤ max x.length y.length / 2) :
    cappedDistance x y = levenshtein x.toList y.toList := by
  unfold cappedDistance
  unfold Nat.dist at near
  exact if_neg (by omega)

/-- A distance is the longer length if it is cut short, and the least number of edits if not. -/
theorem cappedDistance_eq_or_eq (x y : String) :
    cappedDistance x y = max x.length y.length ∨
      cappedDistance x y = levenshtein x.toList y.toList := by
  rcases lt_or_ge (max x.length y.length / 2) (Nat.dist x.length y.length) with far | near
  · exact .inl (cappedDistance_of_far far)
  · exact .inr (cappedDistance_of_near near)

theorem levenshtein_toList_le_max (x y : String) :
    levenshtein x.toList y.toList ≤ max x.length y.length := by
  simpa only [String.length_toList] using levenshtein_le_max x.toList y.toList

/-- Cutting the computation short never makes a distance less. -/
theorem levenshtein_le_cappedDistance (x y : String) :
    levenshtein x.toList y.toList ≤ cappedDistance x y := by
  have le := levenshtein_toList_le_max x y
  rcases cappedDistance_eq_or_eq x y with same | same <;> omega

theorem cappedDistance_le_max (x y : String) :
    cappedDistance x y ≤ max x.length y.length := by
  have le := levenshtein_toList_le_max x y
  rcases cappedDistance_eq_or_eq x y with same | same <;> omega

theorem cappedDistance_comm (x y : String) : cappedDistance x y = cappedDistance y x := by
  unfold cappedDistance
  rw [levenshtein_comm x.toList y.toList, max_comm x.length y.length, min_comm x.length y.length]

/-- The distance is zero only if the texts are equal: cut short or not, it is no less than the
least number of edits. -/
theorem cappedDistance_eq_zero_iff : cappedDistance x y = 0 ↔ x = y := by
  constructor
  · intro zero
    have least := levenshtein_le_cappedDistance x y
    rw [zero, Nat.le_zero, levenshtein_eq_zero_iff] at least
    exact String.toList_injective least
  · rintro rfl
    rw [cappedDistance_of_near (by simp [Nat.dist]), levenshtein_self]

/-- **What the distance of two texts is.** If their lengths differ by more than half of the longer
one, it is the longer length. Otherwise it is the least number of edits that turn one text into the
other. So it does not depend on the order of the texts, it is zero for equal texts only, and it lies
between the least number of edits and the longer length. -/
theorem cappedDistance_means (x y : String) :
    (if max x.length y.length / 2 < Nat.dist x.length y.length then
      cappedDistance x y = max x.length y.length
    else IsLeast {n | Edits n x.toList y.toList} (cappedDistance x y)) ∧
    cappedDistance x y = cappedDistance y x ∧
    (cappedDistance x y = 0 ↔ x = y) ∧
    (∃ least, IsLeast {n | Edits n x.toList y.toList} least ∧ least ≤ cappedDistance x y) ∧
    cappedDistance x y ≤ max x.length y.length := by
  refine ⟨?_, cappedDistance_comm x y, cappedDistance_eq_zero_iff, ?_, cappedDistance_le_max x y⟩
  · split
    · next far => exact cappedDistance_of_far far
    · next near =>
      rw [cappedDistance_of_near (not_lt.1 near)]
      exact isLeast_levenshtein x.toList y.toList
  · exact ⟨_, isLeast_levenshtein x.toList y.toList, levenshtein_le_cappedDistance x y⟩

/-- The lengths of these texts differ by half of the longer one, so two characters are inserted; one
more character, and nothing is counted but the length. -/
example : cappedDistance "ab" "abcd" = 2 ∧ cappedDistance "ab" "abcde" = 5 := by decide

end Capped

end Distances

end DefaultArgs
