import DefaultArgs.Companion
import Mathlib.Data.List.MinMax
import Mathlib.Data.Prod.Lex

/-!
# Which constructor is chosen

Constructors are ranked by how many of their parameters have a companion default, and constructors
equal in this by how many parameters they have. The chosen one is the first of highest rank: those
before it rank lower, and those behind it rank no higher. None is chosen only if no parameter of any
constructor has a companion default.

## Main definitions

* `CompanionDefaults.rank ds c`: the rank of a constructor
* `CompanionDefaults.FirstBest ds candidates c`: the first constructor of highest rank

## Main results

* `best?_eq_argmax`: the best constructor is the first one that maximizes the rank
* `choose?_eq_none_iff`: when no constructor is chosen
* `firstBest_of_choose?`: which constructor is chosen
-/

namespace DefaultArgs.CompanionDefaults

variable (ds : CompanionDefaults)

/-- The rank of a constructor: its parameters with a companion default count first, and all of its
parameters second. -/
def rank (c : SourcedCallable) : ℕ ×ₗ ℕ :=
  toLex (ds.matched c, c.parameters.length)

/-- **The first constructor of highest rank.** Those before it rank lower, and those behind it rank
no higher. -/
def FirstBest (candidates : List SourcedCallable) (c : SourcedCallable) : Prop :=
  ∃ before behind, candidates = before ++ c :: behind ∧
    (∀ a ∈ before, ds.rank a < ds.rank c) ∧ ∀ b ∈ behind, ds.rank b ≤ ds.rank c

variable {ds} {candidates : List SourcedCallable} {a b c : SourcedCallable}

theorem outranks_iff : ds.outranks a b ↔ ds.rank b < ds.rank a := by
  rw [rank, rank, Prod.Lex.toLex_lt_toLex, outranks, Bool.or_eq_true, Bool.and_eq_true]
  simp only [decide_eq_true_eq]
  constructor
  · rintro (more | ⟨same, longer⟩)
    · exact .inl more
    · exact .inr ⟨same.symm, longer⟩
  · rintro (more | ⟨same, longer⟩)
    · exact .inl more
    · exact .inr ⟨same.symm, longer⟩

/-- The best constructor is the first one that maximizes the rank. -/
theorem best?_eq_argmax (candidates : List SourcedCallable) :
    ds.best? candidates = candidates.argmax ds.rank := by
  induction candidates with
  | nil => rfl
  | cons a rest ih =>
    rw [best?, ih, List.argmax_cons]
    cases rest.argmax ds.rank with
    | none => rfl
    | some other => simp only [outranks_iff]

/-- **No constructor is chosen** if no parameter of any constructor has a companion default, and
only then. Ranks are compared by the counts first, so if the highest count is zero, all are. -/
theorem choose?_eq_none_iff :
    ds.choose? candidates = none ↔ ∀ c ∈ candidates, ds.matched c = 0 := by
  rw [choose?, best?_eq_argmax, Option.filter_eq_none_iff]
  constructor
  · intro rejected c mem
    cases found : candidates.argmax ds.rank with
    | none =>
      rw [List.argmax_eq_none] at found
      simp [found] at mem
    | some best =>
      have none : ds.matched best = 0 := by simpa using rejected best found
      rcases Prod.Lex.toLex_le_toLex.1 (List.le_of_mem_argmax mem found) with less | ⟨same, -⟩
      · omega
      · omega
  · intro none best found
    simp [none best (List.argmax_mem found)]

/-- **The chosen constructor** is the first one of highest rank, and some parameter of it has
a companion default. -/
theorem firstBest_of_choose? (chosen : ds.choose? candidates = some c) :
    ds.FirstBest candidates c ∧ 0 < ds.matched c := by
  rw [choose?, best?_eq_argmax, Option.filter_eq_some_iff, decide_eq_true_eq] at chosen
  obtain ⟨best, some_matched⟩ := chosen
  obtain ⟨mem, highest, first⟩ := List.argmax_eq_some_iff.1 best
  refine ⟨?_, some_matched⟩
  obtain ⟨before, behind, rfl, fresh⟩ := List.eq_append_cons_of_mem mem
  have place : (before ++ c :: behind).idxOf c = before.length := by
    rw [List.idxOf_append_of_notMem fresh, List.idxOf_cons_self, Nat.add_zero]
  refine ⟨before, behind, rfl, ?_, fun b later => highest b (by simp [later])⟩
  intro a earlier
  refine lt_of_le_of_ne (highest a (by simp [earlier])) fun same => ?_
  have le := first a (by simp [earlier]) same.ge
  rw [place, List.idxOf_append_of_mem earlier] at le
  have lt := List.idxOf_lt_length_iff.2 earlier
  omega

end DefaultArgs.CompanionDefaults
