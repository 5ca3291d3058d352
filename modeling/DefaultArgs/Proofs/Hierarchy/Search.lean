import DefaultArgs.Hierarchy
import DefaultArgs.Registry.Table
import Mathlib.Algebra.BigOperators.Group.Finset.Basic
import Mathlib.Data.Nat.Find
import Mathlib.Logic.Relation
import Mathlib.Order.Bounds.Basic

/-!
# What the search for supertypes finds

The supertypes of a name are searched breadth first, and a name is looked at only when its turn in
the queue comes. At every moment the queue holds the rest of one level, that is of the names that a
fixed number of steps leads to, and behind it a part of the next level. So no name is found too
early: what is found first is nearest. When the queue is empty, all names that a visited name leads
to were visited.

The search ends because every name is expanded once at most. The names that occur as supertypes are
finitely many, so their direct supertypes bound the number of rounds.

## Main definitions

* `Hierarchy.Above h a b`: the name `b` is a direct supertype of `a`
* `Hierarchy.Climbs h a n b`: some `n` steps lead from `a` to `b`
* `Hierarchy.IsDistance h a b n`: the least number of such steps is `n`
* `Hierarchy.Frontier h start d visited near far`: the state of a search at level `d`
* `Hierarchy.closureWithin direct limit a`: the search with a limit on its rounds
* `Hierarchy.roundsLeft h visited queue`: how many rounds a search needs at most

## Main results

* `closure_congr`: the supertypes depend on the direct ones only
* `isAssignable_congr`: so does assignability
* `mem_closure_iff`: exactly the reachable names are found
* `pairwise_closure`: the nearest come first
* `closureWithin_eq_some`: the search ends
* `Registry.closure_exact`: all of it, for the supertypes in a registry
-/

namespace DefaultArgs

/-! ## A hierarchy is known by its direct supertypes

A hierarchy comes with a list of all names that occur as supertypes. The list bounds the walk from a
name to its supertypes, and the walk takes nothing else from it. So two hierarchies with the same
direct supertypes answer alike, whatever their lists.
-/

namespace Hierarchy

variable {α : Type} [DecidableEq α] {h h' : Hierarchy α}

/-- Both walks visit the same names, and only the proofs that they end differ. -/
theorem walk_congr (same : ∀ a, h.direct a = h'.direct a) (start : α) (visited queue : List α)
    (known : ∀ a ∈ queue, a ∈ h.names) (known' : ∀ a ∈ queue, a ∈ h'.names) :
    h.walk start visited queue known = h'.walk start visited queue known' := by
  fun_induction walk h start visited queue known with
  | case1 => rw [walk]
  | case2 visited next rest _ old _ ih =>
    rw [walk, if_pos old]
    exact ih _
  | case3 visited next rest _ new _ ih =>
    rw [walk, if_neg new]
    have later : ∀ a ∈ rest ++ h'.direct next, a ∈ h'.names := by
      rw [List.forall_mem_append]
      exact ⟨(List.forall_mem_cons.1 known').2, h'.mem_names next⟩
    simp only [same next] at ih ⊢
    exact congrArg _ (ih later)

/-- **The supertypes depend on the direct ones only.** -/
theorem closure_congr (same : ∀ a, h.direct a = h'.direct a) (a : α) :
    h.closure a = h'.closure a := by
  unfold closure
  simp only [same a]
  exact walk_congr same a [] _ _ _

/-- Assignability depends on the direct supertypes only. -/
theorem isAssignable_congr {h h' : Hierarchy QualifiedName}
    (same : ∀ a, h.direct a = h'.direct a) : h.isAssignable = h'.isAssignable := by
  have subtypes : h.isSubtype = h'.isSubtype := by
    funext a b
    rw [isSubtype, isSubtype, closure_congr same]
  funext found expected
  unfold isAssignable
  rw [subtypes]

end Hierarchy

/-! ## The search, level by level -/

namespace Hierarchy

variable {α : Type} {h : Hierarchy α} {start a b c : α} {visited queue near far : List α} {d n : ℕ}

section Steps

variable (h)

/-- One step leads from a name to its direct supertypes. -/
def Above (a b : α) : Prop :=
  b ∈ h.direct a

/-- A number of steps leads from one name to another. -/
inductive Climbs (a : α) : ℕ → α → Prop
  | start : Climbs a 0 a
  | step {n : ℕ} {b c : α} (climbed : Climbs a n b) (above : h.Above b c) : Climbs a (n + 1) c

/-- The least number of steps that lead from one name to another. -/
def IsDistance (a b : α) (n : ℕ) : Prop :=
  IsLeast {k | h.Climbs a k b} n

variable {h}

theorem climbs_zero_iff : h.Climbs a 0 b ↔ b = a := by
  constructor
  · intro climbed
    cases climbed
    rfl
  · rintro rfl
    exact .start

theorem climbs_succ_iff : h.Climbs a (n + 1) c ↔ ∃ b, h.Climbs a n b ∧ h.Above b c := by
  constructor
  · intro climbed
    cases climbed with
    | step climbed above => exact ⟨_, climbed, above⟩
  · rintro ⟨b, climbed, above⟩
    exact climbed.step above

/-- A name that steps lead to has a distance. -/
theorem exists_isDistance (climbed : h.Climbs a n b) : ∃ m, h.IsDistance a b m := by
  classical
  have reached : ∃ k, h.Climbs a k b := ⟨n, climbed⟩
  exact ⟨Nat.find reached, Nat.find_spec reached, fun _ => Nat.find_min' reached⟩

/-- One or more steps are a chain of single ones. -/
theorem transGen_iff_exists_climbs :
    Relation.TransGen h.Above a b ↔ ∃ n, h.Climbs a (n + 1) b := by
  constructor
  · intro chain
    induction chain with
    | single above => exact ⟨0, .step .start above⟩
    | tail _ above ih =>
      obtain ⟨n, climbed⟩ := ih
      exact ⟨n + 1, climbed.step above⟩
  · rintro ⟨n, climbed⟩
    induction n generalizing b with
    | zero =>
      obtain ⟨a', climbed, above⟩ := climbs_succ_iff.1 climbed
      obtain rfl := climbs_zero_iff.1 climbed
      exact .single above
    | succ n ih =>
      obtain ⟨b', climbed, above⟩ := climbs_succ_iff.1 climbed
      exact (ih climbed).tail above

end Steps

section Frontier

/-- **The state of a search at level `d`.** The queue holds the rest of this level, `near`, and
behind it a part of the next one, `far`. The levels below are visited, and what a visited name leads
to is visited or queued. The start counts as visited. -/
structure Frontier (h : Hierarchy α) (start : α) (d : ℕ) (visited near far : List α) :
    Prop where
  near_climbs : ∀ b ∈ near, h.Climbs start d b
  far_climbs : ∀ b ∈ far, h.Climbs start (d + 1) b
  below : ∀ n < d, ∀ b, h.Climbs start n b → b ∈ start :: visited
  level : ∀ b, h.Climbs start d b → b ∈ start :: visited ∨ b ∈ near
  closed : ∀ b ∈ start :: visited, ∀ c, h.Above b c → c ∈ start :: visited ∨ c ∈ near ∨ c ∈ far

/-- A search starts at the first level. -/
theorem frontier_start : h.Frontier start 1 [] (h.direct start) [] where
  near_climbs b mem := .step .start mem
  far_climbs b mem := by cases mem
  below n lt b climbed := by
    obtain rfl : n = 0 := by omega
    exact List.mem_singleton.2 (climbs_zero_iff.1 climbed)
  level b climbed := by
    obtain ⟨a, climbed, above⟩ := climbs_succ_iff.1 climbed
    obtain rfl := climbs_zero_iff.1 climbed
    exact .inr above
  closed b mem c above := by
    obtain rfl := List.mem_singleton.1 mem
    exact .inr (.inl above)

namespace Frontier

/-- When a level is done, the next one is in the queue as a whole. -/
theorem advance (front : h.Frontier start d visited [] far) :
    h.Frontier start (d + 1) visited far [] := by
  have done : ∀ b, h.Climbs start d b → b ∈ start :: visited := fun b climbed =>
    (front.level b climbed).resolve_right List.not_mem_nil
  constructor
  case near_climbs => exact front.far_climbs
  case far_climbs =>
    intro b mem
    cases mem
  case below =>
    intro n lt b climbed
    rcases Nat.lt_succ_iff_lt_or_eq.1 lt with lt | rfl
    · exact front.below n lt b climbed
    · exact done b climbed
  case level =>
    intro c climbed
    obtain ⟨b, climbed, above⟩ := climbs_succ_iff.1 climbed
    rcases front.closed b (done b climbed) c above with old | near | far
    · exact .inl old
    · cases near
    · exact .inr far
  case closed =>
    intro b mem c above
    rcases front.closed b mem c above with old | near | far
    · exact .inl old
    · cases near
    · exact .inr (.inl far)

/-- The next name in the queue belongs to the current level, if this is chosen right. It is the next
level if the current one is done. -/
theorem exists_level (front : h.Frontier start d visited near far) {next : α} {rest : List α}
    (queued : next :: rest = near ++ far) : ∃ d' near' far',
      h.Frontier start d' visited (next :: near') far' ∧ rest = near' ++ far' := by
  cases near with
  | nil =>
    rw [List.nil_append] at queued
    subst queued
    exact ⟨d + 1, rest, [], front.advance, (List.append_nil rest).symm⟩
  | cons first near =>
    rw [List.cons_append, List.cons.injEq] at queued
    obtain ⟨rfl, rfl⟩ := queued
    exact ⟨d, near, far, front, rfl⟩

/-- A name that was visited before is passed over. -/
theorem skip {next : α} (front : h.Frontier start d visited (next :: near) far)
    (old : next ∈ start :: visited) : h.Frontier start d visited near far := by
  constructor
  case near_climbs => exact fun b mem => front.near_climbs b (List.mem_cons_of_mem _ mem)
  case far_climbs => exact front.far_climbs
  case below => exact front.below
  case level =>
    intro b climbed
    rcases front.level b climbed with seen | queued
    · exact .inl seen
    · rcases List.mem_cons.1 queued with rfl | queued
      · exact .inl old
      · exact .inr queued
  case closed =>
    intro b mem c above
    rcases front.closed b mem c above with seen | queued | queued
    · exact .inl seen
    · rcases List.mem_cons.1 queued with rfl | queued
      · exact .inl old
      · exact .inr (.inl queued)
    · exact .inr (.inr queued)

/-- A new name is visited, and its direct supertypes are queued at the end. -/
theorem visit {next : α} (front : h.Frontier start d visited (next :: near) far) :
    h.Frontier start d (next :: visited) near (far ++ h.direct next) := by
  have kept : ∀ b ∈ start :: visited, b ∈ start :: next :: visited := by
    intro b mem
    rcases List.mem_cons.1 mem with rfl | mem
    · exact List.mem_cons_self
    · exact List.mem_cons_of_mem _ (List.mem_cons_of_mem _ mem)
  have here : next ∈ start :: next :: visited := List.mem_cons_of_mem _ List.mem_cons_self
  constructor
  case near_climbs => exact fun b mem => front.near_climbs b (List.mem_cons_of_mem _ mem)
  case far_climbs =>
    intro b mem
    rcases List.mem_append.1 mem with mem | above
    · exact front.far_climbs b mem
    · exact (front.near_climbs next List.mem_cons_self).step above
  case below => exact fun n lt b climbed => kept b (front.below n lt b climbed)
  case level =>
    intro b climbed
    rcases front.level b climbed with seen | queued
    · exact .inl (kept b seen)
    · rcases List.mem_cons.1 queued with rfl | queued
      · exact .inl here
      · exact .inr queued
  case closed =>
    intro b mem c above
    by_cases same : b = next
    · subst same
      exact .inr (.inr (List.mem_append_right _ above))
    · have old : b ∈ start :: visited := by
        rcases List.mem_cons.1 mem with rfl | mem
        · exact List.mem_cons_self
        · exact List.mem_cons_of_mem _ ((List.mem_cons.1 mem).resolve_left same)
      rcases front.closed b old c above with seen | queued | queued
      · exact .inl (kept c seen)
      · rcases List.mem_cons.1 queued with rfl | queued
        · exact .inl here
        · exact .inr (.inl queued)
      · exact .inr (.inr (List.mem_append_left _ queued))

end Frontier

end Frontier

variable [DecidableEq α]

section Walks

variable (known : ∀ a ∈ queue, a ∈ h.names)

/-- A search finds new names only. -/
theorem not_mem_of_mem_walk (mem : b ∈ h.walk start visited queue known) :
    b ∉ start :: visited := by
  fun_induction walk h start visited queue known with
  | case1 => cases mem
  | case2 visited next rest _ _ _ ih => exact ih mem
  | case3 visited next rest _ new _ ih =>
    have fresh : next ∉ start :: visited := by simpa using new
    rcases List.mem_cons.1 mem with rfl | mem
    · exact fresh
    · intro old
      refine ih mem ?_
      rcases List.mem_cons.1 old with rfl | old
      · exact List.mem_cons_self
      · exact List.mem_cons_of_mem _ (List.mem_cons_of_mem _ old)

theorem nodup_walk : (h.walk start visited queue known).Nodup := by
  fun_induction walk h start visited queue known with
  | case1 => exact List.nodup_nil
  | case2 visited next rest _ _ _ ih => exact ih
  | case3 visited next rest _ _ _ ih =>
    refine List.nodup_cons.2 ⟨fun again => ?_, ih⟩
    exact not_mem_of_mem_walk _ again (List.mem_cons_of_mem _ List.mem_cons_self)

/-- A search at some level finds names that steps lead to. -/
theorem exists_climbs_of_mem_walk (front : h.Frontier start d visited near far)
    (queued : queue = near ++ far) (mem : b ∈ h.walk start visited queue known) :
    ∃ n, h.Climbs start n b := by
  fun_induction walk h start visited queue known generalizing d near far with
  | case1 => cases mem
  | case2 visited next rest _ old _ ih =>
    obtain ⟨d, near, far, front, rfl⟩ := front.exists_level queued
    exact ih (front.skip (by simpa using old)) rfl mem
  | case3 visited next rest _ _ _ ih =>
    obtain ⟨d, near, far, front, rfl⟩ := front.exists_level queued
    rcases List.mem_cons.1 mem with rfl | mem
    · exact ⟨d, front.near_climbs b List.mem_cons_self⟩
    · exact ih front.visit (List.append_assoc _ _ _) mem

/-- **When a search ends, all that the visited names lead to was visited.** -/
theorem closed_walk (front : h.Frontier start d visited near far) (queued : queue = near ++ far)
    (mem : b ∈ start :: visited ++ h.walk start visited queue known) (above : h.Above b c) :
    c ∈ start :: visited ++ h.walk start visited queue known := by
  fun_induction walk h start visited queue known generalizing d near far with
  | case1 visited =>
    obtain ⟨rfl, rfl⟩ := List.append_eq_nil_iff.1 queued.symm
    rw [List.append_nil] at mem ⊢
    rcases front.closed b mem c above with seen | none | none
    · exact seen
    · cases none
    · cases none
  | case2 visited next rest _ old _ ih =>
    obtain ⟨d, near, far, front, rfl⟩ := front.exists_level queued
    exact ih (front.skip (by simpa using old)) rfl mem
  | case3 visited next rest _ _ _ ih =>
    obtain ⟨d, near, far, front, rfl⟩ := front.exists_level queued
    -- The visited names and the found ones are the same in both states, up to their order.
    have moved : ∀ x found, x ∈ start :: visited ++ next :: found ↔
        x ∈ start :: next :: visited ++ found := by
      intro x found
      simp only [List.cons_append, List.mem_cons, List.mem_append]
      tauto
    rw [moved] at mem ⊢
    exact ih front.visit (List.append_assoc _ _ _) mem

/-- **What is found first is nearest**: no fewer steps lead to a name that is found later. A name
below the level of another would have been visited already. -/
theorem pairwise_walk (front : h.Frontier start d visited near far)
    (queued : queue = near ++ far) :
    (h.walk start visited queue known).Pairwise fun b c =>
      ∃ m, h.Climbs start m b ∧ ∀ n, h.Climbs start n c → m ≤ n := by
  fun_induction walk h start visited queue known generalizing d near far with
  | case1 => exact List.Pairwise.nil
  | case2 visited next rest _ old _ ih =>
    obtain ⟨d, near, far, front, rfl⟩ := front.exists_level queued
    exact ih (front.skip (by simpa using old)) rfl
  | case3 visited next rest _ _ _ ih =>
    obtain ⟨d, near, far, front, rfl⟩ := front.exists_level queued
    refine List.pairwise_cons.2 ⟨fun c later => ?_, ih front.visit (List.append_assoc _ _ _)⟩
    refine ⟨d, front.near_climbs next List.mem_cons_self, fun n climbed => ?_⟩
    by_contra lower
    exact not_mem_of_mem_walk _ later (front.visit.below n (not_le.1 lower) c climbed)

end Walks

section Closure

variable (h a)

theorem nodup_closure : (h.closure a).Nodup :=
  nodup_walk _

variable {h a}

/-- **Exactly the names that steps lead to are found**, the start itself excepted. The start and
what is found are closed under steps. -/
theorem mem_closure_iff :
    b ∈ h.closure a ↔ b ≠ a ∧ Relation.TransGen h.Above a b := by
  constructor
  · intro mem
    have new : b ≠ a := List.ne_of_not_mem_cons (not_mem_of_mem_walk _ mem)
    obtain ⟨n, climbed⟩ :=
      exists_climbs_of_mem_walk _ frontier_start (List.append_nil _).symm mem
    cases n with
    | zero => exact absurd (climbs_zero_iff.1 climbed) new
    | succ n => exact ⟨new, transGen_iff_exists_climbs.2 ⟨n, climbed⟩⟩
  · rintro ⟨new, chain⟩
    have closed : ∀ x ∈ a :: h.closure a, ∀ y, h.Above x y → y ∈ a :: h.closure a :=
      fun x mem y above => closed_walk _ frontier_start (List.append_nil _).symm mem above
    have found : b ∈ a :: h.closure a := by
      clear new
      induction chain with
      | single above => exact closed _ List.mem_cons_self _ above
      | tail _ above ih => exact closed _ ih _ above
    exact (List.mem_cons.1 found).resolve_left new

theorem exists_isDistance_of_mem_closure (mem : b ∈ h.closure a) : ∃ n, h.IsDistance a b n := by
  obtain ⟨n, climbed⟩ := transGen_iff_exists_climbs.1 (mem_closure_iff.1 mem).2
  exact exists_isDistance climbed

/-- **The distances never decrease** along the supertypes. -/
theorem pairwise_closure : (h.closure a).Pairwise fun b c =>
    ∃ m n, h.IsDistance a b m ∧ h.IsDistance a c n ∧ m ≤ n := by
  refine (pairwise_walk _ frontier_start (List.append_nil _).symm).imp_of_mem ?_
  rintro b c mem_b mem_c ⟨k, climbed, least⟩
  obtain ⟨m, distance_b⟩ := exists_isDistance_of_mem_closure mem_b
  obtain ⟨n, distance_c⟩ := exists_isDistance_of_mem_closure mem_c
  exact ⟨m, n, distance_b, distance_c, (distance_b.2 climbed).trans (least n distance_c.1)⟩

/-- A loop at `B`, cycles through `A` and through `D`, and two ways to `D`. -/
example : (ofEntries [("A", ["B", "C"]), ("B", ["A", "B", "D"]), ("C", ["D", "E"]),
    ("D", ["B"])]).closure "A" = ["B", "C", "D", "E"] := by cbv

end Closure

section Rounds

/-- The search with a limit on its rounds, each of which takes one name from the queue. There is no
result if names are queued at the end. -/
def walkWithin (direct : α → List α) (start : α) : ℕ → List α → List α → Option (List α)
  | _, _, [] => some []
  | 0, _, _ :: _ => none
  | limit + 1, visited, next :: rest =>
    if next = start ∨ next ∈ visited then walkWithin direct start limit visited rest
    else (walkWithin direct start limit (next :: visited) (rest ++ direct next)).map (next :: ·)

/-- The supertypes of a name, if they are found within a number of rounds. -/
def closureWithin (direct : α → List α) (limit : ℕ) (a : α) : Option (List α) :=
  walkWithin direct a limit [] (direct a)

/-- How many rounds a search needs at most: one for each name in the queue, and one for each direct
supertype of a name that was not visited. -/
def roundsLeft (h : Hierarchy α) (visited queue : List α) : ℕ :=
  queue.length + ∑ b ∈ h.names.toFinset with b ∉ visited, (h.direct b).length

/-- A visit makes the queue longer by as much as there is less to come. -/
theorem roundsLeft_visit {next : α} {rest : List α} (known : next ∈ h.names)
    (new : next ∉ visited) : h.roundsLeft visited (next :: rest) =
      h.roundsLeft (next :: visited) (rest ++ h.direct next) + 1 := by
  have here : next ∈ h.names.toFinset.filter (· ∉ visited) := by simp [known, new]
  have others : h.names.toFinset.filter (· ∉ next :: visited) =
      (h.names.toFinset.filter (· ∉ visited)).erase next := by
    ext b
    simp only [Finset.mem_filter, Finset.mem_erase, List.mem_cons, not_or]
    tauto
  rw [roundsLeft, roundsLeft, others, ← Finset.add_sum_erase _ _ here, List.length_cons,
    List.length_append]
  omega

theorem walkWithin_eq_some (known : ∀ a ∈ queue, a ∈ h.names) {limit : ℕ}
    (enough : h.roundsLeft visited queue ≤ limit) :
    walkWithin h.direct start limit visited queue =
      some (h.walk start visited queue known) := by
  fun_induction walk h start visited queue known generalizing limit with
  | case1 => cases limit <;> rfl
  | case2 visited next rest _ old _ ih =>
    have left : h.roundsLeft visited (next :: rest) = h.roundsLeft visited rest + 1 := by
      rw [roundsLeft, roundsLeft, List.length_cons]
      omega
    obtain ⟨limit, rfl⟩ : ∃ k, limit = k + 1 := ⟨limit - 1, by omega⟩
    rw [walkWithin, if_pos old]
    exact ih (by omega)
  | case3 visited next rest known new _ ih =>
    have left : h.roundsLeft visited (next :: rest) =
        h.roundsLeft (next :: visited) (rest ++ h.direct next) + 1 :=
      roundsLeft_visit (known next List.mem_cons_self) fun old => new (.inr old)
    obtain ⟨limit, rfl⟩ : ∃ k, limit = k + 1 := ⟨limit - 1, by omega⟩
    rw [walkWithin, if_neg new, ih (by omega)]
    rfl

/-- **The search ends** after as many rounds as there are direct supertypes of the name and of all
names that occur as supertypes. -/
theorem closureWithin_eq_some {limit : ℕ}
    (enough : (h.direct a).length + ∑ b ∈ h.names.toFinset, (h.direct b).length ≤ limit) :
    closureWithin h.direct limit a = some (h.closure a) := by
  refine walkWithin_eq_some _ ?_
  rw [roundsLeft]
  simpa using enough

end Rounds

end Hierarchy

namespace Registry

/-- **The supertypes in a registry.** Each of them is listed once; they are the names, other than
the name itself, that one or more steps to direct supertypes lead to; and their distances never
decrease along the list. The search for them ends, whatever cycles there are, after as many rounds
as there are direct supertypes of the name and of all names that occur as supertypes. -/
theorem closure_exact (r : Registry) (name : QualifiedName) :
    (r.hierarchy.closure name).Nodup ∧
      (∀ q, q ∈ r.hierarchy.closure name ↔
        q ≠ name ∧ Relation.TransGen (fun a b => b ∈ r.directSupertypes a) name q) ∧
      ((r.hierarchy.closure name).Pairwise fun p q =>
        ∃ m n, r.hierarchy.IsDistance name p m ∧ r.hierarchy.IsDistance name q n ∧ m ≤ n) ∧
      ∀ limit, (r.directSupertypes name).length +
          ∑ b ∈ r.hierarchy.names.toFinset, (r.directSupertypes b).length ≤ limit →
        Hierarchy.closureWithin r.directSupertypes limit name =
          some (r.hierarchy.closure name) := by
  refine ⟨Hierarchy.nodup_closure _ _, ?reached, Hierarchy.pairwise_closure, ?ends⟩
  case reached =>
    intro q
    exact Hierarchy.mem_closure_iff
  case ends =>
    intro limit enough
    exact Hierarchy.closureWithin_eq_some (h := r.hierarchy) enough

end Registry

end DefaultArgs
