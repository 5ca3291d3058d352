import DefaultArgs.Plan
import DefaultArgs.Proofs.Listing
import Mathlib.Data.List.Nodup
import Mathlib.Data.List.Sort

/-!
# Which builders are in conflict

A target is in conflict exactly if some target with a builder of the same name in the same namespace
has another identity. The conflict names one target of every identity, in the order in which the
identities first occur, so it does not matter how often a target is repeated.

## Main definitions

* `Target.ListedOnce all listed`: `listed` has one entry for every identity in `all`, in order
* `NamedTarget.LivesIn t place`: the namespace of a builder
* `NamedTarget.rivals suffix all t`: the targets with builders of the name and namespace of `t`
* `NamedTarget.told suffix all t`: what a conflict of `t` tells of its targets
* `NamedTarget.conflictsByKey suffix all`: all conflicts, collected group by group

## Main results

* `NamedTarget.livesIn_iff`, `NamedTarget.key_eq_key_iff_livesIn`: when builders have one key
* `listedOnce_distinctTargets`: the targets of different identity, each once and in order
* `conflict?_eq_none_iff`: there is no conflict exactly if all rivals have one identity
* `conflict?_of_ne`: the conflict of a target with a rival of another identity
* `lookup_conflicts`: the conflict at a place is that of the target there
* `conflictsByKey_eq`: the conflicts of all groups, put in order, are the conflicts by places
-/

namespace DefaultArgs

/-- **One entry for every identity.** The targets are read in order, and a target is listed if none
before it has its identity. -/
inductive Target.ListedOnce : List Target → List Target → Prop
  | nil : ListedOnce [] []
  | new {all listed : List Target} {t : Target} (before : ListedOnce all listed)
      (fresh : ∀ u ∈ all, u.hash ≠ t.hash) : ListedOnce (all ++ [t]) (listed ++ [t])
  | known {all listed : List Target} {t u : Target} (before : ListedOnce all listed)
      (mem : u ∈ all) (same : u.hash = t.hash) : ListedOnce (all ++ [t]) listed

namespace Target

variable {all listed : List Target}

/-- Targets of one identity are taken for duplicates. -/
abbrev sameHash (a b : Target) : Bool := a.hash = b.hash

/-- A target at the end is left out if one before it has its identity. This one may be left out
itself as a duplicate of the first target, which has the same identity then. -/
theorem eraseDupsBy_concat (all : List Target) (t : Target) :
    (all ++ [t]).eraseDupsBy sameHash =
      all.eraseDupsBy sameHash ++ if ∃ u ∈ all, u.hash = t.hash then [] else [t] := by
  match all with
  | [] => simp [List.eraseDupsBy_cons]
  | a :: rest =>
    rw [List.cons_append, List.eraseDupsBy_cons, List.eraseDupsBy_cons, List.filter_append,
      List.cons_append]
    by_cases same : a.hash = t.hash
    · simp [same]
    · have kept : [t].filter (fun b => sameHash b a = false) = [t] := by
        simp [Ne.symm same]
      rw [kept, eraseDupsBy_concat]
      congr 2
      refine if_congr ⟨?_, ?_⟩ rfl rfl
      · rintro ⟨u, mem, eq⟩
        exact ⟨u, List.mem_cons_of_mem _ (List.mem_filter.1 mem).1, eq⟩
      · rintro ⟨u, mem, eq⟩
        rcases List.mem_cons.1 mem with rfl | mem
        · exact absurd eq same
        · refine ⟨u, List.mem_filter.2 ⟨mem, ?_⟩, eq⟩
          simpa [eq] using Ne.symm same
termination_by all.length
decreasing_by
  exact Nat.lt_succ_of_le (List.length_filter_le _ _)

/-- The targets without the duplicates list every identity once. The induction is on the end, since
a target is compared with those before it. -/
theorem listedOnce_eraseDupsBy (all : List Target) :
    ListedOnce all (all.eraseDupsBy sameHash) := by
  induction all using List.reverseRecOn with
  | nil => exact .nil
  | append_singleton all t ih =>
    rw [eraseDupsBy_concat]
    split
    · next known =>
      obtain ⟨u, mem, same⟩ := known
      simpa using ListedOnce.known ih mem same
    · next fresh => exact .new ih fun u mem same => fresh ⟨u, mem, same⟩

namespace ListedOnce

variable (h : ListedOnce all listed)

include h

theorem mem_of_mem_listed {t : Target} (mem : t ∈ listed) : t ∈ all := by
  induction h with
  | nil => cases mem
  | new before fresh ih =>
    rcases List.mem_append.1 mem with old | last
    · exact List.mem_append_left _ (ih old)
    · exact List.mem_append_right _ last
  | known before known same ih => exact List.mem_append_left _ (ih mem)

theorem exists_mem_listed : ∀ t ∈ all, ∃ u ∈ listed, u.hash = t.hash := by
  induction h with
  | nil => simp
  | new before fresh ih =>
    intro t mem
    rcases List.mem_append.1 mem with old | last
    · obtain ⟨u, mem, same⟩ := ih t old
      exact ⟨u, List.mem_append_left _ mem, same⟩
    · exact ⟨t, List.mem_append_right _ last, rfl⟩
  | known before known same ih =>
    intro t mem
    rcases List.mem_append.1 mem with old | last
    · exact ih t old
    · obtain rfl := List.mem_singleton.1 last
      obtain ⟨u, mem, eq⟩ := ih _ known
      exact ⟨u, mem, eq.trans same⟩

theorem nodup_hash : (listed.map Target.hash).Nodup := by
  induction h with
  | nil => exact List.nodup_nil
  | new before fresh ih =>
    rw [List.map_append, List.nodup_append]
    refine ⟨ih, by simp, ?_⟩
    intro a mem b last
    obtain ⟨u, listed, rfl⟩ := List.mem_map.1 mem
    obtain rfl : b = _ := by simpa using last
    exact fresh u (before.mem_of_mem_listed listed)
  | known before known same ih => exact ih

/-- Fewer than two entries mean that all targets have one identity. -/
theorem length_lt_two_iff : listed.length < 2 ↔ ∀ t ∈ all, ∀ u ∈ all, t.hash = u.hash := by
  constructor
  · intro short t ht u hu
    obtain ⟨a, ha, at_⟩ := h.exists_mem_listed t ht
    obtain ⟨b, hb, bu⟩ := h.exists_mem_listed u hu
    have single : a = b := by
      match listed, short with
      | [c], _ => simp_all
    rw [← at_, ← bu, single]
  · intro one
    match listed, h with
    | [], _ | [_], _ => simp
    | a :: b :: rest, h =>
      have distinct : a.hash ≠ b.hash := by
        have := h.nodup_hash
        simp only [List.map_cons, List.nodup_cons, List.mem_cons, not_or] at this
        exact this.1.1
      exact absurd (one a (h.mem_of_mem_listed (by simp)) b (h.mem_of_mem_listed (by simp)))
        distinct

end ListedOnce

end Target

namespace NamedTarget

variable {suffix : String} {all all' : List NamedTarget} {t u : NamedTarget}

/-- **The namespace of a builder** is that of the owner if the builder is generated in the owner,
and a scope of its own otherwise. -/
inductive LivesIn : NamedTarget → String → Prop
  | owner (target : Target) : LivesIn ⟨target, .owner⟩ (".".intercalate target.owner.enclosing)
  | utility (target : Target) (scope : QualifiedName) :
      LivesIn ⟨target, .utility scope⟩ (".".intercalate scope.segments)

theorem livesIn_iff {place : String} : t.LivesIn place ↔ t.home = place := by
  constructor
  · intro lives
    cases lives with
    | owner target => rfl
    | utility target scope => exact scope.display_eq
  · rintro rfl
    obtain ⟨target, placement⟩ := t
    cases placement with
    | owner => exact .owner target
    | utility scope =>
      have written : home ⟨target, .utility scope⟩ = ".".intercalate scope.segments :=
        scope.display_eq
      exact written ▸ .utility target scope

/-- **Builders have one key** if they live in one namespace and have one name. -/
theorem key_eq_key_iff_livesIn : u.key suffix = t.key suffix ↔
    (∃ place, t.LivesIn place ∧ u.LivesIn place) ∧
      u.target.builderName suffix = t.target.builderName suffix := by
  rw [key, key, Prod.mk.injEq]
  refine and_congr_left fun _ => ?_
  simp only [livesIn_iff, exists_eq_left']

/-- The targets that would get builders of the name and the namespace of the builder of `t`. -/
def rivals (suffix : String) (all : List NamedTarget) (t : NamedTarget) : List Target :=
  (all.filter (·.key suffix = t.key suffix)).map target

/-- What a conflict of `t` tells of its targets: one of every identity, in its written form. -/
def told (suffix : String) (all : List NamedTarget) (t : NamedTarget) : List String :=
  (distinctTargets (all.filter (·.key suffix = t.key suffix))).map Target.display

theorem mem_rivals {a : Target} :
    a ∈ rivals suffix all t ↔ ∃ u ∈ all, u.key suffix = t.key suffix ∧ u.target = a := by
  simp [rivals, and_assoc]

/-- The rivals are the targets whose builders live where that of `t` lives, and have its name. -/
theorem mem_rivals_iff_livesIn {a : Target} : a ∈ rivals suffix all t ↔ ∃ u ∈ all,
    ((∃ place, t.LivesIn place ∧ u.LivesIn place) ∧
      u.target.builderName suffix = t.target.builderName suffix) ∧ u.target = a := by
  simp only [mem_rivals, key_eq_key_iff_livesIn]

theorem listedOnce_distinctTargets (suffix : String) (all : List NamedTarget) (t : NamedTarget) :
    Target.ListedOnce (rivals suffix all t)
      (distinctTargets (all.filter (·.key suffix = t.key suffix))) :=
  Target.listedOnce_eraseDupsBy _

theorem conflict?_eq (suffix : String) (all : List NamedTarget) (t : NamedTarget) :
    t.conflict? suffix all =
      if (told suffix all t).length < 2 then none
      else some (.builderNameConflict (t.target.builderName suffix) t.home
        (told suffix all t)) := by
  simp only [told, List.length_map]
  rfl

theorem length_told_lt_two_iff :
    (told suffix all t).length < 2 ↔
      ∀ a ∈ rivals suffix all t, ∀ b ∈ rivals suffix all t, a.hash = b.hash := by
  rw [told, List.length_map]
  exact (listedOnce_distinctTargets suffix all t).length_lt_two_iff

/-- There is no conflict exactly if all rivals of a target have its identity. -/
theorem conflict?_eq_none_iff (mem : t ∈ all) :
    t.conflict? suffix all = none ↔
      ∀ u ∈ all, u.key suffix = t.key suffix → u.target.hash = t.target.hash := by
  have own : t.target ∈ rivals suffix all t := mem_rivals.2 ⟨t, mem, rfl, rfl⟩
  rw [conflict?_eq, ite_eq_left_iff]
  simp only [reduceCtorEq, imp_false, Decidable.not_not, length_told_lt_two_iff]
  constructor
  · intro one u hu same
    exact one _ (mem_rivals.2 ⟨u, hu, same, rfl⟩) _ own
  · intro one a ha b hb
    obtain ⟨u, hu, same, rfl⟩ := mem_rivals.1 ha
    obtain ⟨v, hv, same', rfl⟩ := mem_rivals.1 hb
    rw [one u hu same, one v hv same']

/-- The conflict of a target with a rival of another identity. -/
theorem conflict?_of_ne (mem : t ∈ all) (rival : u ∈ all) (same : u.key suffix = t.key suffix)
    (ne : u.target.hash ≠ t.target.hash) :
    t.conflict? suffix all =
      some (.builderNameConflict (t.target.builderName suffix) t.home (told suffix all t)) := by
  have conflict : t.conflict? suffix all ≠ none := fun none =>
    ne ((conflict?_eq_none_iff mem).1 none u rival same)
  rw [conflict?_eq] at conflict ⊢
  split at conflict
  · exact absurd rfl conflict
  · next long => rw [if_neg long]

/-- A conflict changes exactly if what it tells does. -/
theorem conflict?_eq_conflict?_iff (conflict : t.conflict? suffix all ≠ none) :
    t.conflict? suffix all' = t.conflict? suffix all ↔
      told suffix all' t = told suffix all t := by
  constructor
  · intro same
    rw [conflict?_eq suffix all] at conflict same
    split at conflict
    · exact absurd rfl conflict
    · next long =>
      rw [if_neg long, conflict?_eq] at same
      split at same
      · cases same
      · simpa using same
  · intro same
    rw [conflict?_eq, conflict?_eq, same]

/-- A target is in no conflict with itself. -/
theorem conflict?_singleton (suffix : String) (t : NamedTarget) :
    t.conflict? suffix [t] = none := by
  rw [conflict?_eq_none_iff (List.mem_singleton.2 rfl)]
  intro u mem _
  rw [List.mem_singleton.1 mem]

section Listed

/-- **The conflicts by places.** At a place of the list is the conflict of the target there, if it
has one. -/
theorem lookup_conflicts (suffix : String) (all : List NamedTarget) (i : Nat) :
    (conflicts suffix all).lookup i = all[i]?.bind (conflict? suffix all) :=
  lookup_filterMap_zipIdx (conflict? suffix all) all i

/-- The keys of the builders, in the order in which they first occur. -/
def keys (suffix : String) (all : List NamedTarget) : List (String × String) :=
  (all.map (key suffix)).eraseDups

/-- The targets whose builders have a key, with their places. -/
def group (suffix : String) (all : List NamedTarget) (k : String × String) :
    List (NamedTarget × Nat) :=
  all.zipIdx.filter (·.1.key suffix = k)

/-- The conflicts of a group: every member has the same one, unless all have one identity. -/
def groupConflicts (suffix : String) (all : List NamedTarget) (k : String × String) :
    List (Nat × StructuralError) :=
  let targets := distinctTargets ((group suffix all k).map Prod.fst)
  if targets.length < 2 then []
  else (group suffix all k).map fun member =>
    (member.2, .builderNameConflict k.2 k.1 (targets.map Target.display))

/-- The conflicts, collected group by group and put in the order of their places. -/
def conflictsByKey (suffix : String) (all : List NamedTarget) : List (Nat × StructuralError) :=
  ((keys suffix all).flatMap (groupConflicts suffix all)).mergeSort fun a b => a.1 ≤ b.1

theorem map_fst_group (suffix : String) (all : List NamedTarget) (k : String × String) :
    (group suffix all k).map Prod.fst = all.filter (·.key suffix = k) := by
  conv_rhs => rw [← List.zipIdx_map_fst 0 all]
  rw [List.filter_map]
  rfl

theorem groupConflicts_eq (suffix : String) (all : List NamedTarget) (k : String × String) :
    groupConflicts suffix all k =
      (group suffix all k).filterMap fun e => (e.1.conflict? suffix all).map (e.2, ·) := by
  have same : ∀ e ∈ group suffix all k, e.1.conflict? suffix all =
      if (distinctTargets (all.filter (·.key suffix = k))).length < 2 then none
      else some (.builderNameConflict k.2 k.1
        ((distinctTargets (all.filter (·.key suffix = k))).map Target.display)) := by
    intro e mem
    obtain rfl : e.1.key suffix = k := of_decide_eq_true (List.mem_filter.1 mem).2
    rfl
  rw [groupConflicts, map_fst_group]
  split
  · next short =>
    rw [eq_comm, List.filterMap_eq_nil_iff]
    intro e mem
    rw [same e mem, if_pos short, Option.map_none]
  · next long =>
    rw [← List.filterMap_eq_map]
    refine List.filterMap_congr fun e mem => ?_
    rw [same e mem, if_neg long]
    rfl

theorem flatMap_groupConflicts_perm (suffix : String) (all : List NamedTarget) :
    ((keys suffix all).flatMap (groupConflicts suffix all)).Perm (conflicts suffix all) := by
  have known : ∀ e ∈ all.zipIdx, e.1.key suffix ∈ keys suffix all := fun e mem =>
    List.mem_eraseDups.2 (List.mem_map_of_mem (List.fst_mem_of_mem_zipIdx mem))
  have nodup : (keys suffix all).Nodup := nodup_eraseDups (all.map (key suffix))
  have grouped : ((keys suffix all).flatMap (group suffix all)).Perm all.zipIdx :=
    flatMap_filter_perm (fun e : NamedTarget × Nat => e.1.key suffix) nodup known
  rw [List.flatMap_congr fun k _ => groupConflicts_eq suffix all k, ← List.filterMap_flatMap]
  exact grouped.filterMap _

/-- The conflicts are in the order of their places. -/
theorem pairwise_conflicts (suffix : String) (all : List NamedTarget) :
    (conflicts suffix all).Pairwise fun a b => a.1 < b.1 := by
  have places : all.zipIdx.Pairwise fun e e' => e.2 < e'.2 := by
    rw [← List.pairwise_map, List.zipIdx_map_snd]
    exact List.pairwise_lt_range'
  refine List.pairwise_filterMap.2 (places.imp fun lt a said b said' => ?_)
  obtain ⟨_, _, rfl⟩ := Option.map_eq_some_iff.1 said
  obtain ⟨_, _, rfl⟩ := Option.map_eq_some_iff.1 said'
  exact lt

/-- **The conflicts by keys.** Collecting the conflicts group by group and putting them in order
gives the conflict of each target at its place. -/
theorem conflictsByKey_eq (suffix : String) (all : List NamedTarget) :
    conflictsByKey suffix all = conflicts suffix all := by
  have perm : (conflictsByKey suffix all).Perm (conflicts suffix all) :=
    (List.mergeSort_perm _ _).trans (flatMap_groupConflicts_perm suffix all)
  have sorted : (conflictsByKey suffix all).Pairwise fun a b => a.1 ≤ b.1 := by
    refine (List.pairwise_mergeSort ?_ ?_ _).imp of_decide_eq_true
    · intro a b c
      simpa using Nat.le_trans
    · intro a b
      simpa using Nat.le_total a.1 b.1
  have places : ((conflicts suffix all).map Prod.fst).Nodup :=
    (List.pairwise_map.2 (pairwise_conflicts suffix all)).imp Nat.ne_of_lt
  refine perm.eq_of_pairwise ?_ sorted ((pairwise_conflicts suffix all).imp Nat.le_of_lt)
  intro a b mem mem' le ge
  exact List.inj_on_of_nodup_map places (perm.subset mem) mem' (Nat.le_antisymm le ge)

end Listed

end NamedTarget

end DefaultArgs
