import Mathlib.Data.List.Induction
import Mathlib.Data.List.Perm.Lattice

/-!
# Lists and what is taken from them

Reports go through a list and take something for some of its elements. Others take a list apart, by
the places of its elements or by keys.

## Main definitions

* `OneForEach r all chosen`: one fitting entry for each element that has one, in order

## Main results

* `OneForEach.flatMap`, `OneForEach.filterMap`: how such listings are made
* `OneForEach.eq_nil_iff`, `OneForEach.exists_mem`: what is listed
* `lookup_filterMap_zipIdx`: what is said of the element at a place
* `exists_foldlM_zipIdx`: a loop over the places
* `eraseDups_concat`, `nodup_eraseDups`: the keys in the order in which they first occur
* `flatMap_filter_perm`: the groups of all keys are the list
-/

namespace DefaultArgs

/-! ## One for each

Reports and contributions are listed by going through a list and taking something for some of its
elements. The question about such a listing is whether it is complete, in order, and without
anything else. `OneForEach r all chosen` answers it for whatever `r` says should be taken: an
element for which nothing fits is passed over, and for every other one exactly one fitting entry is
listed, in the order of the elements.
-/

section OneForEach

variable {α β γ : Type} {r : α → β → Prop} {all all' : List α} {chosen chosen' : List β}

/-- **One for each, in order.** The list has one fitting entry for every element of the first list
that some entry fits, in the order of these elements, and no others. -/
inductive OneForEach (r : α → β → Prop) : List α → List β → Prop
  | nil : OneForEach r [] []
  | skip {a : α} {all : List α} {chosen : List β} (nothing : ∀ b, ¬ r a b)
      (rest : OneForEach r all chosen) : OneForEach r (a :: all) chosen
  | take {a : α} {b : β} {all : List α} {chosen : List β} (fits : r a b)
      (rest : OneForEach r all chosen) : OneForEach r (a :: all) (b :: chosen)

namespace OneForEach

theorem append (listed : OneForEach r all chosen) (listed' : OneForEach r all' chosen') :
    OneForEach r (all ++ all') (chosen ++ chosen') := by
  induction listed with
  | nil => exact listed'
  | skip nothing _ ih => exact .skip nothing ih
  | take fits _ ih => exact .take fits ih

theorem flatMap {base : List γ} {elements : γ → List α} {entries : γ → List β}
    (each : ∀ c ∈ base, OneForEach r (elements c) (entries c)) :
    OneForEach r (base.flatMap elements) (base.flatMap entries) := by
  induction base with
  | nil => exact .nil
  | cons c rest ih =>
    rw [List.flatMap_cons, List.flatMap_cons]
    exact (each c List.mem_cons_self).append (ih fun d mem => each d (List.mem_cons_of_mem _ mem))

theorem map {base : List γ} {element : γ → α}
    (listed : OneForEach (fun c b => r (element c) b) base chosen) :
    OneForEach r (base.map element) chosen := by
  induction listed with
  | nil => exact .nil
  | skip nothing _ ih => exact .skip nothing ih
  | take fits _ ih => exact .take fits ih

theorem filterMap {f : α → Option β} (each : ∀ a ∈ all, ∀ b, f a = some b ↔ r a b) :
    OneForEach r all (all.filterMap f) := by
  induction all with
  | nil => exact .nil
  | cons a rest ih =>
    have listed := ih fun a' mem => each a' (List.mem_cons_of_mem _ mem)
    have fitting := each a List.mem_cons_self
    cases found : f a with
    | none =>
      rw [List.filterMap_cons_none found]
      exact .skip (fun b fits => by cases found.symm.trans ((fitting b).2 fits)) listed
    | some b =>
      rw [List.filterMap_cons_some found]
      exact .take ((fitting b).1 found) listed

/-- Nothing is listed if nothing fits, and only then. -/
theorem eq_nil_iff (listed : OneForEach r all chosen) :
    chosen = [] ↔ ∀ a ∈ all, ∀ b, ¬ r a b := by
  induction listed with
  | nil => simp
  | skip nothing _ ih => rw [ih, List.forall_mem_cons, and_iff_right nothing]
  | take fits _ _ =>
    simp only [List.forall_mem_cons, reduceCtorEq, false_iff]
    exact fun none => none.1 _ fits

/-- Nothing is missing. -/
theorem exists_mem (listed : OneForEach r all chosen) {a : α} {b : β} (mem : a ∈ all)
    (fits : r a b) : ∃ c ∈ chosen, r a c := by
  induction listed with
  | nil => cases mem
  | skip nothing _ ih =>
    rcases List.mem_cons.1 mem with rfl | mem
    · exact absurd fits (nothing b)
    · exact ih mem
  | take fits' _ ih =>
    rcases List.mem_cons.1 mem with rfl | mem
    · exact ⟨_, List.mem_cons_self, fits'⟩
    · obtain ⟨c, listed, fits⟩ := ih mem
      exact ⟨c, List.mem_cons_of_mem _ listed, fits⟩

end OneForEach

end OneForEach

/-! ## Places and keys

Two ways to take a list apart keep all of it. One goes by the places of the elements: what is said
of some elements can be looked up at their places, and a loop over the places keeps what every step
keeps. The other collects the elements of each key: the groups of all keys together are the list
again, in another order. The keys are listed in the order in which they first occur.
-/

section Grouping

variable {α β κ σ : Type}

/-- Of a place is said what is said of the element there. The induction is on the end of the list,
where the last place is. -/
theorem lookup_filterMap_zipIdx (f : α → Option β) (l : List α) (i : Nat) :
    (l.zipIdx.filterMap fun e => (f e.1).map (e.2, ·)).lookup i = l[i]?.bind f := by
  induction l using List.reverseRecOn with
  | nil => rfl
  | append_singleton l a ih =>
    have last : (([a].zipIdx l.length).filterMap fun e => (f e.1).map (e.2, ·)).lookup i =
        if i = l.length then f a else none := by
      cases said : f a with
      | none => simp [said]
      | some b =>
        by_cases here : i = l.length
        · simp [said, here]
        · simp [said, List.lookup_cons, beq_eq_false_iff_ne.2 here, here]
    rw [List.zipIdx_append, List.filterMap_append, List.lookup_append, ih, Nat.zero_add, last]
    obtain before | rfl | behind := Nat.lt_trichotomy i l.length
    · rw [List.getElem?_append_left before, if_neg (Nat.ne_of_lt before), Option.or_none]
    · simp
    · have outside : (l ++ [a])[i]? = none := List.getElem?_eq_none (by simp; omega)
      rw [outside, List.getElem?_eq_none (Nat.le_of_lt behind), if_neg (Nat.ne_of_gt behind)]
      rfl

/-- **A loop over the places of a list keeps an invariant**, and it does not fail if no step does.
-/
theorem exists_foldlM_zipIdx {f : σ → α × Nat → Option σ} {l : List α}
    (holds : Nat → σ → Prop) {state : σ} (start : holds 0 state)
    (step : ∀ i x state, l[i]? = some x → holds i state →
      ∃ next, f state (x, i) = some next ∧ holds (i + 1) next) :
    ∃ final, l.zipIdx.foldlM f state = some final ∧ holds l.length final := by
  induction l using List.reverseRecOn with
  | nil => exact ⟨state, rfl, start⟩
  | append_singleton l x ih =>
    obtain ⟨reached, run, here⟩ := ih fun i y state at_i => step i y state <| by
      rw [List.getElem?_append_left (List.getElem?_eq_some_iff.1 at_i).1, at_i]
    obtain ⟨final, last, there⟩ := step l.length x reached (by simp) here
    refine ⟨final, ?_, by simpa using there⟩
    rw [List.zipIdx_append, List.foldlM_append, run]
    simpa using last

section Keys

variable [BEq κ] [LawfulBEq κ]

theorem eraseDups_concat (keys : List κ) (key : κ) :
    (keys ++ [key]).eraseDups = if key ∈ keys then keys.eraseDups else keys.eraseDups ++ [key] := by
  rw [List.eraseDups_append]
  split
  · next listed => simp [List.removeAll, listed]
  · next fresh => simp [List.removeAll, fresh, List.eraseDups_cons]

theorem nodup_eraseDups (keys : List κ) : keys.eraseDups.Nodup := by
  induction keys using List.reverseRecOn with
  | nil => exact List.nodup_nil
  | append_singleton keys key ih =>
    rw [eraseDups_concat]
    split
    · exact ih
    · next fresh =>
      have fresh : key ∉ keys.eraseDups := mt List.mem_eraseDups.1 fresh
      exact List.nodup_append_comm.1 (List.nodup_cons.2 ⟨fresh, ih⟩)

end Keys

/-- **Every element is in the group of its key**, and in no other. -/
theorem flatMap_filter_perm [DecidableEq κ] (key : α → κ) {keys : List κ} (nodup : keys.Nodup)
    {l : List α} (known : ∀ a ∈ l, key a ∈ keys) :
    (keys.flatMap fun k => l.filter (key · = k)).Perm l := by
  induction keys generalizing l with
  | nil =>
    have empty : l = [] := List.eq_nil_iff_forall_not_mem.2 fun a mem =>
      List.not_mem_nil (known a mem)
    rw [empty, List.flatMap_nil]
  | cons k rest ih =>
    obtain ⟨fresh, nodup⟩ := List.nodup_cons.1 nodup
    have others (k' : κ) (mem : k' ∈ rest) :
        (l.filter fun a => !decide (key a = k)).filter (key · = k') = l.filter (key · = k') := by
      rw [List.filter_filter]
      refine List.filter_congr fun a _ => ?_
      by_cases same : key a = k'
      · have other : k' ≠ k := fun same => fresh (same ▸ mem)
        simp [same, other]
      · simp [same]
    have further := ih nodup (l := l.filter fun a => !decide (key a = k)) fun a mem => by
      obtain ⟨mem, other⟩ := List.mem_filter.1 mem
      obtain same | mem := List.mem_cons.1 (known a mem)
      · simp [same] at other
      · exact mem
    rw [List.flatMap_congr others] at further
    rw [List.flatMap_cons]
    exact (further.append_left _).trans (List.filter_append_perm _ l)

end Grouping

end DefaultArgs
