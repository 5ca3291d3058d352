import DefaultArgs.Proofs.Namespace.Growth

/-!
# The way up from a namespace

The namespaces around a namespace are found by following its parents. The walk needs no bound: in a
tree it ends at the root, and it meets exactly the nodes at the beginnings of the path, the longest
first. A search along it therefore stops at the innermost namespace that has something to offer.

## Main definitions

* `Ascends g node above`: the walk to the parents from a node, without a bound
* `Innermost home f v`: the longest beginning of a path for which `f` has a value

## Main results

* `IsTree.ascends_lineage`: the lineage of a node is the whole walk
* `IsTree.mem_lineage_iff`: the lineage has the nodes at the beginnings of the path
* `IsTree.findSome?_lineage_eq_some_iff`: a search along the lineage finds the innermost value
-/

namespace DefaultArgs.NamespaceGraph

/-- The walk from a node to its parent, from there to the next one and so on, up to a node without a
parent. -/
inductive Ascends (g : NamespaceGraph) : NodeId → List NodeId → Prop
  | top {node : NodeId} (last : g.parent? node = none) : Ascends g node [node]
  | up {node parent : NodeId} {above : List NodeId} (next : g.parent? node = some parent)
      (rest : Ascends g parent above) : Ascends g node (node :: above)

/-- The longest beginning of a path for which `f` has a value has the value `v`. -/
def Innermost {α : Type} (home : List String) (f : List String → Option α) (v : α) : Prop :=
  ∃ p, p <+: home ∧ f p = some v ∧ ∀ q, q <+: home → p.length < q.length → f q = none

variable {g : NamespaceGraph} {α : Type} {node parent n : NodeId} {s : String}
  {home p : List String}

namespace Innermost

variable {f f' : List String → Option α} {v w : α}

theorem unique (h : Innermost home f v) (h' : Innermost home f w) : v = w := by
  obtain ⟨p, before, value, longer⟩ := h
  obtain ⟨q, before', value', longer'⟩ := h'
  rcases Nat.lt_trichotomy p.length q.length with lt | eq | lt
  · rw [longer q before' lt] at value'
    cases value'
  · have same := (List.prefix_of_prefix_length_le before before' (Nat.le_of_eq eq)).eq_of_length eq
    rw [same, value'] at value
    exact (Option.some.inj value).symm
  · rw [longer' p before lt] at value
    cases value

/-- Below the last segment, the whole path comes first. -/
theorem concat_iff :
    Innermost (home ++ [s]) f v ↔
      f (home ++ [s]) = some v ∨ (f (home ++ [s]) = none ∧ Innermost home f v) := by
  constructor
  · rintro ⟨p, before, value, longer⟩
    rcases List.prefix_concat_iff.1 before with rfl | inner
    · exact .inl value
    · have shorter : p.length < (home ++ [s]).length := by
        simpa using Nat.lt_succ_of_le inner.length_le
      exact .inr ⟨longer _ (List.prefix_refl _) shorter, p, inner, value, fun q outer =>
        longer q (outer.trans (List.prefix_append _ _))⟩
  · rintro (value | ⟨vacant, p, before, value, longer⟩)
    · exact ⟨_, List.prefix_refl _, value, fun q before lt =>
        absurd before.length_le (Nat.not_le.2 lt)⟩
    · refine ⟨p, before.trans (List.prefix_append _ _), value, fun q inner lt => ?_⟩
      rcases List.prefix_concat_iff.1 inner with rfl | inner
      · exact vacant
      · exact longer q inner lt

theorem nil_iff : Innermost [] f v ↔ f [] = some v := by
  constructor
  · rintro ⟨p, before, value, -⟩
    rwa [List.prefix_nil.1 before] at value
  · intro value
    refine ⟨[], List.prefix_refl _, value, fun q before lt => ?_⟩
    rw [List.prefix_nil.1 before] at lt
    exact absurd lt (Nat.lt_irrefl _)

/-- Only the values at the beginnings of the path count. -/
theorem congr (same : ∀ p, p <+: home → f p = f' p) :
    Innermost home f v ↔ Innermost home f' v := by
  refine exists_congr fun p => and_congr_right fun before => ?_
  rw [same p before]
  exact and_congr_right fun _ => forall₂_congr fun q before => by rw [same q before]

end Innermost

theorem Ascends.unique {above above' : List NodeId} (h : g.Ascends node above)
    (h' : g.Ascends node above') : above = above' := by
  induction h generalizing above' with
  | top last =>
    cases h' with
    | top => rfl
    | up next rest =>
      rw [last] at next
      cases next
  | up next rest ih =>
    cases h' with
    | top last =>
      rw [next] at last
      cases last
    | up next' rest' =>
      rw [next] at next'
      cases next'
      rw [ih rest']

namespace IsTree

variable (tree : g.IsTree)

include tree

/-- A parent is older than its child, so the bound on the walk only has to be above the node. -/
theorem ascends_lineageWithin {bound : Nat} (lt : node < bound) :
    g.Ascends node (g.lineageWithin bound node) := by
  induction bound generalizing node with
  | zero => exact absurd lt (Nat.not_lt_zero _)
  | succ bound ih =>
    rw [lineageWithin]
    split
    · next parent next =>
      obtain ⟨s, edge⟩ := contains_of_parent? next
      exact .up next (ih (Nat.lt_of_lt_of_le (tree.older edge) (Nat.le_of_lt_succ lt)))
    · next last => exact .top last

/-- **The lineage is the whole way up**: the walk to the parents ends by itself. -/
theorem ascends_lineage (old : node < g.size) : g.Ascends node (g.lineage node) :=
  tree.ascends_lineageWithin old

theorem lineage_root : g.lineage root = [root] :=
  (tree.ascends_lineage tree.root_lt).unique (.top tree.parent?_root)

theorem lineage_concat (reached : g.nodeAt? (p ++ [s]) = some node)
    (before : g.nodeAt? p = some parent) : g.lineage node = node :: g.lineage parent := by
  have next := tree.parent?_of_nodeAt?_concat reached
  rw [before] at next
  exact (tree.ascends_lineage (tree.lt_size_of_nodeAt? reached)).unique
    (.up next (tree.ascends_lineage (tree.lt_size_of_nodeAt? before)))

/-- The lineage has the nodes at the beginnings of the path. The walk outwards drops the last
segment, so the induction is on the end of the path. -/
theorem mem_lineage_iff (reached : g.nodeAt? home = some node) :
    n ∈ g.lineage node ↔ ∃ p, p <+: home ∧ g.nodeAt? p = some n := by
  induction home using List.reverseRecOn generalizing node with
  | nil =>
    cases reached
    simp [tree.lineage_root, eq_comm]
  | append_singleton home s ih =>
    obtain ⟨parent, before, -⟩ := nodeAt?_concat_eq_some_iff.1 reached
    rw [tree.lineage_concat reached before, List.mem_cons, ih before]
    constructor
    · rintro (rfl | ⟨p, inner, found⟩)
      · exact ⟨_, List.prefix_refl _, reached⟩
      · exact ⟨p, inner.trans (List.prefix_append _ _), found⟩
    · rintro ⟨p, inner, found⟩
      rcases List.prefix_concat_iff.1 inner with rfl | inner
      · rw [reached] at found
        exact .inl (Option.some.inj found).symm
      · exact .inr ⟨p, inner, found⟩

/-- **A search along the lineage finds the innermost value.** -/
theorem findSome?_lineage_eq_some_iff {f : NodeId → Option α} {v : α}
    (reached : g.nodeAt? home = some node) :
    (g.lineage node).findSome? f = some v ↔ Innermost home (fun p => (g.nodeAt? p).bind f) v := by
  induction home using List.reverseRecOn generalizing node with
  | nil =>
    cases reached
    rw [tree.lineage_root, Innermost.nil_iff, nodeAt?_nil, Option.bind_some]
    cases value : f root <;> simp [value]
  | append_singleton home s ih =>
    obtain ⟨parent, before, -⟩ := nodeAt?_concat_eq_some_iff.1 reached
    rw [tree.lineage_concat reached before, Innermost.concat_iff, reached, Option.bind_some,
      List.findSome?_cons, ← ih before]
    cases f node <;> simp

theorem findSome?_lineage_eq_none_iff {f : NodeId → Option α}
    (reached : g.nodeAt? home = some node) :
    (g.lineage node).findSome? f = none ↔ ∀ p, p <+: home → (g.nodeAt? p).bind f = none := by
  rw [List.findSome?_eq_none_iff]
  constructor
  · intro vacant p before
    cases found : g.nodeAt? p with
    | none => rfl
    | some n => exact vacant n ((tree.mem_lineage_iff reached).2 ⟨p, before, found⟩)
  · intro vacant n mem
    obtain ⟨p, before, found⟩ := (tree.mem_lineage_iff reached).1 mem
    have value := vacant p before
    rwa [found, Option.bind_some] at value

end IsTree

end DefaultArgs.NamespaceGraph
