import DefaultArgs.Proofs.Namespace.Lineage
import DefaultArgs.Proofs.Registry.Order
import Mathlib.Logic.Relation

/-!
# Every registry contains its namespaces in a tree

Nodes are created on demand, from any node and along any path, and imports are free to run in
cycles. Still the edges that say which namespace contains which form a tree below the root. This is
seen on the edges themselves, which can be counted, and on the paths, which are names of the nodes:
there is exactly one path to each node. A name is never given to another node, so a node that was
looked up once is the right one for ever.

## Main definitions

* `NamespaceGraph.Rooted g`: the edges of a tree, counted
* `NamespaceGraph.Addressed g`: paths and nodes correspond
* `Registry.Step r r'`: one operation on a registry or on its namespaces

## Main results

* `NamespaceGraph.IsTree.rooted`, `NamespaceGraph.IsTree.addressed`: what the invariant of trees
  says of edges and paths
* `Registry.Step.nodeAt?_of_some`: an operation does not change where a path leads
* `Registry.rooted_and_addressed`: all of this after any sequence of operations
-/

namespace DefaultArgs

namespace NamespaceGraph

/-- **The edges of a rooted tree, counted.** Import edges come beside them, at most one from each
node to each. -/
structure Rooted (g : NamespaceGraph) : Prop where
  root_uncontained : g.edges.countP (fun e => e.label.isContains ∧ e.target = root) = 0
  container_once : ∀ node < g.size, node ≠ root →
    g.edges.countP (fun e => e.label.isContains ∧ e.target = node) = 1
  name_once : ∀ node name,
    g.edges.countP (fun e => e.source = node ∧ e.label = .contains name) ≤ 1
  /-- The walk to the parents ends, and it ends at the root. -/
  ascent : ∀ node < g.size, ∃ above, g.Ascends node above ∧ above.getLast? = some root
  import_once : ∀ importer imported,
    g.edges.countP (fun e => e.source = importer ∧ e.label = .imports ∧ e.target = imported) ≤ 1

/-- **Paths and nodes correspond**, and creating a path that exists is looking it up. -/
structure Addressed (g : NamespaceGraph) : Prop where
  apart : ∀ p q, g.Known p → p ≠ q → g.nodeAt? p ≠ g.nodeAt? q
  existsUnique_path : ∀ node < g.size, ∃! path, g.nodeAt? path = some node
  parent : ∀ p s node, g.nodeAt? (p ++ [s]) = some node → g.parent? node = g.nodeAt? p
  created : ∀ p, (g.ensureNode p).1.nodeAt? p = some (g.ensureNode p).2
  created_again : ∀ p, (g.ensureNode p).1.ensureNode p = g.ensureNode p

variable {g : NamespaceGraph} {node : NodeId} {above : List NodeId}

namespace IsTree

variable (tree : g.IsTree)

include tree

/-- Edges of a kind are counted once if they are all the same. -/
theorem countP_le_one {kind : Edge → Bool}
    (same : ∀ e ∈ g.edges, ∀ e' ∈ g.edges, kind e → kind e' → e = e') :
    g.edges.countP kind ≤ 1 := by
  have nodup := tree.edges_nodup.filter kind
  rw [List.countP_eq_length_filter]
  rcases found : g.edges.filter kind with _ | ⟨e, _ | ⟨e', rest⟩⟩
  · exact Nat.zero_le 1
  · exact Nat.le_refl 1
  · obtain ⟨mem, first⟩ := List.mem_filter.1 (found ▸ List.mem_cons_self : e ∈ g.edges.filter kind)
    obtain ⟨mem', second⟩ : e' ∈ g.edges ∧ kind e' := by
      apply List.mem_filter.1
      simp [found]
    rw [found, same e mem e' mem' first second] at nodup
    simp at nodup

/-- The walk to the parents ends at the root, which alone has no parent. -/
theorem getLast?_of_ascends (walk : g.Ascends node above) (old : node < g.size) :
    above.getLast? = some root := by
  induction walk with
  | @top node last =>
    by_contra other
    have below : node ≠ root := fun top => other (by rw [top, List.getLast?_singleton])
    obtain ⟨parent, name, edge⟩ := tree.exists_parent node old below
    rw [tree.parent?_eq_some_iff.2 ⟨name, edge⟩] at last
    cases last
  | @up node parent above next rest ih =>
    obtain ⟨name, edge⟩ := contains_of_parent? next
    rw [List.getLast?_cons, ih (tree.source_lt _ edge), Option.getD_some]

/-- A node has one parent and one name, so all edges that contain it are the same. -/
theorem rooted : g.Rooted where
  root_uncontained := by
    rw [List.countP_eq_zero]
    rintro ⟨source, label, target⟩ mem kind
    obtain ⟨contains, rfl⟩ := of_decide_eq_true kind
    cases label with
    | contains name => exact Nat.not_lt_zero _ (tree.older mem)
    | imports => cases contains
  container_once node old below := by
    apply Nat.le_antisymm
    · apply tree.countP_le_one
      rintro ⟨a, label, b⟩ mem ⟨a', label', b'⟩ mem' kind kind'
      obtain ⟨contains, rfl⟩ := of_decide_eq_true kind
      obtain ⟨contains', rfl⟩ := of_decide_eq_true kind'
      cases label <;> cases contains
      cases label' <;> cases contains'
      obtain ⟨rfl, rfl⟩ := tree.parent_unique mem mem'
      rfl
    · obtain ⟨parent, name, edge⟩ := tree.exists_parent node old below
      exact List.countP_pos_iff.2 ⟨_, edge, by simp [EdgeLabel.isContains]⟩
  name_once node name := by
    apply tree.countP_le_one
    rintro ⟨a, label, b⟩ mem ⟨a', label', b'⟩ mem' kind kind'
    obtain ⟨rfl, rfl⟩ := of_decide_eq_true kind
    obtain ⟨rfl, rfl⟩ := of_decide_eq_true kind'
    obtain rfl := tree.child_unique mem mem'
    rfl
  ascent node old :=
    ⟨_, tree.ascends_lineage old, tree.getLast?_of_ascends (tree.ascends_lineage old) old⟩
  import_once importer imported := by
    apply tree.countP_le_one
    rintro ⟨a, label, b⟩ - ⟨a', label', b'⟩ - kind kind'
    obtain ⟨rfl, rfl, rfl⟩ := of_decide_eq_true kind
    obtain ⟨rfl, rfl, rfl⟩ := of_decide_eq_true kind'
    rfl

theorem addressed : g.Addressed where
  apart p q known differ shared := by
    obtain ⟨node, reached⟩ := known
    exact differ (tree.eq_of_nodeAt? reached (shared ▸ reached))
  existsUnique_path node old := by
    obtain ⟨path, reached⟩ := tree.exists_nodeAt? old
    exact ⟨path, reached, fun other reached' => tree.eq_of_nodeAt? reached' reached⟩
  parent p s node reached := tree.parent?_of_nodeAt?_concat reached
  created p := (tree.extended_ensureNode p).reached
  created_again p := ensureNode_of_nodeAt? (tree.extended_ensureNode p).reached

end IsTree

end NamespaceGraph

namespace Registry

/-- **One operation on a registry or on its namespaces**, with or without success. Nodes that it is
given are nodes of the graph. -/
inductive Step (r : Registry) : Registry → Prop
  | child {node : NodeId} (old : node < r.namespaces.size) (name : String) :
      Step r { r with namespaces := (r.namespaces.ensureChild node name).1 }
  | path (path : List String) : Step r { r with namespaces := (r.namespaces.ensureNode path).1 }
  | link {a b : NodeId} (importer : a < r.namespaces.size) (imported : b < r.namespaces.size) :
      Step r { r with namespaces := r.namespaces.link a b }
  | scope (scope : Scope) : Step r (r.declareScope scope).1
  | member (scope : QualifiedName) (member : Member) : Step r (r.declareMember scope member).1

variable {r r' : Registry} {p : List String} {node : NodeId}

theorem Reachable.step (h : r.Reachable) (step : r.Step r') : r'.Reachable := by
  cases step with
  | child old name => exact h.child old name
  | path path => exact h.path path
  | link importer imported => exact h.link importer imported
  | scope scope => exact h.scope scope
  | member scope member => exact h.member scope member

theorem Reachable.steps (h : r.Reachable) (run : Relation.ReflTransGen Step r r') :
    r'.Reachable := by
  induction run with
  | refl => exact h
  | tail _ step ih => exact ih.step step

/-- An operation does not change where a path leads. It is given a node and not a path, but in a
tree the node has one path. -/
theorem Step.nodeAt?_of_some (tree : r.namespaces.IsTree) (step : r.Step r')
    (reached : r.namespaces.nodeAt? p = some node) : r'.namespaces.nodeAt? p = some node := by
  cases step with
  | child old name =>
    obtain ⟨base, start⟩ := tree.exists_nodeAt? old
    exact (tree.extended_ensureChild start name).kept p node reached
  | path path => exact (tree.extended_ensureNode path).kept p node reached
  | link importer imported =>
    rw [NamespaceGraph.nodeAt?_link]
    exact reached
  | scope scope =>
    rw [namespaces_declareScope]
    exact (tree.extended_ensureNode scope.name.enclosing).kept p node reached
  | member scope member =>
    rw [namespaces_declareMember]
    exact reached

/-- What was looked up once is right after any sequence of operations. -/
theorem Reachable.nodeAt?_of_steps (h : r.Reachable) (run : Relation.ReflTransGen Step r r')
    (reached : r.namespaces.nodeAt? p = some node) : r'.namespaces.nodeAt? p = some node := by
  induction run with
  | refl => exact reached
  | tail before step ih => exact step.nodeAt?_of_some (h.steps before).sound.tree ih

/-- **Containment is a rooted tree after any sequence of operations**, and its paths are the names
of its nodes. Later operations keep these names. -/
theorem rooted_and_addressed (run : Relation.ReflTransGen Step .empty r) :
    r.namespaces.Rooted ∧ r.namespaces.Addressed ∧
      ∀ r', Relation.ReflTransGen Step r r' → ∀ p node,
        r.namespaces.nodeAt? p = some node → r'.namespaces.nodeAt? p = some node := by
  have reachable := Reachable.empty.steps run
  have tree := reachable.sound.tree
  exact ⟨tree.rooted, tree.addressed, fun r' later p node => reachable.nodeAt?_of_steps later⟩

section Samples

/-- Two namespaces that import each other, one of them with a namespace inside. -/
def importCycle : Registry :=
  let created := ((NamespaceGraph.empty.ensureNode ["app", "ui"]).1.ensureNode ["lib"]).1
  ⟨(created.link 1 3).link 3 1, []⟩

end Samples

/-- From the inner namespace the walk to the parents passes by the cycle of imports, and a scope
that is declared later does not move the namespace. -/
theorem rooted_and_addressed_importCycle :
    importCycle.namespaces.imports 1 = [3] ∧ importCycle.namespaces.imports 3 = [1] ∧
      (∃ above, importCycle.namespaces.Ascends 2 above ∧ above.getLast? = some 0) ∧
      (∃! path, importCycle.namespaces.nodeAt? path = some 2) ∧
      (importCycle.declareScope ⟨⟨"Main", ["app", "ui"]⟩, .class, []⟩).1.namespaces.nodeAt?
        ["app", "ui"] = some 2 := by
  have outer : Registry.empty.Step _ := .path ["app", "ui"]
  have other := Relation.ReflTransGen.single outer |>.tail (.path ["lib"])
  have there := other.tail (.link (a := 1) (b := 3) (by decide) (by decide))
  have run : Relation.ReflTransGen Step .empty importCycle :=
    there.tail (.link (a := 3) (b := 1) (by decide) (by decide))
  obtain ⟨rooted, addressed, kept⟩ := rooted_and_addressed run
  exact ⟨rfl, rfl, rooted.ascent 2 (by decide), addressed.existsUnique_path 2 (by decide),
    kept _ (.single (.scope _)) ["app", "ui"] 2 rfl⟩

end Registry

end DefaultArgs
