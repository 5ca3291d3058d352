import DefaultArgs.Namespace.Graph
import Mathlib.Data.List.Induction

/-!
# Namespaces form a tree

The edges of a namespace graph say which namespace contains which, and which one imports which. The
first kind form a tree below the root: every other node is contained in exactly one node, which was
created before it, and no node contains two nodes under one name. So a path leads to at most one
node, and every node has exactly one path from the root. Import edges are free to run in cycles.

## Main definitions

* `Contains g parent name child`: an edge of the containment tree
* `IsTree g`: the containment edges form a tree, and no edge is repeated
* `grow g node name`: a new node below an old one

## Main results

* `IsTree.grow`, `IsTree.link`: no operation breaks the tree
* `child?_eq_some_iff`, `parent?_eq_some_iff`: both searches follow the edges of the tree
* `eq_of_nodeAt?`: different paths lead to different nodes
* `exists_nodeAt?`: every node has a path
-/

namespace DefaultArgs.NamespaceGraph

/-- One namespace contains another under a name. -/
def Contains (g : NamespaceGraph) (parent : NodeId) (name : String) (child : NodeId) : Prop :=
  ⟨parent, .contains name, child⟩ ∈ g.edges

/-- **The containment edges form a tree.** A node is older than the nodes that it contains, so the
way up from any node ends at the root. -/
structure IsTree (g : NamespaceGraph) : Prop where
  root_lt : root < g.size
  source_lt : ∀ e ∈ g.edges, e.source < g.size
  target_lt : ∀ e ∈ g.edges, e.target < g.size
  older {a b : NodeId} {name : String} : g.Contains a name b → a < b
  parent_unique {a a' b : NodeId} {name name' : String} :
    g.Contains a name b → g.Contains a' name' b → a = a' ∧ name = name'
  child_unique {a b b' : NodeId} {name : String} :
    g.Contains a name b → g.Contains a name b' → b = b'
  exists_parent : ∀ b < g.size, b ≠ root → ∃ a name, g.Contains a name b
  edges_nodup : g.edges.Nodup

/-- The graph with a new node that an old one contains under a name. -/
def grow (g : NamespaceGraph) (node : NodeId) (name : String) : NamespaceGraph :=
  ⟨g.size + 1, ⟨node, .contains name, g.size⟩ :: g.edges⟩

variable {g : NamespaceGraph} {a b node parent child : NodeId} {name s : String}
  {path : List String}

section Edges

theorem contains_of_child? (h : g.child? node name = some child) : g.Contains node name child := by
  obtain ⟨⟨source, label, target⟩, first, rfl⟩ := Option.map_eq_some_iff.1 h
  obtain ⟨rfl, rfl⟩ : source = node ∧ label = .contains name := by
    simpa using List.find?_some first
  exact List.mem_of_find?_eq_some first

theorem contains_of_parent? (h : g.parent? child = some parent) :
    ∃ name, g.Contains parent name child := by
  obtain ⟨⟨source, label, target⟩, first, rfl⟩ := Option.map_eq_some_iff.1 h
  obtain ⟨rfl, contains⟩ : target = child ∧ label.isContains := by
    simpa using List.find?_some first
  cases label with
  | contains name => exact ⟨name, List.mem_of_find?_eq_some first⟩
  | imports => cases contains

theorem exists_child?_of_contains (edge : g.Contains node name child) :
    ∃ first, g.child? node name = some first := by
  refine Option.isSome_iff_exists.1 ?_
  rw [child?, Option.isSome_map, List.find?_isSome]
  exact ⟨_, edge, by simp⟩

theorem exists_parent?_of_contains (edge : g.Contains parent name child) :
    ∃ first, g.parent? child = some first := by
  refine Option.isSome_iff_exists.1 ?_
  rw [parent?, Option.isSome_map, List.find?_isSome]
  exact ⟨_, edge, by simp [EdgeLabel.isContains]⟩

theorem contains_grow :
    (g.grow node name).Contains a s b ↔
      (a = node ∧ s = name ∧ b = g.size) ∨ g.Contains a s b := by
  simp [Contains, grow]

theorem contains_link : (g.link parent child).Contains a s b ↔ g.Contains a s b := by
  unfold Contains link
  split <;> simp

theorem mem_imports_iff : b ∈ g.imports a ↔ ⟨a, .imports, b⟩ ∈ g.edges := by
  constructor
  · intro mem
    obtain ⟨⟨source, label, target⟩, kept, rfl⟩ := List.mem_map.1 mem
    obtain ⟨edge, rfl, rfl⟩ : _ ∈ g.edges ∧ source = a ∧ label = .imports := by
      simpa using List.mem_filter.1 kept
    exact edge
  · intro edge
    exact List.mem_map.2 ⟨_, List.mem_filter.2 ⟨edge, by simp⟩, rfl⟩

end Edges

namespace IsTree

variable (tree : g.IsTree)

section Searches

include tree

theorem child?_eq_some_iff : g.child? node name = some child ↔ g.Contains node name child := by
  refine ⟨contains_of_child?, fun edge => ?_⟩
  obtain ⟨first, found⟩ := exists_child?_of_contains edge
  rw [found, tree.child_unique (contains_of_child? found) edge]

theorem parent?_eq_some_iff :
    g.parent? child = some parent ↔ ∃ name, g.Contains parent name child := by
  refine ⟨contains_of_parent?, fun ⟨name, edge⟩ => ?_⟩
  obtain ⟨first, found⟩ := exists_parent?_of_contains edge
  obtain ⟨_, edge'⟩ := contains_of_parent? found
  rw [found, (tree.parent_unique edge' edge).1]

theorem parent?_root : g.parent? root = none := by
  rw [Option.eq_none_iff_forall_ne_some]
  intro parent found
  obtain ⟨name, edge⟩ := contains_of_parent? found
  exact Nat.not_lt_zero _ (tree.older edge)

theorem child?_of_size_le (new : g.size ≤ node) : g.child? node name = none := by
  rw [Option.eq_none_iff_forall_ne_some]
  intro child found
  exact absurd (tree.source_lt _ (contains_of_child? found)) (Nat.not_lt.2 new)

end Searches

section Preservation

theorem empty : NamespaceGraph.empty.IsTree where
  root_lt := Nat.zero_lt_one
  source_lt _ mem := by cases mem
  target_lt _ mem := by cases mem
  older edge := by cases edge
  parent_unique edge := by cases edge
  child_unique edge := by cases edge
  exists_parent b lt ne := absurd (Nat.lt_one_iff.1 lt) ne
  edges_nodup := List.nodup_nil

include tree

/-- A new node below an old one leaves a tree, if the old node has no node of the name yet. -/
theorem grow (old : node < g.size) (fresh : g.child? node name = none) :
    (g.grow node name).IsTree := by
  have vacant (c : NodeId) : ¬g.Contains node name c := fun edge => by
    rw [tree.child?_eq_some_iff.2 edge] at fresh
    cases fresh
  have bounded {x y : NodeId} {s : String} (edge : g.Contains x s y) : y ≠ g.size :=
    Nat.ne_of_lt (tree.target_lt _ edge)
  constructor
  case root_lt => exact Nat.lt_succ_of_lt tree.root_lt
  case source_lt =>
    intro e mem
    rcases List.mem_cons.1 mem with rfl | mem
    · exact Nat.lt_succ_of_lt old
    · exact Nat.lt_succ_of_lt (tree.source_lt e mem)
  case target_lt =>
    intro e mem
    rcases List.mem_cons.1 mem with rfl | mem
    · exact Nat.lt_succ_self _
    · exact Nat.lt_succ_of_lt (tree.target_lt e mem)
  case older =>
    intro x y s edge
    rcases contains_grow.1 edge with ⟨rfl, -, rfl⟩ | kept
    · exact old
    · exact tree.older kept
  -- The new edge is the only one into the new node, and the only one of its name out of the old.
  case parent_unique =>
    intro x x' y s s' edge edge'
    rcases contains_grow.1 edge with ⟨rfl, rfl, rfl⟩ | kept <;>
      rcases contains_grow.1 edge' with ⟨rfl, rfl, new⟩ | kept'
    · exact ⟨rfl, rfl⟩
    · exact absurd rfl (bounded kept')
    · exact absurd new (bounded kept)
    · exact tree.parent_unique kept kept'
  case child_unique =>
    intro x y y' s edge edge'
    rcases contains_grow.1 edge with ⟨rfl, rfl, rfl⟩ | kept <;>
      rcases contains_grow.1 edge' with ⟨same, same', new⟩ | kept'
    · exact new.symm
    · exact absurd kept' (vacant _)
    · subst same same'
      exact absurd kept (vacant _)
    · exact tree.child_unique kept kept'
  case exists_parent =>
    intro y lt ne
    rcases Nat.lt_succ_iff_lt_or_eq.1 lt with lt | rfl
    · obtain ⟨x, s, edge⟩ := tree.exists_parent y lt ne
      exact ⟨x, s, contains_grow.2 (.inr edge)⟩
    · exact ⟨node, name, contains_grow.2 (.inl ⟨rfl, rfl, rfl⟩)⟩
  case edges_nodup =>
    exact List.nodup_cons.2 ⟨vacant _, tree.edges_nodup⟩

/-- An import between two nodes leaves the tree as it is. -/
theorem link (importer : a < g.size) (imported : b < g.size) : (g.link a b).IsTree := by
  by_cases known : b ∈ g.imports a
  · rwa [NamespaceGraph.link, if_pos known]
  · have edges : (g.link a b).edges = ⟨a, .imports, b⟩ :: g.edges := by
      rw [NamespaceGraph.link, if_neg known]
    have size : (g.link a b).size = g.size := by
      rw [NamespaceGraph.link, if_neg known]
    constructor
    case root_lt => exact size ▸ tree.root_lt
    case source_lt =>
      rw [edges, size]
      exact List.forall_mem_cons.2 ⟨importer, tree.source_lt⟩
    case target_lt =>
      rw [edges, size]
      exact List.forall_mem_cons.2 ⟨imported, tree.target_lt⟩
    case older => exact fun edge => tree.older (contains_link.1 edge)
    case parent_unique =>
      exact fun edge edge' => tree.parent_unique (contains_link.1 edge) (contains_link.1 edge')
    case child_unique =>
      exact fun edge edge' => tree.child_unique (contains_link.1 edge) (contains_link.1 edge')
    case exists_parent =>
      intro y lt ne
      obtain ⟨x, s, edge⟩ := tree.exists_parent y (size ▸ lt) ne
      exact ⟨x, s, contains_link.2 edge⟩
    case edges_nodup =>
      rw [edges]
      exact List.nodup_cons.2 ⟨fun mem => known (mem_imports_iff.2 mem), tree.edges_nodup⟩

end Preservation

end IsTree

section Paths

@[simp] theorem nodeAt?_nil : g.nodeAt? [] = some root := rfl

theorem nodeFrom?_append (start : NodeId) (p q : List String) :
    g.nodeFrom? start (p ++ q) = (g.nodeFrom? start p).bind (g.nodeFrom? · q) := by
  induction p generalizing start with
  | nil => rfl
  | cons s rest ih =>
    simp only [List.cons_append, nodeFrom?, Option.bind_assoc]
    exact congrArg _ (funext fun child => ih child)

theorem nodeAt?_append (p q : List String) :
    g.nodeAt? (p ++ q) = (g.nodeAt? p).bind (g.nodeFrom? · q) :=
  nodeFrom?_append root p q

theorem nodeAt?_concat (p : List String) (s : String) :
    g.nodeAt? (p ++ [s]) = (g.nodeAt? p).bind (g.child? · s) := by
  rw [nodeAt?_append]
  refine congrArg _ (funext fun node => ?_)
  simp [nodeFrom?]

/-- The way to a node below the root ends with an edge from a node on the way. -/
theorem nodeAt?_concat_eq_some_iff {p : List String} :
    g.nodeAt? (p ++ [s]) = some node ↔ ∃ parent, g.nodeAt? p = some parent ∧
      g.child? parent s = some node := by
  rw [nodeAt?_concat, Option.bind_eq_some_iff]

namespace IsTree

variable (tree : g.IsTree)

include tree

theorem lt_size_of_nodeAt? (h : g.nodeAt? path = some node) : node < g.size := by
  rcases List.eq_nil_or_concat path with rfl | ⟨p, s, rfl⟩
  · cases h
    exact tree.root_lt
  · rw [List.concat_eq_append, nodeAt?_concat_eq_some_iff] at h
    obtain ⟨parent, -, edge⟩ := h
    exact tree.target_lt _ (contains_of_child? edge)

theorem parent?_of_nodeAt?_concat {p : List String} (h : g.nodeAt? (p ++ [s]) = some node) :
    g.parent? node = g.nodeAt? p := by
  obtain ⟨parent, before, edge⟩ := nodeAt?_concat_eq_some_iff.1 h
  rw [before]
  exact tree.parent?_eq_some_iff.2 ⟨s, contains_of_child? edge⟩

/-- **Different paths lead to different nodes.** Both are followed backwards: their last edges run
into one node, so they are the same. -/
theorem eq_of_nodeAt? {p q : List String} (hp : g.nodeAt? p = some node)
    (hq : g.nodeAt? q = some node) : p = q := by
  induction p using List.reverseRecOn generalizing q node with
  | nil =>
    rcases List.eq_nil_or_concat q with rfl | ⟨q, s, rfl⟩
    · rfl
    · rw [List.concat_eq_append] at hq
      obtain ⟨parent, -, edge⟩ := nodeAt?_concat_eq_some_iff.1 hq
      cases hp
      exact absurd (tree.older (contains_of_child? edge)) (Nat.not_lt_zero _)
  | append_singleton p s ih =>
    obtain ⟨parent, before, edge⟩ := nodeAt?_concat_eq_some_iff.1 hp
    rcases List.eq_nil_or_concat q with rfl | ⟨q, s', rfl⟩
    · cases hq
      exact absurd (tree.older (contains_of_child? edge)) (Nat.not_lt_zero _)
    · rw [List.concat_eq_append] at hq ⊢
      obtain ⟨parent', before', edge'⟩ := nodeAt?_concat_eq_some_iff.1 hq
      obtain ⟨rfl, rfl⟩ :=
        tree.parent_unique (contains_of_child? edge) (contains_of_child? edge')
      rw [ih before before']

/-- **Every node has a path.** -/
theorem exists_nodeAt? (lt : node < g.size) : ∃ path, g.nodeAt? path = some node := by
  induction node using Nat.strongRecOn with
  | ind node ih =>
    by_cases top : node = root
    · exact ⟨[], top ▸ rfl⟩
    · obtain ⟨parent, s, edge⟩ := tree.exists_parent node lt top
      obtain ⟨path, before⟩ := ih parent (tree.older edge) (tree.source_lt _ edge)
      exact ⟨path ++ [s], nodeAt?_concat_eq_some_iff.2
        ⟨parent, before, tree.child?_eq_some_iff.2 edge⟩⟩

end IsTree

end Paths

end DefaultArgs.NamespaceGraph
