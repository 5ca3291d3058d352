import DefaultArgs.Proofs.Namespace.Tree

/-!
# What declarations do to the namespaces

Naming a path creates the namespaces on it that are missing, and an import links two namespaces.
Seen from the paths, both only add: a path that led to a node leads to it for ever, the new paths
are the beginnings of the named one, and the new import is the one that was asked for. A path that
exists already is looked up and nothing is created.

## Main definitions

* `Known g path`: a namespace is at the end of the path
* `Imports g importer imported`: one namespace imports another, both given by their paths
* `Extended g path g' node`: the graph after the namespaces on a path were created

## Main results

* `IsTree.extended_ensureNode`: what `ensureNode` does
* `ensureNode_of_nodeAt?`: a path that exists is only looked up
* `IsTree.known_linkPaths_iff`, `IsTree.imports_linkPaths_iff`: what `linkPaths` does
-/

namespace DefaultArgs.NamespaceGraph

/-- There is a namespace at the end of the path. -/
def Known (g : NamespaceGraph) (path : List String) : Prop :=
  ∃ node, g.nodeAt? path = some node

/-- One namespace imports another. Both are given by their paths. -/
def Imports (g : NamespaceGraph) (importer imported : List String) : Prop :=
  ∃ a b, g.nodeAt? importer = some a ∧ g.nodeAt? imported = some b ∧ b ∈ g.imports a

/-- **What creating the namespaces on a path does.** The path leads to the node, every other new
path is a beginning of it, old paths lead where they led, and no import is added. -/
structure Extended (g : NamespaceGraph) (path : List String) (g' : NamespaceGraph)
    (node : NodeId) : Prop where
  tree : g'.IsTree
  reached : g'.nodeAt? path = some node
  kept : ∀ p n, g.nodeAt? p = some n → g'.nodeAt? p = some n
  known : ∀ p, g'.Known p → g.Known p ∨ p <+: path
  imports : ∀ n, g'.imports n = g.imports n

variable {g g' mid : NamespaceGraph} {a b node start : NodeId} {name s : String}
  {path base p q x y : List String}

/-- The beginnings of a path that exists exist. -/
theorem Known.of_prefix (known : g.Known q) (before : p <+: q) : g.Known p := by
  obtain ⟨rest, rfl⟩ := before
  obtain ⟨node, reached⟩ := known
  rw [nodeAt?_append] at reached
  obtain ⟨inner, reached, -⟩ := Option.bind_eq_some_iff.1 reached
  exact ⟨inner, reached⟩

section Creation

@[simp] theorem imports_grow : (g.grow node name).imports a = g.imports a := by
  simp [imports, grow]

theorem child?_grow : (g.grow node name).child? a s =
    if a = node ∧ s = name then some g.size else g.child? a s := by
  unfold child? grow
  by_cases here : a = node ∧ s = name
  · obtain ⟨rfl, rfl⟩ := here
    simp
  · rw [if_neg here, List.find?_cons_of_neg]
    simp only [decide_eq_true_eq, not_and]
    rintro rfl label
    exact here ⟨rfl, (EdgeLabel.contains.inj label).symm⟩

/-- The new node is at the end of the path of the old one, with its name appended. All other paths
lead where they led. Nothing is below the new node, and nothing was where it is now. -/
theorem IsTree.nodeAt?_grow (tree : g.IsTree) (reached : g.nodeAt? base = some node)
    (fresh : g.child? node name = none) (p : List String) :
    (g.grow node name).nodeAt? p = if p = base ++ [name] then some g.size else g.nodeAt? p := by
  induction p using List.reverseRecOn with
  | nil => simp
  | append_singleton p s ih =>
    rw [nodeAt?_concat, nodeAt?_concat, ih]
    by_cases new : p = base ++ [name]
    · subst new
      have old := tree.lt_size_of_nodeAt? reached
      have longer : base ++ [name] ++ [s] ≠ base ++ [name] := by simp
      rw [if_pos rfl, if_neg longer, Option.bind_some, child?_grow,
        if_neg fun here => Nat.ne_of_gt old here.1, tree.child?_of_size_le (Nat.le_refl _),
        nodeAt?_concat, reached, Option.bind_some, fresh, Option.bind_none]
    · rw [if_neg new]
      cases before : g.nodeAt? p with
      | none =>
        have other : p ++ [s] ≠ base ++ [name] := by
          intro same
          rw [(List.append_inj' same rfl).1, reached] at before
          cases before
        rw [if_neg other]
        rfl
      | some parent =>
        rw [Option.bind_some, Option.bind_some, child?_grow]
        refine if_congr ⟨?_, ?_⟩ rfl rfl
        · rintro ⟨rfl, rfl⟩
          rw [tree.eq_of_nodeAt? before reached]
        · intro same
          obtain ⟨rfl, last⟩ := List.append_inj' same rfl
          rw [reached] at before
          exact ⟨(Option.some.inj before).symm, List.head_eq_of_cons_eq last⟩

theorem ensureChild_of_some {child : NodeId} (found : g.child? node name = some child) :
    g.ensureChild node name = (g, child) := by
  rw [ensureChild, found]

theorem ensureChild_of_none (fresh : g.child? node name = none) :
    g.ensureChild node name = (g.grow node name, g.size) := by
  rw [ensureChild, fresh]
  rfl

namespace Extended

theorem refl (tree : g.IsTree) (reached : g.nodeAt? path = some node) : g.Extended path g node :=
  ⟨tree, reached, fun _ _ found => found, fun _ known => .inl known, fun _ => rfl⟩

theorem trans {inner : NodeId} (first : g.Extended p mid inner)
    (second : mid.Extended (p ++ q) g' node) : g.Extended (p ++ q) g' node where
  tree := second.tree
  reached := second.reached
  kept r n found := second.kept r n (first.kept r n found)
  known r found := by
    rcases second.known r found with found | before
    · exact (first.known r found).imp_right fun before => before.trans (List.prefix_append _ _)
    · exact .inr before
  imports n := (second.imports n).trans (first.imports n)

variable (h : g.Extended path g' node)

include h

theorem known_iff : g'.Known p ↔ g.Known p ∨ p <+: path := by
  refine ⟨h.known p, ?_⟩
  rintro (⟨n, found⟩ | before)
  · exact ⟨n, h.kept p n found⟩
  · exact Known.of_prefix ⟨node, h.reached⟩ before

/-- The imports are those from before. They join old nodes, which have the paths they always had. -/
theorem imports_iff (tree : g.IsTree) : g'.Imports x y ↔ g.Imports x y := by
  constructor
  · rintro ⟨a, b, importer, imported, mem⟩
    rw [h.imports] at mem
    have edge := mem_imports_iff.1 mem
    obtain ⟨x', importer'⟩ := tree.exists_nodeAt? (tree.source_lt _ edge)
    obtain ⟨y', imported'⟩ := tree.exists_nodeAt? (tree.target_lt _ edge)
    obtain rfl := h.tree.eq_of_nodeAt? importer (h.kept _ _ importer')
    obtain rfl := h.tree.eq_of_nodeAt? imported (h.kept _ _ imported')
    exact ⟨a, b, importer', imported', mem⟩
  · rintro ⟨a, b, importer, imported, mem⟩
    exact ⟨a, b, h.kept _ _ importer, h.kept _ _ imported, (h.imports a).symm ▸ mem⟩

end Extended

namespace IsTree

variable (tree : g.IsTree)

include tree

theorem extended_ensureChild (reached : g.nodeAt? base = some start) (name : String) :
    g.Extended (base ++ [name]) (g.ensureChild start name).1 (g.ensureChild start name).2 := by
  cases found : g.child? start name with
  | some child =>
    rw [ensureChild_of_some found]
    exact .refl tree (nodeAt?_concat_eq_some_iff.2 ⟨start, reached, found⟩)
  | none =>
    rw [ensureChild_of_none found]
    have paths := tree.nodeAt?_grow reached found
    have vacant : g.nodeAt? (base ++ [name]) = none := by
      rw [nodeAt?_concat, reached, Option.bind_some, found]
    constructor
    case tree => exact tree.grow (tree.lt_size_of_nodeAt? reached) found
    case reached => rw [paths, if_pos rfl]
    case kept =>
      intro p n old
      rw [paths, if_neg ?_, old]
      rintro rfl
      rw [vacant] at old
      cases old
    case known =>
      rintro p ⟨n, new⟩
      rw [paths] at new
      split at new
      · next here => exact .inr (here ▸ List.prefix_refl _)
      · exact .inl ⟨n, new⟩
    case imports => exact fun _ => imports_grow

theorem extended_ensureFrom (reached : g.nodeAt? base = some start) (path : List String) :
    g.Extended (base ++ path) (g.ensureFrom start path).1 (g.ensureFrom start path).2 := by
  induction path generalizing g base start with
  | nil =>
    rw [List.append_nil]
    exact .refl tree reached
  | cons name rest ih =>
    have first : g.Extended (base ++ [name]) _ _ := tree.extended_ensureChild reached name
    have second := ih first.tree first.reached
    rw [List.append_cons]
    exact first.trans second

/-- **What creating the namespaces on a path from the root does.** -/
theorem extended_ensureNode (path : List String) :
    g.Extended path (g.ensureNode path).1 (g.ensureNode path).2 :=
  tree.extended_ensureFrom nodeAt?_nil path

end IsTree

theorem ensureFrom_of_nodeFrom? (found : g.nodeFrom? start path = some node) :
    g.ensureFrom start path = (g, node) := by
  induction path generalizing start with
  | nil =>
    cases found
    rfl
  | cons name rest ih =>
    obtain ⟨child, edge, found⟩ := Option.bind_eq_some_iff.1 found
    rw [ensureFrom, ensureChild_of_some edge]
    exact ih found

/-- A path that exists is looked up, and nothing is created. -/
theorem ensureNode_of_nodeAt? (found : g.nodeAt? path = some node) :
    g.ensureNode path = (g, node) :=
  ensureFrom_of_nodeFrom? found

end Creation

section Linking

theorem child?_link : (g.link a b).child? node s = g.child? node s := by
  unfold child? link
  split
  · rfl
  · simp

@[simp] theorem nodeFrom?_link : (g.link a b).nodeFrom? start path = g.nodeFrom? start path := by
  induction path generalizing start with
  | nil => rfl
  | cons name rest ih => simp only [nodeFrom?, child?_link, ih]

@[simp] theorem nodeAt?_link : (g.link a b).nodeAt? path = g.nodeAt? path :=
  nodeFrom?_link

theorem mem_imports_link_iff {source target : NodeId} :
    target ∈ (g.link a b).imports source ↔
      target ∈ g.imports source ∨ (source = a ∧ target = b) := by
  rw [mem_imports_iff, mem_imports_iff, link]
  split
  · next known =>
    refine ⟨.inl, ?_⟩
    rintro (old | ⟨rfl, rfl⟩)
    · exact old
    · exact mem_imports_iff.1 known
  · simp [or_comm]

/-- A link adds the import between the two nodes and no other. -/
theorem IsTree.imports_link_iff (tree : g.IsTree) (importer : g.nodeAt? p = some a)
    (imported : g.nodeAt? q = some b) :
    (g.link a b).Imports x y ↔ g.Imports x y ∨ (x = p ∧ y = q) := by
  simp only [Imports, nodeAt?_link, mem_imports_link_iff]
  constructor
  · rintro ⟨c, d, source, target, old | ⟨rfl, rfl⟩⟩
    · exact .inl ⟨c, d, source, target, old⟩
    · exact .inr ⟨tree.eq_of_nodeAt? source importer, tree.eq_of_nodeAt? target imported⟩
  · rintro (⟨c, d, source, target, old⟩ | ⟨rfl, rfl⟩)
    · exact ⟨c, d, source, target, .inl old⟩
    · exact ⟨a, b, importer, imported, .inr ⟨rfl, rfl⟩⟩

namespace IsTree

variable (tree : g.IsTree)

include tree

/-- Linking two paths creates both of them, one after the other, and links their nodes. -/
theorem exists_extended_linkPaths (p q : List String) :
    ∃ mid g' a b, g.Extended p mid a ∧ mid.Extended q g' b ∧ g'.nodeAt? p = some a ∧
      (g.linkPaths p q).1 = g'.link a b := by
  have first := tree.extended_ensureNode p
  have second := first.tree.extended_ensureNode q
  exact ⟨_, _, _, _, first, second, second.kept _ _ first.reached, rfl⟩

theorem linkPaths (p q : List String) : (g.linkPaths p q).1.IsTree := by
  obtain ⟨mid, g', a, b, first, second, importer, linked⟩ := tree.exists_extended_linkPaths p q
  rw [linked]
  exact second.tree.link (second.tree.lt_size_of_nodeAt? importer)
    (second.tree.lt_size_of_nodeAt? second.reached)

theorem nodeAt?_linkPaths (p q : List String) (found : g.nodeAt? x = some node) :
    (g.linkPaths p q).1.nodeAt? x = some node := by
  obtain ⟨mid, g', a, b, first, second, -, linked⟩ := tree.exists_extended_linkPaths p q
  rw [linked, nodeAt?_link]
  exact second.kept _ _ (first.kept _ _ found)

theorem known_linkPaths_iff : (g.linkPaths p q).1.Known x ↔ g.Known x ∨ x <+: p ∨ x <+: q := by
  obtain ⟨mid, g', a, b, first, second, -, linked⟩ := tree.exists_extended_linkPaths p q
  rw [linked, Known]
  simp only [nodeAt?_link]
  rw [← Known, second.known_iff, first.known_iff, or_assoc]

theorem imports_linkPaths_iff :
    (g.linkPaths p q).1.Imports x y ↔ g.Imports x y ∨ (x = p ∧ y = q) := by
  obtain ⟨mid, g', a, b, first, second, importer, linked⟩ := tree.exists_extended_linkPaths p q
  rw [linked, second.tree.imports_link_iff importer second.reached, second.imports_iff first.tree,
    first.imports_iff tree]

end IsTree

end Linking

end DefaultArgs.NamespaceGraph
