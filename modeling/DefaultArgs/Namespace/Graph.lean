/-!
# Namespaces

Namespaces form a tree below a root, and one namespace may import others. Both relations are kept
as a graph: its nodes are numbered in the order of their creation, the root is node zero, and a
labelled edge says that one namespace contains another under a name or that it imports it.
Namespaces are created by naming a path to them, and none is ever removed.

## Main definitions

* `NamespaceGraph`: the nodes and edges
* `nodeAt?`, `ensureNode`: the node at the end of a path, looked up or created
* `lineage`: a namespace, the one around it and so on up to the root
* `imports`, `link`: the imports of a namespace
-/

namespace DefaultArgs

/-- The number of a namespace. -/
abbrev NodeId := Nat

/-- What an edge between two namespaces says. -/
inductive EdgeLabel
  /-- The source contains the target under a name. -/
  | contains (name : String)
  /-- The source imports the scopes of the target. -/
  | imports
deriving DecidableEq, Repr

/-- The source of the edge contains its target. -/
def EdgeLabel.isContains : EdgeLabel → Bool
  | contains _ => true
  | imports => false

/-- An edge between two namespaces. -/
structure Edge where
  source : NodeId
  label : EdgeLabel
  target : NodeId
deriving DecidableEq, Repr

/-- The namespaces with what they contain and import. -/
structure NamespaceGraph where
  /-- The count of nodes, which are the numbers below it. -/
  size : Nat
  /-- The edges, the newest first. -/
  edges : List Edge
deriving DecidableEq, Repr

namespace NamespaceGraph

/-- The namespace that contains all others. -/
def root : NodeId := 0

/-- The graph that has no namespace but the root. -/
def empty : NamespaceGraph := ⟨1, []⟩

variable (g : NamespaceGraph)

section Paths

/-- The namespace that a node contains under a name. -/
def child? (node : NodeId) (name : String) : Option NodeId :=
  (g.edges.find? fun e => e.source = node ∧ e.label = .contains name).map Edge.target

/-- The namespace that contains a node. -/
def parent? (node : NodeId) : Option NodeId :=
  (g.edges.find? fun e => e.target = node ∧ e.label.isContains).map Edge.source

/-- The namespace at the end of a path that starts at a node. -/
def nodeFrom? (start : NodeId) : List String → Option NodeId
  | [] => some start
  | name :: rest => (g.child? start name).bind (nodeFrom? · rest)

/-- The namespace at the end of a path from the root. -/
def nodeAt? (path : List String) : Option NodeId :=
  g.nodeFrom? root path

/-- The namespace that a node contains under a name, created if it is missing. -/
def ensureChild (node : NodeId) (name : String) : NamespaceGraph × NodeId :=
  match g.child? node name with
  | some child => (g, child)
  | none => (⟨g.size + 1, ⟨node, .contains name, g.size⟩ :: g.edges⟩, g.size)

/-- The namespace at the end of a path that starts at a node, created where it is missing. -/
def ensureFrom (g : NamespaceGraph) (start : NodeId) : List String → NamespaceGraph × NodeId
  | [] => (g, start)
  | name :: rest =>
    let (extended, child) := g.ensureChild start name
    ensureFrom extended child rest

/-- The namespace at the end of a path from the root, created where it is missing. -/
def ensureNode (path : List String) : NamespaceGraph × NodeId :=
  g.ensureFrom root path

/-- A node and the namespaces around it, from the inside outwards, at most `bound` of them. -/
def lineageWithin : Nat → NodeId → List NodeId
  | 0, _ => []
  | bound + 1, node =>
    node :: match g.parent? node with
      | some parent => lineageWithin bound parent
      | none => []

/-- A node and the namespaces around it, from the inside outwards. There are at most as many of
them as there are nodes. -/
def lineage (node : NodeId) : List NodeId :=
  g.lineageWithin g.size node

end Paths

section Imports

/-- The namespaces that a node imports, the newest import first. -/
def imports (node : NodeId) : List NodeId :=
  (g.edges.filter fun e => e.source = node ∧ e.label = .imports).map Edge.target

/-- Let one node import another. An import that is there already is not repeated. -/
def link (importer imported : NodeId) : NamespaceGraph :=
  if imported ∈ g.imports importer then g
  else { g with edges := ⟨importer, .imports, imported⟩ :: g.edges }

/-- Let one namespace import another. Both are given by their paths and created where they are
missing. -/
def linkPaths (importer imported : List String) : NamespaceGraph × NodeId × NodeId :=
  let (g, source) := g.ensureNode importer
  let (g, target) := g.ensureNode imported
  (g.link source target, source, target)

end Imports

end NamespaceGraph

end DefaultArgs
