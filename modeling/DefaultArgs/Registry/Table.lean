import DefaultArgs.Registry.Basic
import DefaultArgs.Symbol

/-!
# Looking up scopes

The scopes of a registry are found by absolute and by relative names. The lookups and the declared
supertypes make a symbol table of it.

## Main definitions

* `Resolution`: what a relative name stands for
* `Registry.absolute? r text`: the scope of an absolute dotted name
* `Registry.relative r home text`: what a dotted name stands for in a namespace
* `Registry.hierarchy r`: the declared and the built-in supertypes
* `Registry.symbolTable r`: the symbol table of a registry
* `Registry.lookupTable r`: the symbol table that takes nothing but lookups from the registry
-/

namespace DefaultArgs

/-! ## Absolute and relative names

A dotted name is either absolute, starting at the root, or relative to a namespace. A relative name
is tried in the namespace itself and then in those around it. Only if none of them has it are the
imports of all these namespaces tried, and then all matches count: a name that different imports
give to different scopes is ambiguous.
-/

/-- What a name stands for. -/
inductive Resolution (α : Type)
  | found (value : α)
  /-- Different imports give different matches, listed in search order. -/
  | ambiguous (values : List α)
  | notFound
deriving DecidableEq, Repr

namespace Resolution

variable {α : Type}

/-- No match is not found, a single one is found, and several are ambiguous. -/
def ofMatches : List α → Resolution α
  | [] => notFound
  | [a] => found a
  | several => ambiguous several

/-- The match of a name that stands for exactly one thing. -/
def found? : Resolution α → Option α
  | found a => some a
  | ambiguous _ | notFound => none

end Resolution

namespace Registry

variable (r : Registry)

/-- The scope of an absolute dotted name. -/
def absolute? (text : String) : Option RegisteredScope :=
  let name := QualifiedName.parse text
  if name.name = "" then none else r.entry? name

/-- The scope of a name that continues from a namespace. -/
def entryFrom? (name : QualifiedName) (node : NodeId) : Option RegisteredScope :=
  (r.namespaces.nodeFrom? node name.enclosing).bind (r.entryIn? · name.name)

/-- The scopes that the imports of the given namespaces give to a name, each of them once. -/
def importedEntries (name : QualifiedName) (nodes : List NodeId) : List RegisteredScope :=
  ((nodes.flatMap r.namespaces.imports).filterMap (r.entryFrom? name)).eraseDupsBy
    fun a b => a.scope.name = b.scope.name

/-- What a name stands for in a namespace. -/
def relativeTo (name : QualifiedName) (node : NodeId) : Resolution RegisteredScope :=
  let around := r.namespaces.lineage node
  match around.findSome? (r.entryFrom? name) with
  | some entry => .found entry
  | none => .ofMatches (r.importedEntries name around)

/-- What a dotted name stands for in the namespace at the end of a path. -/
def relative (home : List String) (text : String) : Resolution RegisteredScope :=
  if QualifiedName.pathOf text = [] then .notFound
  else
    match r.namespaces.nodeAt? home with
    | some node => r.relativeTo (QualifiedName.parse text) node
    | none => .notFound

end Registry

/-! ## Registries as symbol tables

A registry answers the questions of a symbol table from its declared scopes. The supertypes of a
name are the declared ones; names without a declaration keep their built-in supertypes.
-/

namespace Registry

variable (r : Registry)

/-- The scope of an absolute dotted name, without its members. -/
def scopeAt? (text : String) : Option Scope :=
  (r.absolute? text).map RegisteredScope.scope

/-- The one scope that a dotted name stands for in a namespace, without its members. -/
def scopeFrom? (home : List String) (text : String) : Option Scope :=
  (r.relative home text).found?.map RegisteredScope.scope

/-- The declared supertypes of a name, or the built-in ones if the name is not declared. -/
def directSupertypes (name : QualifiedName) : List QualifiedName :=
  match r.entry? name with
  | some entry => entry.scope.supertypes
  | none => builtinSupertypes name

/-- The hierarchy of the declared and the built-in supertypes. -/
def hierarchy : Hierarchy QualifiedName where
  direct := r.directSupertypes
  names := (r.entries.flatMap fun e => e.2.scope.supertypes) ++ builtinNames
  mem_names a b mem := by
    unfold directSupertypes at mem
    split at mem
    · next entry found =>
      obtain ⟨node, stored⟩ := r.exists_mem_entries_of_entry? found
      exact List.mem_append_left _ (List.mem_flatMap.2 ⟨(node, entry), stored, mem⟩)
    · exact List.mem_append_right _ (mem_builtinNames_of_mem mem)

/-- The symbol table of the registry. -/
def symbolTable : SymbolTable :=
  .ofLookups r.scopeAt? r.scopeFrom? r.membersOf r.hierarchy

/-- The symbol table that takes nothing but lookups from the registry, so that it knows the
built-in supertypes only. -/
def lookupTable : SymbolTable :=
  .ofLookups r.scopeAt? r.scopeFrom? r.membersOf .builtin

end Registry

end DefaultArgs
