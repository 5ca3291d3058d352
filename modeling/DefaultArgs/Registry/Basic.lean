import DefaultArgs.Namespace.Graph
import DefaultArgs.Symbol

/-!
# The registry of declared scopes

A registry holds the declared scopes in the order of their declaration, each in the namespace of its
name. The scope `a.Outer.Inner` lives in the namespace reached by `a` and `Outer`, so scopes and
namespaces share their paths. No namespace holds two scopes of one name, and no scope two fields of
one name. A declaration that fails says why, and the registry that it leaves is returned beside it.

## Main definitions

* `RegisteredScope`: a declared scope with its members
* `Registry`: the declared scopes and their namespaces
* `Registry.entry?`: the declared scope of a name
* `Registry.declareScope`, `Registry.declareMember`, `Registry.declare`, `Registry.declareImport`:
  the declarations
-/

namespace DefaultArgs

/-- A declared scope and its members in the order of their declaration. -/
structure RegisteredScope where
  scope : Scope
  members : List Member
deriving DecidableEq, Repr

/-- A scope or a member that cannot be declared. -/
inductive DeclarationError
  | duplicateScope (scope : QualifiedName)
  | scopeNotFound (scope : QualifiedName)
  | duplicateField (scope : QualifiedName) (field : String)
deriving DecidableEq, Repr

/-- The text of a declaration error. -/
def DeclarationError.message : DeclarationError → String
  | duplicateScope scope => "duplicate scope: " ++ scope.display
  | scopeNotFound scope => "scope not found: " ++ scope.display
  | duplicateField scope field =>
    "duplicate field '" ++ field ++ "' in scope '" ++ scope.display ++ "'"

/-- The declared scopes and their namespaces. -/
structure Registry where
  namespaces : NamespaceGraph
  /-- The scopes in the order of their declaration, each with its namespace. -/
  entries : List (NodeId × RegisteredScope)
deriving DecidableEq, Repr

namespace Registry

/-- The registry without scopes. -/
def empty : Registry := ⟨.empty, []⟩

variable (r : Registry)

section Entries

/-- The scope with a simple name in a namespace. -/
def entryIn? (node : NodeId) (name : String) : Option RegisteredScope :=
  (r.entries.find? fun e => e.1 = node ∧ e.2.scope.name.name = name).map Prod.snd

/-- The scope of a qualified name. -/
def entry? (name : QualifiedName) : Option RegisteredScope :=
  (r.namespaces.nodeAt? name.enclosing).bind (r.entryIn? · name.name)

/-- The members of a scope in the order of their declaration. -/
def membersOf (name : QualifiedName) : List Member :=
  match r.entry? name with
  | some entry => entry.members
  | none => []

theorem exists_mem_entries_of_entry? {name : QualifiedName} {entry : RegisteredScope}
    (h : r.entry? name = some entry) : ∃ node, (node, entry) ∈ r.entries := by
  obtain ⟨node, -, found⟩ := Option.bind_eq_some_iff.1 h
  obtain ⟨⟨home, _⟩, stored, rfl⟩ := Option.map_eq_some_iff.1 found
  exact ⟨home, List.mem_of_find?_eq_some stored⟩

end Entries

section Declarations

/-- Declare a scope without members in the namespace of its name. -/
def declareScope (scope : Scope) : Registry × Except DeclarationError Unit :=
  let (namespaces, node) := r.namespaces.ensureNode scope.name.enclosing
  match r.entryIn? node scope.name.name with
  | some _ => (⟨namespaces, r.entries⟩, .error (.duplicateScope scope.name))
  | none => (⟨namespaces, r.entries ++ [(node, ⟨scope, []⟩)]⟩, .ok ())

/-- Append a member to the scope with a simple name in a namespace. -/
def appendMember (node : NodeId) (name : String) (member : Member) : Registry :=
  { r with
    entries := r.entries.map fun (home, entry) =>
      if home = node ∧ entry.scope.name.name = name then
        (home, { entry with members := entry.members ++ [member] })
      else (home, entry) }

/-- Declare a member of a scope. Methods of one name may be declared repeatedly, but no two fields
of one name. -/
def declareMember (scope : QualifiedName) (member : Member) :
    Registry × Except DeclarationError Unit :=
  match r.namespaces.nodeAt? scope.enclosing, r.entry? scope with
  | some node, some entry =>
    if member.isField ∧ entry.members.any fun m => m.isField && m.name = member.name then
      (r, .error (.duplicateField scope member.name))
    else (r.appendMember node scope.name member, .ok ())
  | _, _ => (r, .error (.scopeNotFound scope))

/-- Declare members in order, up to the first that cannot be declared. -/
def declareMembers (r : Registry) (scope : QualifiedName) :
    List Member → Registry × Except DeclarationError Unit
  | [] => (r, .ok ())
  | member :: rest =>
    match r.declareMember scope member with
    | (next, .ok ()) => declareMembers next scope rest
    | failed => failed

/-- Declare a scope together with its members. What was declared before a failure stays. -/
def declare (scope : Scope) (members : List Member) : Registry × Except DeclarationError Unit :=
  match r.declareScope scope with
  | (next, .ok ()) => next.declareMembers scope.name members
  | failed => failed

/-- Declare scopes with their members, up to the first declaration that fails. -/
def declareAll (r : Registry) : List (Scope × List Member) → Except DeclarationError Registry
  | [] => .ok r
  | (scope, members) :: rest =>
    match r.declare scope members with
    | (next, .ok ()) => declareAll next rest
    | (_, .error e) => .error e

/-- Make the scopes of one namespace known by their simple names in another. -/
def declareImport (importer imported : List String) : Registry :=
  { r with namespaces := (r.namespaces.linkPaths importer imported).1 }

end Declarations

end Registry

end DefaultArgs
