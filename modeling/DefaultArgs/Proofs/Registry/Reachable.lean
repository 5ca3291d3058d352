import DefaultArgs.Proofs.Namespace.Growth
import DefaultArgs.Registry.Basic
import Mathlib.Data.List.Find
import Mathlib.Data.List.Nodup

/-!
# The states of a registry

A registry starts empty and changes by declarations only. In every state that it reaches, the
namespaces form a tree, every scope is kept in the namespace of its name, no two scopes have one
name and no scope has two fields of one name. Since different paths lead to different namespaces,
the registry can then be read as a list of scopes that are found by their qualified names: the
search for a path and the search in the namespace at its end come to the same.

## Main definitions

* `Registry.Reachable r`: declarations lead from the empty registry to `r`
* `Registry.Sound r`: what holds in every such state
* `Registry.addScope r scope`: the registry after a scope was declared

## Main results

* `Sound.entry?_eq`: the scope of a name is the one that has the name
* `Reachable.sound`: every state is sound
* `declareScope_of_some`, `declareScope_of_none`: what declaring a scope does
* `declareMember_of_none`, `declareMember_of_some`: what declaring a member does
-/

namespace DefaultArgs

/-- The names of the fields of a scope in the order of their declaration. -/
def RegisteredScope.fieldNames (entry : RegisteredScope) : List String :=
  (entry.members.filter (·.isField)).map Member.name

/-- A declared scope with one more member. -/
def RegisteredScope.append (entry : RegisteredScope) (member : Member) : RegisteredScope :=
  { entry with members := entry.members ++ [member] }

/-- The scope of the given name with one more member; all other scopes stay as they are. -/
def RegisteredScope.appendIn (name : QualifiedName) (member : Member) (entry : RegisteredScope) :
    RegisteredScope :=
  if entry.scope.name = name then entry.append member else entry

@[simp] theorem RegisteredScope.scope_appendIn (name : QualifiedName) (member : Member)
    (entry : RegisteredScope) : (entry.appendIn name member).scope = entry.scope := by
  unfold appendIn
  split <;> rfl

theorem RegisteredScope.nodup_fieldNames_append {entry : RegisteredScope} {member : Member}
    (nodup : entry.fieldNames.Nodup)
    (fresh : ¬(member.isField ∧ member.name ∈ entry.fieldNames)) :
    (entry.append member).fieldNames.Nodup := by
  have split : (entry.append member).fieldNames =
      entry.fieldNames ++ ([member].filter (·.isField)).map Member.name := by
    simp [fieldNames, append]
  rw [split]
  cases field : member.isField with
  | false => simpa [field] using nodup
  | true =>
    have new : member.name ∉ entry.fieldNames := fun mem => fresh ⟨field, mem⟩
    rw [List.filter_cons_of_pos field, List.filter_nil, List.map_singleton]
    exact nodup.append (List.nodup_singleton _) (List.disjoint_singleton.2 new)

namespace Registry

/-- **The states of a registry.** Namespaces are created below existing ones or on a path from the
root, existing ones are linked by imports, and scopes and members are declared, with or without
success. -/
inductive Reachable : Registry → Prop
  | empty : Reachable .empty
  | child {r : Registry} (h : Reachable r) {node : NodeId} (old : node < r.namespaces.size)
      (name : String) : Reachable { r with namespaces := (r.namespaces.ensureChild node name).1 }
  | path {r : Registry} (h : Reachable r) (path : List String) :
      Reachable { r with namespaces := (r.namespaces.ensureNode path).1 }
  | link {r : Registry} (h : Reachable r) {a b : NodeId} (importer : a < r.namespaces.size)
      (imported : b < r.namespaces.size) :
      Reachable { r with namespaces := r.namespaces.link a b }
  | scope {r : Registry} (h : Reachable r) (scope : Scope) : Reachable (r.declareScope scope).1
  | member {r : Registry} (h : Reachable r) (scope : QualifiedName) (member : Member) :
      Reachable (r.declareMember scope member).1

/-- **What holds in every state of a registry.** -/
structure Sound (r : Registry) : Prop where
  tree : r.namespaces.IsTree
  home : ∀ e ∈ r.entries, r.namespaces.nodeAt? e.2.scope.name.enclosing = some e.1
  names_nodup : (r.entries.map fun e => e.2.scope.name).Nodup
  fields_nodup : ∀ e ∈ r.entries, e.2.fieldNames.Nodup

/-- The registry after a scope was declared that was not declared before. -/
def addScope (r : Registry) (scope : Scope) : Registry :=
  ⟨(r.namespaces.ensureNode scope.name.enclosing).1,
    r.entries ++ [((r.namespaces.ensureNode scope.name.enclosing).2, ⟨scope, []⟩)]⟩

variable {r : Registry} {g : NamespaceGraph} {node : NodeId} {name : QualifiedName} {scope : Scope}
  {member : Member} {entry : RegisteredScope}

theorem sound_empty : Registry.empty.Sound where
  tree := .empty
  home _ mem := by cases mem
  names_nodup := List.nodup_nil
  fields_nodup _ mem := by cases mem

/-- A scope is found only in a namespace that exists. -/
theorem known_of_entry? (found : r.entry? name = some entry) :
    r.namespaces.Known name.enclosing := by
  obtain ⟨node, reached, -⟩ := Option.bind_eq_some_iff.1 found
  exact ⟨node, reached⟩

namespace Sound

variable (sound : r.Sound)

section Names

include sound

/-- **The scope of a name is the one that has the name.** -/
theorem entry?_eq (name : QualifiedName) :
    r.entry? name = (r.entries.find? fun e => e.2.scope.name = name).map Prod.snd := by
  rw [Registry.entry?]
  cases reached : r.namespaces.nodeAt? name.enclosing with
  | none =>
    have absent : r.entries.find? (fun e => e.2.scope.name = name) = none := by
      refine List.find?_eq_none.2 fun e mem named => ?_
      obtain rfl : e.2.scope.name = name := by simpa using named
      rw [sound.home e mem] at reached
      cases reached
    rw [absent]
    rfl
  | some node =>
    rw [Option.bind_some, entryIn?]
    refine congrArg _ (List.find?_congr fun e mem => ?_)
    refine decide_eq_decide.2 ⟨?_, ?_⟩
    · rintro ⟨here, simple⟩
      have enclosing := sound.tree.eq_of_nodeAt? (sound.home e mem) (here ▸ reached)
      exact QualifiedName.mk.injEq .. ▸ ⟨simple, enclosing⟩
    · rintro rfl
      rw [sound.home e mem] at reached
      exact ⟨Option.some.inj reached, rfl⟩

/-- There is only one, since two scopes of one name are one scope. -/
theorem entry?_eq_some_iff :
    r.entry? name = some entry ↔ entry.scope.name = name ∧ ∃ node, (node, entry) ∈ r.entries := by
  rw [sound.entry?_eq, Option.map_eq_some_iff]
  constructor
  · rintro ⟨⟨node, entry⟩, first, rfl⟩
    exact ⟨by simpa using List.find?_some first, node, List.mem_of_find?_eq_some first⟩
  · rintro ⟨rfl, node, mem⟩
    cases first : r.entries.find? (fun e => e.2.scope.name = entry.scope.name) with
    | none =>
      have absent := List.find?_eq_none.1 first _ mem
      simp at absent
    | some other =>
      have named : other.2.scope.name = entry.scope.name := by simpa using List.find?_some first
      have same := List.inj_on_of_nodup_map sound.names_nodup (List.mem_of_find?_eq_some first) mem
        named
      exact ⟨other, rfl, congrArg Prod.snd same⟩

theorem name_of_entry? (found : r.entry? name = some entry) : entry.scope.name = name :=
  (sound.entry?_eq_some_iff.1 found).1

theorem nodup_fieldNames_of_entry? (found : r.entry? name = some entry) :
    entry.fieldNames.Nodup := by
  obtain ⟨-, node, mem⟩ := sound.entry?_eq_some_iff.1 found
  exact sound.fields_nodup _ mem

end Names

section Namespaces

variable (tree : g.IsTree)
  (kept : ∀ p n, r.namespaces.nodeAt? p = some n → g.nodeAt? p = some n)

include sound tree kept

/-- More namespaces keep a registry sound, if the old paths lead where they led. -/
theorem withNamespaces : Sound { r with namespaces := g } where
  tree := tree
  home e mem := kept _ _ (sound.home e mem)
  names_nodup := sound.names_nodup
  fields_nodup := sound.fields_nodup

/-- More namespaces do not change what is declared. -/
theorem entry?_withNamespaces (name : QualifiedName) :
    entry? { r with namespaces := g } name = r.entry? name := by
  rw [(sound.withNamespaces tree kept).entry?_eq, sound.entry?_eq]

end Namespaces

end Sound

section Scopes

/-- A scope that is declared already cannot be declared again, and the attempt changes nothing. -/
theorem declareScope_of_some (found : r.entry? scope.name = some entry) :
    r.declareScope scope = (r, .error (.duplicateScope scope.name)) := by
  obtain ⟨node, reached, found⟩ := Option.bind_eq_some_iff.1 found
  simp only [declareScope, NamespaceGraph.ensureNode_of_nodeAt? reached, found]

namespace Sound

variable (sound : r.Sound)

include sound

/-- In the namespace of a new scope, no scope of its simple name is kept. Such a scope would have
the whole name. -/
theorem entryIn?_of_none (vacant : r.entry? scope.name = none) :
    r.entryIn? (r.namespaces.ensureNode scope.name.enclosing).2 scope.name.name = none := by
  have extended := sound.tree.extended_ensureNode scope.name.enclosing
  rw [sound.entry?_eq, Option.map_eq_none_iff, List.find?_eq_none] at vacant
  rw [entryIn?, Option.map_eq_none_iff, List.find?_eq_none]
  intro e mem named
  obtain ⟨here, simple⟩ := by simpa using named
  have old := extended.kept _ _ (sound.home e mem)
  rw [here] at old
  have enclosing := extended.tree.eq_of_nodeAt? old extended.reached
  exact vacant e mem (by simpa using QualifiedName.mk.injEq .. ▸ ⟨simple, enclosing⟩)

theorem declareScope_of_none (vacant : r.entry? scope.name = none) :
    r.declareScope scope = (r.addScope scope, .ok ()) := by
  simp only [declareScope, sound.entryIn?_of_none vacant]
  rfl

theorem addScope (vacant : r.entry? scope.name = none) : (r.addScope scope).Sound := by
  have extended := sound.tree.extended_ensureNode scope.name.enclosing
  rw [sound.entry?_eq, Option.map_eq_none_iff, List.find?_eq_none] at vacant
  constructor
  case tree => exact extended.tree
  case home =>
    intro e mem
    rcases List.mem_append.1 mem with old | new
    · exact extended.kept _ _ (sound.home e old)
    · obtain rfl := List.mem_singleton.1 new
      exact extended.reached
  case names_nodup =>
    rw [Registry.addScope, List.map_append, List.map_singleton]
    refine sound.names_nodup.append (List.nodup_singleton _) (List.disjoint_singleton.2 ?_)
    intro mem
    obtain ⟨e, mem, named⟩ := List.mem_map.1 mem
    exact vacant e mem (by simpa using named)
  case fields_nodup =>
    intro e mem
    rcases List.mem_append.1 mem with old | new
    · exact sound.fields_nodup e old
    · obtain rfl := List.mem_singleton.1 new
      exact List.nodup_nil

theorem entry?_addScope (vacant : r.entry? scope.name = none) (name : QualifiedName) :
    entry? (r.addScope scope) name =
      if name = scope.name then some ⟨scope, []⟩ else r.entry? name := by
  rw [(sound.addScope vacant).entry?_eq, Registry.addScope, List.find?_append, Option.map_or,
    ← sound.entry?_eq]
  split
  · next here =>
    rw [here, vacant]
    simp
  · next other => simp [Ne.symm other]

end Sound

end Scopes

section Members

@[simp] theorem namespaces_appendMember (node : NodeId) (simple : String) :
    (r.appendMember node simple member).namespaces = r.namespaces := rfl

theorem declareMember_of_none (vacant : r.entry? name = none) :
    r.declareMember name member = (r, .error (.scopeNotFound name)) := by
  rw [declareMember, vacant]
  split
  · next absent => cases absent
  · rfl

/-- A member is appended to a declared scope, unless it is a field and the scope has a field of its
name; then nothing changes. -/
theorem declareMember_of_some (found : r.entry? name = some entry) (member : Member) :
    ∃ node, r.namespaces.nodeAt? name.enclosing = some node ∧
      r.declareMember name member =
        if member.isField ∧ member.name ∈ entry.fieldNames then
          (r, .error (.duplicateField name member.name))
        else (r.appendMember node name.name member, .ok ()) := by
  obtain ⟨node, reached⟩ := known_of_entry? found
  refine ⟨node, reached, ?_⟩
  simp only [declareMember, reached, found]
  refine if_congr ?_ rfl rfl
  simp [RegisteredScope.fieldNames, and_assoc]

namespace Sound

variable (sound : r.Sound) (reached : r.namespaces.nodeAt? name.enclosing = some node)

include sound reached

theorem entries_appendMember (member : Member) : (r.appendMember node name.name member).entries =
    r.entries.map (Prod.map id (RegisteredScope.appendIn name member)) := by
  refine List.map_congr_left fun e mem => ?_
  obtain ⟨home, entry⟩ := e
  have here : home = node ∧ entry.scope.name.name = name.name ↔ entry.scope.name = name := by
    constructor
    · rintro ⟨rfl, simple⟩
      have enclosing := sound.tree.eq_of_nodeAt? (sound.home _ mem) reached
      exact QualifiedName.mk.injEq .. ▸ ⟨simple, enclosing⟩
    · rintro rfl
      have stored := sound.home _ mem
      rw [reached] at stored
      exact ⟨(Option.some.inj stored).symm, rfl⟩
  simp only [here, Prod.map, RegisteredScope.appendIn]
  split <;> rfl

theorem appendMember (found : r.entry? name = some entry)
    (fresh : ¬(member.isField ∧ member.name ∈ entry.fieldNames)) :
    (r.appendMember node name.name member).Sound := by
  have entries := sound.entries_appendMember reached member
  constructor
  case tree => exact sound.tree
  case home =>
    rw [entries]
    refine List.forall_mem_map.2 fun e mem => ?_
    simpa using sound.home e mem
  case names_nodup =>
    rw [entries, List.map_map]
    simpa [Function.comp_def] using sound.names_nodup
  case fields_nodup =>
    rw [entries]
    refine List.forall_mem_map.2 fun e mem => ?_
    rw [Prod.map_snd, RegisteredScope.appendIn]
    split
    · next here =>
      have same := sound.entry?_eq_some_iff.2 ⟨here, e.1, mem⟩
      rw [found] at same
      obtain rfl := Option.some.inj same
      exact RegisteredScope.nodup_fieldNames_append (sound.fields_nodup e mem) fresh
    · exact sound.fields_nodup e mem

theorem entry?_appendMember (found : r.entry? name = some entry)
    (fresh : ¬(member.isField ∧ member.name ∈ entry.fieldNames)) (asked : QualifiedName) :
    entry? (r.appendMember node name.name member) asked =
      if asked = name then some (entry.append member) else r.entry? asked := by
  have updated : entry? (r.appendMember node name.name member) asked =
      (r.entry? asked).map (RegisteredScope.appendIn name member) := by
    rw [(sound.appendMember reached found fresh).entry?_eq, sound.entries_appendMember reached,
      List.find?_map, sound.entry?_eq, Option.map_map, Option.map_map]
    simp [Function.comp_def]
  rw [updated]
  split
  · next here =>
    subst here
    rw [found, Option.map_some, RegisteredScope.appendIn, if_pos (sound.name_of_entry? found)]
  · next other =>
    cases asked_for : r.entry? asked with
    | none => rfl
    | some entry' =>
      have named := sound.name_of_entry? asked_for
      rw [Option.map_some, RegisteredScope.appendIn, if_neg (named ▸ other)]

end Sound

end Members

section Imports

variable (sound : r.Sound) (importer imported : List String)

include sound

theorem Sound.declareImport : (r.declareImport importer imported).Sound :=
  sound.withNamespaces (sound.tree.linkPaths importer imported) fun _ _ =>
    sound.tree.nodeAt?_linkPaths importer imported

theorem Sound.entry?_declareImport (name : QualifiedName) :
    entry? (r.declareImport importer imported) name = r.entry? name :=
  sound.entry?_withNamespaces (sound.tree.linkPaths importer imported)
    (fun _ _ => sound.tree.nodeAt?_linkPaths importer imported) name

end Imports

section States

theorem Sound.declareScope (sound : r.Sound) (scope : Scope) : (r.declareScope scope).1.Sound := by
  cases found : r.entry? scope.name with
  | some entry =>
    rw [declareScope_of_some found]
    exact sound
  | none =>
    rw [sound.declareScope_of_none found]
    exact sound.addScope found

theorem Sound.declareMember (sound : r.Sound) (name : QualifiedName) (member : Member) :
    (r.declareMember name member).1.Sound := by
  cases found : r.entry? name with
  | none =>
    rw [declareMember_of_none found]
    exact sound
  | some entry =>
    obtain ⟨node, reached, outcome⟩ := declareMember_of_some found member
    rw [outcome]
    split
    · exact sound
    · next fresh => exact sound.appendMember reached found fresh

namespace Reachable

/-- **Every state of a registry is sound.** -/
theorem sound (h : r.Reachable) : r.Sound := by
  induction h with
  | empty => exact sound_empty
  | child h old name ih =>
    obtain ⟨path, reached⟩ := ih.tree.exists_nodeAt? old
    have extended := ih.tree.extended_ensureChild reached name
    exact ih.withNamespaces extended.tree extended.kept
  | path h path ih =>
    have extended := ih.tree.extended_ensureNode path
    exact ih.withNamespaces extended.tree extended.kept
  | link h importer imported ih =>
    refine ih.withNamespaces (ih.tree.link importer imported) fun p n found => ?_
    rwa [NamespaceGraph.nodeAt?_link]
  | scope h scope ih => exact ih.declareScope scope
  | member h scope member ih => exact ih.declareMember scope member

variable (h : r.Reachable)

include h

theorem declareImport (importer imported : List String) :
    (r.declareImport importer imported).Reachable := by
  have created := (h.path importer).path imported
  have first := h.sound.tree.extended_ensureNode importer
  have second := first.tree.extended_ensureNode imported
  exact created.link (second.tree.lt_size_of_nodeAt? (second.kept _ _ first.reached))
    (second.tree.lt_size_of_nodeAt? second.reached)

theorem declareMembers (name : QualifiedName) (members : List Member) :
    (r.declareMembers name members).1.Reachable := by
  induction members generalizing r with
  | nil => exact h
  | cons member rest ih =>
    have next := h.member name member
    rw [Registry.declareMembers]
    split
    · next r' declared =>
      rw [declared] at next
      exact ih next
    · exact next

theorem declare (scope : Scope) (members : List Member) :
    (r.declare scope members).1.Reachable := by
  have next := h.scope scope
  rw [Registry.declare]
  split
  · next r' declared =>
    rw [declared] at next
    exact next.declareMembers scope.name members
  · exact next

end Reachable

end States

end Registry

end DefaultArgs
