import DefaultArgs.Proofs.Hierarchy.Search
import DefaultArgs.Proofs.Registry.Shadowing

/-!
# The outline of a registry

Which scopes there are, what supertypes they have, and which namespaces import which others is the
outline of a registry. Members do not belong to it. Everything that is asked about scopes and types
is answered from the outline: the scope of a dotted name, absolute or seen from a namespace, the
supertypes of a name, and which values can stand where. So registries of one outline answer these
questions alike, whatever the members of their scopes.

## Main definitions

* `Registry.SameOutline r r'`: two registries differ at most in the members of their scopes

## Main results

* `SameOutline.exists_standsFor`: a relative name stands for the same scope in both
* `SameOutline.scopeAt?_eq`, `SameOutline.scopeFrom?_eq`: scopes are found alike
* `SameOutline.isAssignable_eq`: values can stand at the same places
-/

namespace DefaultArgs.Registry

/-- **Two registries have the same outline**: the same scopes with the same supertypes, the same
namespaces and the same imports. -/
structure SameOutline (r r' : Registry) : Prop where
  scope_eq : ∀ name,
    (r.entry? name).map RegisteredScope.scope = (r'.entry? name).map RegisteredScope.scope
  known_iff : ∀ path, r.namespaces.Known path ↔ r'.namespaces.Known path
  imports_iff : ∀ importer imported,
    r.namespaces.Imports importer imported ↔ r'.namespaces.Imports importer imported

namespace SameOutline

variable {r r' r'' : Registry} {home : List String} {name : QualifiedName}
  {entry : RegisteredScope}

theorem refl (r : Registry) : r.SameOutline r :=
  ⟨fun _ => rfl, fun _ => .rfl, fun _ _ => .rfl⟩

variable (same : r.SameOutline r')

include same

theorem symm : r'.SameOutline r :=
  ⟨fun name => (same.scope_eq name).symm, fun path => (same.known_iff path).symm,
    fun importer imported => (same.imports_iff importer imported).symm⟩

theorem trans (same' : r'.SameOutline r'') : r.SameOutline r'' :=
  ⟨fun name => (same.scope_eq name).trans (same'.scope_eq name),
    fun path => (same.known_iff path).trans (same'.known_iff path),
    fun importer imported => (same.imports_iff importer imported).trans
      (same'.imports_iff importer imported)⟩

section Scopes

theorem exists_entry? (found : r.entry? name = some entry) :
    ∃ entry', r'.entry? name = some entry' ∧ entry'.scope = entry.scope := by
  have scopes := same.scope_eq name
  rw [found] at scopes
  exact Option.map_eq_some_iff.1 scopes.symm

theorem entry?_eq_none (vacant : r.entry? name = none) : r'.entry? name = none := by
  have scopes := same.scope_eq name
  rw [vacant] at scopes
  exact Option.map_eq_none_iff.1 scopes.symm

theorem vacant (vacant : r.Vacant home name) : r'.Vacant home name :=
  fun p before => same.entry?_eq_none (vacant p before)

theorem exists_imported (given : r.Imported home name entry) :
    ∃ entry', r'.Imported home name entry' ∧ entry'.scope = entry.scope := by
  obtain ⟨importer, imported, before, edge, found⟩ := given
  obtain ⟨entry', found', scope⟩ := same.exists_entry? found
  exact ⟨entry', ⟨importer, imported, before, (same.imports_iff _ _).1 edge, found'⟩, scope⟩

/-- **A relative name stands for the same scope in both registries**, perhaps with other members. If
it is imported, any scope that the second registry gives for it is that of the only import in the
first one. -/
theorem exists_standsFor (sound' : r'.Sound) (stands : r.StandsFor home name entry) :
    ∃ entry', r'.StandsFor home name entry' ∧ entry'.scope = entry.scope := by
  cases stands with
  | around inner =>
    obtain ⟨p, before, value, longer⟩ := inner
    obtain ⟨entry', value', scope⟩ := same.exists_entry? value
    refine ⟨entry', .around ⟨p, before, value', fun q inside lt => ?_⟩, scope⟩
    exact same.entry?_eq_none (longer q inside lt)
  | imported vacant only =>
    obtain ⟨entry', given', scope⟩ := same.exists_imported ((only entry).2 rfl)
    refine ⟨entry', .imported (same.vacant vacant) fun other => ⟨fun given => ?_, ?_⟩, scope⟩
    · obtain ⟨back, given_back, scope_back⟩ := same.symm.exists_imported given
      obtain rfl : back = entry := (only back).1 given_back
      have scopes : other.scope = entry'.scope := scope_back.symm.trans scope.symm
      exact sound'.eq_of_imported given given' (congrArg Scope.name scopes)
    · rintro rfl
      exact given'

end Scopes

section Questions

theorem scopeAt?_eq : r.scopeAt? = r'.scopeAt? := by
  funext text
  simp only [scopeAt?, absolute?]
  split
  · rfl
  · exact same.scope_eq _

theorem scopeFrom?_eq (sound : r.Sound) (sound' : r'.Sound) : r.scopeFrom? = r'.scopeFrom? := by
  funext home text
  by_cases empty : QualifiedName.pathOf text = []
  · simp [scopeFrom?, relative, empty, Resolution.found?]
  · have spelled := (QualifiedName.segments_ofSegments empty).symm
    refine Option.ext fun scope => ?_
    rw [sound.scopeFrom?_eq_some_iff spelled, sound'.scopeFrom?_eq_some_iff spelled]
    refine and_congr (same.known_iff home) ⟨?_, ?_⟩
    · rintro ⟨entry, stands, rfl⟩
      exact same.exists_standsFor sound' stands
    · rintro ⟨entry, stands, rfl⟩
      exact same.symm.exists_standsFor sound stands

theorem directSupertypes_eq : r.directSupertypes = r'.directSupertypes := by
  funext name
  unfold directSupertypes
  cases found : r.entry? name with
  | none => rw [same.entry?_eq_none found]
  | some entry =>
    obtain ⟨entry', found', scope⟩ := same.exists_entry? found
    rw [found']
    exact (congrArg Scope.supertypes scope).symm

/-- The hierarchies themselves may differ in the order in which they list their supertypes, but not
in the supertypes of a name. -/
theorem isAssignable_eq : r.hierarchy.isAssignable = r'.hierarchy.isAssignable :=
  Hierarchy.isAssignable_congr fun name => congrFun same.directSupertypes_eq name

end Questions

end SameOutline

end DefaultArgs.Registry
