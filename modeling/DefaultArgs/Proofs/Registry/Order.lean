import DefaultArgs.Generation.Run
import DefaultArgs.Proofs.Registry.Outline
import Mathlib.Data.List.Flatten
import Mathlib.Data.List.Perm.Basic

/-!
# The order of declarations

The order of declarations shows in the numbers of the namespaces, in the order of the imports and in
the order of the scopes, but in no answer. If all calls succeed, the scope of a name is the one that
the calls declare, with the members that they give it, in their order. The namespaces are those that
the calls name, and the imports those that they ask for. None of this depends on the order of the
calls, apart from the order of the members of one scope, and nothing else is ever seen.

## Main definitions

* `Declaration.scopesFor`, `Declaration.membersFor`, `Declaration.paths`: what a call brings
* `Brings scopes members before after`: what accepted calls do to one name
* `Registry.Alike r r'`: two registries hold the same behind their numbers

## Main results

* `Catalogue.brings_performAll`: what a sequence of accepted calls does to a name
* `Registry.Reachable.known_performAll_iff`, `Registry.Reachable.imports_performAll_iff`: what a
  sequence of calls does to the namespaces
* `Registry.Alike.symbolTable_eq`: registries that are alike answer alike
* `Registry.symbolTable_eq_of_perm`: the order of declarations does not show
-/

namespace DefaultArgs

namespace Declaration

/-- The scopes of a name that a call declares: one or none. -/
def scopesFor (name : QualifiedName) : Declaration → List Scope
  | .scope s | .whole s _ => if s.name = name then [s] else []
  | .member _ _ | .imports _ _ => []

/-- The members that a call gives to the scope of a name, in order. -/
def membersFor (name : QualifiedName) : Declaration → List Member
  | .whole s members => if s.name = name then members else []
  | .member owner m => if owner = name then [m] else []
  | .scope _ | .imports _ _ => []

/-- The paths of the namespaces that a call creates. -/
def paths : Declaration → List (List String)
  | .scope s | .whole s _ => [s.name.enclosing]
  | .member _ _ => []
  | .imports importer imported => [importer, imported]

end Declaration

/-- A declared scope with more members. -/
def RegisteredScope.extend (entry : RegisteredScope) (members : List Member) : RegisteredScope :=
  { entry with members := entry.members ++ members }

/-- **What accepted calls do to one name.** A scope that is there gets the members and no second
scope; otherwise the calls declare it once, or they do not mention it at all. -/
inductive Brings (scopes : List Scope) (members : List Member) :
    Option RegisteredScope → Option RegisteredScope → Prop
  | extended (entry : RegisteredScope) (undeclared : scopes = []) :
      Brings scopes members (some entry) (some (entry.extend members))
  | declared (scope : Scope) (single : scopes = [scope]) :
      Brings scopes members none (some ⟨scope, members⟩)
  | absent (undeclared : scopes = []) (memberless : members = []) : Brings scopes members none none

variable {scopes scopes' : List Scope} {members members' : List Member}
  {before after after' later : Option RegisteredScope}

namespace Brings

theorem refl (before : Option RegisteredScope) : Brings [] [] before before := by
  cases before with
  | none => exact .absent rfl rfl
  | some entry =>
    have same : entry.extend [] = entry := by simp [RegisteredScope.extend]
    have extended : Brings [] [] (some entry) (some (entry.extend [])) := .extended entry rfl
    rwa [same] at extended

theorem trans (first : Brings scopes members before after)
    (second : Brings scopes' members' after later) :
    Brings (scopes ++ scopes') (members ++ members') before later := by
  cases first with
  | extended entry undeclared =>
    cases second with
    | extended _ undeclared' =>
      have joined :
          (entry.extend members).extend members' = entry.extend (members ++ members') := by
        simp [RegisteredScope.extend]
      rw [joined]
      exact .extended entry (by rw [undeclared, undeclared', List.append_nil])
  | declared scope single =>
    cases second with
    | extended _ undeclared =>
      exact .declared scope (by rw [single, undeclared, List.append_nil])
  | absent undeclared memberless =>
    subst undeclared memberless
    exact second

/-- What a new name gets does not depend on the order in which its scopes are declared. A name is
declared once at most, and a list of one scope has no other order. -/
theorem eq_of_perm (first : Brings scopes members none after)
    (second : Brings scopes' members none after') (permuted : scopes.Perm scopes') :
    after = after' := by
  cases first with
  | declared scope single =>
    subst single
    obtain rfl := List.perm_singleton.1 permuted.symm
    cases second with
    | declared scope' single' =>
      cases single'
      rfl
    | absent undeclared => cases undeclared
  | absent undeclared =>
    subst undeclared
    obtain rfl := List.nil_perm.1 permuted
    cases second with
    | declared scope' single' => cases single'
    | absent => rfl

end Brings

namespace Catalogue

variable {c : Catalogue} {call : Declaration} {calls : List Declaration} {scope : Scope}
  {owner : QualifiedName} {member : Member}

section Steps

theorem brings_declareScope (accepted : (c.declareScope scope).2 = .ok ())
    (name : QualifiedName) :
    Brings (if scope.name = name then [scope] else []) [] (c.entry? name)
      (Catalogue.entry? (c.declareScope scope).1 name) := by
  cases vacant : c.entry? scope.name with
  | some entry =>
    rw [declareScope, vacant] at accepted
    cases accepted
  | none =>
    rw [declareScope, vacant]
    by_cases here : scope.name = name
    · subst here
      simp only [insert, vacant, if_true]
      exact .declared scope rfl
    · simp only [insert, if_neg here, if_neg (Ne.symm here)]
      exact .refl _

theorem brings_declareMember (accepted : (c.declareMember owner member).2 = .ok ())
    (name : QualifiedName) :
    Brings [] (if owner = name then [member] else []) (c.entry? name)
      (Catalogue.entry? (c.declareMember owner member).1 name) := by
  cases found : c.entry? owner with
  | none =>
    rw [declareMember, found] at accepted
    cases accepted
  | some entry =>
    simp only [declareMember, found] at accepted ⊢
    split at accepted
    · cases accepted
    · next fresh =>
      rw [if_neg fresh]
      by_cases here : owner = name
      · subst here
        simp only [insert, found, if_true]
        exact .extended entry rfl
      · simp only [insert, if_neg here, if_neg (Ne.symm here)]
        exact .refl _

/-- Accepted members are accepted one after the other. -/
theorem declareMembers_cons_of_ok
    (accepted : (c.declareMembers owner (member :: members)).2 = .ok ()) :
    (c.declareMember owner member).2 = .ok () ∧ c.declareMembers owner (member :: members) =
      (c.declareMember owner member).1.declareMembers owner members := by
  rw [declareMembers] at accepted ⊢
  rcases declared : c.declareMember owner member with ⟨next, answer⟩
  rw [declared] at accepted
  cases answer with
  | error e => cases accepted
  | ok => exact ⟨rfl, rfl⟩

/-- An accepted scope with its members is an accepted scope followed by accepted members. -/
theorem declare_of_ok (accepted : (c.declare scope members).2 = .ok ()) :
    (c.declareScope scope).2 = .ok () ∧ c.declare scope members =
      (c.declareScope scope).1.declareMembers scope.name members := by
  rw [declare] at accepted ⊢
  rcases declared : c.declareScope scope with ⟨next, answer⟩
  rw [declared] at accepted
  cases answer with
  | error e => cases accepted
  | ok => exact ⟨rfl, rfl⟩

theorem brings_declareMembers (accepted : (c.declareMembers owner members).2 = .ok ())
    (name : QualifiedName) :
    Brings [] (if owner = name then members else []) (c.entry? name)
      (Catalogue.entry? (c.declareMembers owner members).1 name) := by
  induction members generalizing c with
  | nil =>
    rw [ite_self]
    exact .refl _
  | cons member rest ih =>
    obtain ⟨first, later⟩ := declareMembers_cons_of_ok accepted
    rw [later] at accepted ⊢
    have both := (brings_declareMember first name).trans (ih accepted)
    by_cases here : owner = name
    · simpa [here] using both
    · simpa [here] using both

theorem brings_declare (accepted : (c.declare scope members).2 = .ok ()) (name : QualifiedName) :
    Brings (if scope.name = name then [scope] else []) (if scope.name = name then members else [])
      (c.entry? name) (Catalogue.entry? (c.declare scope members).1 name) := by
  obtain ⟨first, later⟩ := declare_of_ok accepted
  rw [later] at accepted ⊢
  have both := (brings_declareScope first name).trans (brings_declareMembers accepted name)
  rwa [List.append_nil, List.nil_append] at both

/-- **What an accepted call does to a name.** -/
theorem brings_perform (accepted : (c.perform call).2 = .ok ()) (name : QualifiedName) :
    Brings (call.scopesFor name) (call.membersFor name) (c.entry? name)
      (Catalogue.entry? (c.perform call).1 name) := by
  cases call with
  | scope s => exact brings_declareScope accepted name
  | whole s members => exact brings_declare accepted name
  | member owner m => exact brings_declareMember accepted name
  | imports importer imported => exact .refl _

end Steps

/-- **What a sequence of accepted calls does to a name.** -/
theorem brings_performAll (accepted : ∀ answer ∈ (c.performAll calls).2, answer = .ok ())
    (name : QualifiedName) :
    Brings (calls.flatMap (Declaration.scopesFor name))
      (calls.flatMap (Declaration.membersFor name)) (c.entry? name)
      (Catalogue.entry? (c.performAll calls).1 name) := by
  induction calls generalizing c with
  | nil => exact .refl _
  | cons call rest ih =>
    rw [performAll_cons] at accepted ⊢
    obtain ⟨first, later⟩ := List.forall_mem_cons.1 accepted
    exact (brings_perform first name).trans (ih later)

end Catalogue

namespace Registry

variable {r r' : Registry} {call : Declaration} {calls calls' : List Declaration}

section Namespaces

theorem namespaces_declareScope (r : Registry) (scope : Scope) :
    (r.declareScope scope).1.namespaces = (r.namespaces.ensureNode scope.name.enclosing).1 := by
  unfold declareScope
  dsimp only
  split <;> rfl

theorem namespaces_declareMember (r : Registry) (owner : QualifiedName) (member : Member) :
    (r.declareMember owner member).1.namespaces = r.namespaces := by
  unfold declareMember
  split
  · split <;> rfl
  · rfl

theorem namespaces_declareMembers (r : Registry) (owner : QualifiedName) (members : List Member) :
    (r.declareMembers owner members).1.namespaces = r.namespaces := by
  induction members generalizing r with
  | nil => rfl
  | cons member rest ih =>
    have first := r.namespaces_declareMember owner member
    rw [declareMembers]
    split
    · next next declared =>
      rw [declared] at first
      exact (ih next).trans first
    · exact first

theorem namespaces_declare (r : Registry) (scope : Scope) (members : List Member) :
    (r.declare scope members).1.namespaces =
      (r.namespaces.ensureNode scope.name.enclosing).1 := by
  have first := r.namespaces_declareScope scope
  rw [declare]
  split
  · next next declared =>
    rw [declared] at first
    exact (next.namespaces_declareMembers scope.name members).trans first
  · exact first

variable (sound : r.Sound) {home importer imported : List String}

include sound

/-- A call creates the namespaces around the paths that it names, whether it succeeds or not. -/
theorem Sound.known_perform_iff : (r.perform call).1.namespaces.Known home ↔
    r.namespaces.Known home ∨ ∃ p ∈ call.paths, home <+: p := by
  cases call with
  | scope s =>
    rw [perform, namespaces_declareScope, (sound.tree.extended_ensureNode _).known_iff]
    simp [Declaration.paths]
  | whole s members =>
    rw [perform, namespaces_declare, (sound.tree.extended_ensureNode _).known_iff]
    simp [Declaration.paths]
  | member owner m =>
    rw [perform, namespaces_declareMember]
    simp [Declaration.paths]
  | imports importer imported =>
    rw [perform, Registry.declareImport, sound.tree.known_linkPaths_iff]
    simp [Declaration.paths]

/-- An import is added by the call that asks for it. -/
theorem Sound.imports_perform_iff : (r.perform call).1.namespaces.Imports importer imported ↔
    r.namespaces.Imports importer imported ∨ call = .imports importer imported := by
  cases call with
  | scope s =>
    rw [perform, namespaces_declareScope, (sound.tree.extended_ensureNode _).imports_iff sound.tree]
    simp
  | whole s members =>
    rw [perform, namespaces_declare, (sound.tree.extended_ensureNode _).imports_iff sound.tree]
    simp
  | member owner m =>
    rw [perform, namespaces_declareMember]
    simp
  | imports a b =>
    rw [perform, Registry.declareImport, sound.tree.imports_linkPaths_iff]
    simp [eq_comm]

end Namespaces

namespace Reachable

variable (h : r.Reachable) {home importer imported : List String}

include h

/-- The namespaces are those around the paths that the calls name. -/
theorem known_performAll_iff : (r.performAll calls).1.namespaces.Known home ↔
    r.namespaces.Known home ∨ ∃ call ∈ calls, ∃ p ∈ call.paths, home <+: p := by
  induction calls generalizing r with
  | nil => simp [performAll_nil]
  | cons call rest ih =>
    rw [performAll_cons, ih (h.perform call), h.sound.known_perform_iff, List.exists_mem_cons_iff,
      or_assoc]

/-- The imports are those that the calls ask for. -/
theorem imports_performAll_iff : (r.performAll calls).1.namespaces.Imports importer imported ↔
    r.namespaces.Imports importer imported ∨ .imports importer imported ∈ calls := by
  induction calls generalizing r with
  | nil => simp [performAll_nil]
  | cons call rest ih =>
    rw [performAll_cons, ih (h.perform call), h.sound.imports_perform_iff, List.mem_cons, or_assoc,
      eq_comm]

end Reachable

section Alike

/-- **Two registries hold the same** behind the numbers of their namespaces: the same scopes, the
same namespaces and the same imports. -/
structure Alike (r r' : Registry) : Prop where
  entry?_eq : ∀ name, r.entry? name = r'.entry? name
  known_iff : ∀ path, r.namespaces.Known path ↔ r'.namespaces.Known path
  imports_iff : ∀ importer imported,
    r.namespaces.Imports importer imported ↔ r'.namespaces.Imports importer imported

namespace Alike

variable (alike : r.Alike r')

include alike

theorem membersOf_eq : r.membersOf = r'.membersOf := by
  funext name
  simp only [membersOf, alike.entry?_eq]

theorem sameOutline : r.SameOutline r' :=
  ⟨fun name => congrArg _ (alike.entry?_eq name), alike.known_iff, alike.imports_iff⟩

/-- **Registries that hold the same answer alike.** -/
theorem symbolTable_eq (sound : r.Sound) (sound' : r'.Sound) : r.symbolTable = r'.symbolTable := by
  have outline := alike.sameOutline
  have direct : r.hierarchy.direct = r'.hierarchy.direct := outline.directSupertypes_eq
  simp only [symbolTable, SymbolTable.ofLookups, outline.scopeAt?_eq, alike.membersOf_eq, direct,
    outline.scopeFrom?_eq sound sound', outline.isAssignable_eq]

end Alike

end Alike

section Permutation

/-- What a sequence of accepted calls leaves in a fresh registry. -/
theorem brings_performAll_empty
    (accepted : ∀ answer ∈ (Registry.empty.performAll calls).2, answer = .ok ())
    (name : QualifiedName) :
    Brings (calls.flatMap (Declaration.scopesFor name))
      (calls.flatMap (Declaration.membersFor name)) none
      (Registry.entry? (Registry.empty.performAll calls).1 name) := by
  have refined := performAll_empty_catalogue calls
  have accepted' : ∀ answer ∈ (Catalogue.empty.performAll calls).2, answer = .ok () := by
    rw [refined]
    exact accepted
  have brought := Catalogue.brings_performAll accepted' name
  rwa [refined] at brought

/-- Accepted calls in another order leave the same, if every scope gets its members in the same
order. -/
theorem alike_of_perm (permuted : calls.Perm calls')
    (ordered : ∀ name, calls.flatMap (Declaration.membersFor name) =
      calls'.flatMap (Declaration.membersFor name))
    (accepted : ∀ answer ∈ (Registry.empty.performAll calls).2, answer = .ok ())
    (accepted' : ∀ answer ∈ (Registry.empty.performAll calls').2, answer = .ok ()) :
    (Registry.empty.performAll calls).1.Alike (Registry.empty.performAll calls').1 := by
  constructor
  case entry?_eq =>
    intro name
    have first := brings_performAll_empty accepted name
    have second := brings_performAll_empty accepted' name
    rw [← ordered name] at second
    exact first.eq_of_perm second (permuted.flatMap_right _)
  -- Namespaces and imports are there as soon as some call asks for them.
  case known_iff =>
    intro path
    simp only [Reachable.empty.known_performAll_iff, permuted.mem_iff]
  case imports_iff =>
    intro importer imported
    simp only [Reachable.empty.imports_performAll_iff, permuted.mem_iff]

/-- **The order of declarations does not show.** Two sequences of the same calls, all accepted, in
which every scope gets its members in the same order leave registries with one symbol table. So
references resolve alike, types offer the same defaults, and runs give the same reports. -/
theorem symbolTable_eq_of_perm (permuted : calls.Perm calls')
    (ordered : ∀ name, calls.flatMap (Declaration.membersFor name) =
      calls'.flatMap (Declaration.membersFor name))
    (accepted : ∀ answer ∈ (Registry.empty.performAll calls).2, answer = .ok ())
    (accepted' : ∀ answer ∈ (Registry.empty.performAll calls').2, answer = .ok ()) :
    let table := (Registry.empty.performAll calls).1.symbolTable
    let table' := (Registry.empty.performAll calls').1.symbolTable
    table = table' ∧
      (∀ kind expected owner text,
        table.resolve kind expected owner text = table'.resolve kind expected owner text) ∧
      (∀ companion, table.companionDefaults companion = table'.companionDefaults companion) ∧
      ∀ config request,
        Generator.run ⟨table, config⟩ request = Generator.run ⟨table', config⟩ request := by
  intro table table'
  have same : table = table' := (alike_of_perm permuted ordered accepted accepted').symbolTable_eq
    (Reachable.empty.performAll calls).sound (Reachable.empty.performAll calls').sound
  rw [same]
  exact ⟨rfl, fun _ _ _ _ => rfl, fun _ => rfl, fun _ _ => rfl⟩

end Permutation

section Samples

/-- The first of two types with limits gets its limits after everything else. -/
def limitsLast : List Declaration :=
  sharedLimits ++ [.member ⟨"Limits", ["a"]⟩ (.constant "MAX" .string),
    .member ⟨"Limits", ["a"]⟩ (.constant "MIN" .string)]

/-- The imports come first, and the other type after the first limit. -/
def importsFirst : List Declaration :=
  [.imports ["app"] ["app"], .imports ["app"] ["b"], .imports ["app"] ["a"],
    .scope ⟨⟨"Limits", ["a"]⟩, .class, []⟩, .member ⟨"Limits", ["a"]⟩ (.constant "MAX" .string),
    .scope ⟨⟨"Limits", ["b"]⟩, .class, []⟩, .member ⟨"Limits", ["a"]⟩ (.constant "MIN" .string)]

end Samples

/-- The registries differ, and the symbol tables do not. -/
theorem symbolTable_eq_of_perm_importsFirst :
    (Registry.empty.performAll limitsLast).1 ≠ (Registry.empty.performAll importsFirst).1 ∧
      (Registry.empty.performAll limitsLast).1.symbolTable =
        (Registry.empty.performAll importsFirst).1.symbolTable := by
  have permuted : limitsLast.Perm importsFirst := by decide
  have ordered (name) : limitsLast.flatMap (Declaration.membersFor name) =
      importsFirst.flatMap (Declaration.membersFor name) := by
    simp [limitsLast, sharedLimits, importsFirst, Declaration.membersFor]
  exact ⟨by decide, (symbolTable_eq_of_perm permuted ordered (by decide) (by decide)).1⟩

end Registry

end DefaultArgs
