import DefaultArgs.Proofs.Registry.Reachable

/-!
# A registry is a catalogue of names

Seen from outside, a registry is a map from qualified names to declared scopes. Each declaration
extends this map at one name, or fails for a reason that the map shows, and then it leaves the whole
registry as it was. Only a scope that is declared together with its members keeps what was declared
before the failure. Imports do not touch the map.

## Main definitions

* `Declaration`: a call that changes a registry
* `Registry.performAll r calls`: the registry after the calls, and their answers
* `Catalogue`: a map from names to declared scopes, with the same calls
* `Registry.catalogue r`: the map that a registry stands for

## Main results

* `Sound.perform_catalogue`: one call does to the registry what it does to the map
* `fst_declareScope_of_error`, `fst_declareMember_of_error`: a call that fails changes nothing
* `performAll_refines_catalogue`: a registry answers every sequence of calls as the map does
-/

namespace DefaultArgs

/-- A call that changes a registry. -/
inductive Declaration
  | scope (scope : Scope)
  /-- A scope together with its members. -/
  | whole (scope : Scope) (members : List Member)
  | member (scope : QualifiedName) (member : Member)
  | imports (importer imported : List String)
deriving DecidableEq, Repr

/-- Perform calls in order, each on the state that the one before it leaves, and list their
answers. -/
def Declaration.performEach {σ : Type}
    (perform : σ → Declaration → σ × Except DeclarationError Unit) (state : σ) :
    List Declaration → σ × List (Except DeclarationError Unit)
  | [] => (state, [])
  | call :: rest =>
    let (next, answer) := perform state call
    let (last, answers) := performEach perform next rest
    (last, answer :: answers)

/-- A map from qualified names to declared scopes. -/
@[ext] structure Catalogue where
  entry? : QualifiedName → Option RegisteredScope

namespace Catalogue

/-- The map without names. -/
def empty : Catalogue := ⟨fun _ => none⟩

variable (c : Catalogue)

/-- Map one name to a scope, and all others as before. -/
def insert (name : QualifiedName) (entry : RegisteredScope) : Catalogue :=
  ⟨fun asked => if asked = name then some entry else c.entry? asked⟩

/-- A new name is mapped to its scope, without members. -/
def declareScope (scope : Scope) : Catalogue × Except DeclarationError Unit :=
  match c.entry? scope.name with
  | some _ => (c, .error (.duplicateScope scope.name))
  | none => (c.insert scope.name ⟨scope, []⟩, .ok ())

/-- A member is appended at a name that is there, unless it is a field and a field of its name is
there. -/
def declareMember (name : QualifiedName) (member : Member) :
    Catalogue × Except DeclarationError Unit :=
  match c.entry? name with
  | none => (c, .error (.scopeNotFound name))
  | some entry =>
    if member.isField ∧ member.name ∈ entry.fieldNames then
      (c, .error (.duplicateField name member.name))
    else (c.insert name (entry.append member), .ok ())

/-- Members are appended in order, up to the first that cannot be appended. -/
def declareMembers (c : Catalogue) (name : QualifiedName) :
    List Member → Catalogue × Except DeclarationError Unit
  | [] => (c, .ok ())
  | member :: rest =>
    match c.declareMember name member with
    | (next, .ok ()) => declareMembers next name rest
    | failed => failed

/-- A scope and then its members. What was done before a failure stays. -/
def declare (scope : Scope) (members : List Member) : Catalogue × Except DeclarationError Unit :=
  match c.declareScope scope with
  | (next, .ok ()) => next.declareMembers scope.name members
  | failed => failed

/-- Perform one call. -/
def perform : Declaration → Catalogue × Except DeclarationError Unit
  | .scope scope => c.declareScope scope
  | .whole scope members => c.declare scope members
  | .member name member => c.declareMember name member
  | .imports _ _ => (c, .ok ())

/-- Perform calls in order. -/
def performAll : List Declaration → Catalogue × List (Except DeclarationError Unit) :=
  Declaration.performEach perform c

theorem performAll_cons (call : Declaration) (rest : List Declaration) :
    c.performAll (call :: rest) = (((c.perform call).1.performAll rest).1,
      (c.perform call).2 :: ((c.perform call).1.performAll rest).2) := rfl

end Catalogue

namespace Registry

/-- Perform one call. -/
def perform (r : Registry) : Declaration → Registry × Except DeclarationError Unit
  | .scope scope => r.declareScope scope
  | .whole scope members => r.declare scope members
  | .member name member => r.declareMember name member
  | .imports importer imported => (r.declareImport importer imported, .ok ())

/-- Perform calls in order. -/
def performAll (r : Registry) : List Declaration → Registry × List (Except DeclarationError Unit) :=
  Declaration.performEach perform r

theorem performAll_nil (r : Registry) : r.performAll [] = (r, []) := rfl

theorem performAll_cons (r : Registry) (call : Declaration) (rest : List Declaration) :
    r.performAll (call :: rest) = (((r.perform call).1.performAll rest).1,
      (r.perform call).2 :: ((r.perform call).1.performAll rest).2) := rfl

/-- The map that a registry stands for. -/
def catalogue (r : Registry) : Catalogue :=
  ⟨r.entry?⟩

/-- What a call leaves and answers, with the map in place of the registry. -/
def shown {α : Type} (result : Registry × α) : Catalogue × α :=
  (result.1.catalogue, result.2)

theorem catalogue_empty : Registry.empty.catalogue = .empty :=
  Catalogue.ext (funext fun name => sound_empty.entry?_eq name)

variable {r : Registry} {scope : Scope} {name : QualifiedName} {member : Member}
  {e : DeclarationError}

section Failures

/-- A scope that cannot be declared changes nothing. -/
theorem Sound.fst_declareScope_of_error (sound : r.Sound)
    (failed : (r.declareScope scope).2 = .error e) : (r.declareScope scope).1 = r := by
  cases found : r.entry? scope.name with
  | some entry => rw [declareScope_of_some found]
  | none =>
    rw [sound.declareScope_of_none found] at failed
    cases failed

/-- A member that cannot be declared changes nothing. -/
theorem fst_declareMember_of_error (failed : (r.declareMember name member).2 = .error e) :
    (r.declareMember name member).1 = r := by
  cases found : r.entry? name with
  | none => rw [declareMember_of_none found]
  | some entry =>
    obtain ⟨node, -, declared⟩ := declareMember_of_some found member
    rw [declared] at failed ⊢
    split at failed
    · next duplicate => rw [if_pos duplicate]
    · cases failed

end Failures

section Refinement

variable (sound : r.Sound)

include sound

theorem Sound.declareScope_catalogue (scope : Scope) :
    r.catalogue.declareScope scope = shown (r.declareScope scope) := by
  cases found : r.entry? scope.name with
  | some entry =>
    simp only [Catalogue.declareScope, catalogue, found, declareScope_of_some found, shown]
  | none =>
    simp only [Catalogue.declareScope, catalogue, found, sound.declareScope_of_none found, shown]
    refine Prod.ext (Catalogue.ext (funext fun name => ?_)) rfl
    exact (sound.entry?_addScope found name).symm

theorem Sound.declareMember_catalogue (name : QualifiedName) (member : Member) :
    r.catalogue.declareMember name member = shown (r.declareMember name member) := by
  cases found : r.entry? name with
  | none =>
    simp only [Catalogue.declareMember, catalogue, found, declareMember_of_none found, shown]
  | some entry =>
    obtain ⟨node, reached, declared⟩ := declareMember_of_some found member
    simp only [Catalogue.declareMember, catalogue, found, declared]
    split
    · rfl
    · next fresh =>
      refine Prod.ext (Catalogue.ext (funext fun asked => ?_)) rfl
      exact (sound.entry?_appendMember reached found fresh asked).symm

theorem Sound.declareMembers_catalogue (name : QualifiedName) (members : List Member) :
    r.catalogue.declareMembers name members = shown (r.declareMembers name members) := by
  induction members generalizing r with
  | nil => rfl
  | cons member rest ih =>
    have next := sound.declareMember name member
    rw [Catalogue.declareMembers, sound.declareMember_catalogue, declareMembers]
    rcases declared : r.declareMember name member with ⟨r', answer⟩
    rw [declared] at next
    cases answer with
    | error e => rfl
    | ok => exact ih next

theorem Sound.declare_catalogue (scope : Scope) (members : List Member) :
    r.catalogue.declare scope members = shown (r.declare scope members) := by
  have next := sound.declareScope scope
  rw [Catalogue.declare, sound.declareScope_catalogue, declare]
  rcases declared : r.declareScope scope with ⟨r', answer⟩
  rw [declared] at next
  cases answer with
  | error e => rfl
  | ok => exact next.declareMembers_catalogue scope.name members

/-- **One call does to the registry what it does to the map.** -/
theorem Sound.perform_catalogue (call : Declaration) :
    r.catalogue.perform call = shown (r.perform call) := by
  cases call with
  | scope scope => exact sound.declareScope_catalogue scope
  | whole scope members => exact sound.declare_catalogue scope members
  | member name member => exact sound.declareMember_catalogue name member
  | imports importer imported =>
    refine Prod.ext (Catalogue.ext (funext fun name => ?_)) rfl
    exact (sound.entry?_declareImport importer imported name).symm

end Refinement

section Runs

theorem Reachable.perform (h : r.Reachable) (call : Declaration) :
    (r.perform call).1.Reachable := by
  cases call with
  | scope scope => exact h.scope scope
  | whole scope members => exact h.declare scope members
  | member name member => exact h.member name member
  | imports importer imported => exact h.declareImport importer imported

theorem Reachable.performAll (h : r.Reachable) (calls : List Declaration) :
    (r.performAll calls).1.Reachable := by
  induction calls generalizing r with
  | nil => exact h
  | cons call rest ih => exact ih (h.perform call)

/-- A sequence of calls does to the registry what it does to the map. -/
theorem Reachable.performAll_catalogue (h : r.Reachable) (calls : List Declaration) :
    r.catalogue.performAll calls = shown (r.performAll calls) := by
  induction calls generalizing r with
  | nil => rfl
  | cons call rest ih =>
    have later := ih (h.perform call)
    rw [Catalogue.performAll_cons, h.sound.perform_catalogue, performAll_cons]
    dsimp only [shown]
    rw [later]
    rfl

theorem performAll_empty_catalogue (calls : List Declaration) :
    Catalogue.empty.performAll calls = shown (Registry.empty.performAll calls) := by
  rw [← catalogue_empty, Reachable.empty.performAll_catalogue]

/-- **A registry answers every sequence of calls as the map does.** Its calls answer as those on the
map do and leave the same scope at every name, of which finitely many have one. A scope is found at
its own name and has no two fields of one name. A scope or a member that cannot be declared changes
nothing at all, not even the namespaces. -/
theorem performAll_refines_catalogue (calls : List Declaration) :
    let r := (Registry.empty.performAll calls).1
    (Registry.empty.performAll calls).2 = (Catalogue.empty.performAll calls).2 ∧
      (∀ name, r.entry? name = Catalogue.entry? (Catalogue.empty.performAll calls).1 name) ∧
      (∃ names : List QualifiedName, ∀ name, r.entry? name ≠ none ↔ name ∈ names) ∧
      (∀ name entry, r.entry? name = some entry →
        entry.scope.name = name ∧ entry.fieldNames.Nodup) ∧
      (∀ scope e, (r.declareScope scope).2 = .error e → (r.declareScope scope).1 = r) ∧
      ∀ name member e, (r.declareMember name member).2 = .error e →
        (r.declareMember name member).1 = r := by
  intro r
  have sound : r.Sound := (Reachable.empty.performAll calls).sound
  have refined := performAll_empty_catalogue calls
  refine ⟨by rw [refined]; rfl, fun name => by rw [refined]; rfl, ?_, fun name entry found => ?_,
    fun scope e => sound.fst_declareScope_of_error, fun name member e => fst_declareMember_of_error⟩
  · refine ⟨r.entries.map fun e => e.2.scope.name, fun name => ?_⟩
    rw [← Option.isSome_iff_ne_none, sound.entry?_eq, Option.isSome_map, List.find?_isSome]
    simp
  · exact ⟨sound.name_of_entry? found, sound.nodup_fieldNames_of_entry? found⟩

section Samples

/-- The name of a type with limits. -/
def limitsName : QualifiedName := ⟨"Limits", ["acme"]⟩

/-- The type is declared with two fields of one name, and then once more. -/
def limitsTwice : List Declaration :=
  [.whole ⟨limitsName, .class, []⟩
    [.constant "MAX" (.primitive .int), .constant "MAX" .string, .constant "MIN" .string],
    .scope ⟨limitsName, .record, []⟩]

end Samples

/-- The first of the two fields stays, and the second declaration of the type would change nothing
if it were made again. -/
theorem performAll_refines_catalogue_limitsTwice :
    let r := (Registry.empty.performAll limitsTwice).1
    (Catalogue.empty.performAll limitsTwice).2 =
        [.error (.duplicateField limitsName "MAX"), .error (.duplicateScope limitsName)] ∧
      r.entry? limitsName =
        some ⟨⟨limitsName, .class, []⟩, [.constant "MAX" (.primitive .int)]⟩ ∧
      (r.declareScope ⟨limitsName, .record, []⟩).1 = r := by
  obtain ⟨answers, entries, -, -, kept, -⟩ := performAll_refines_catalogue limitsTwice
  exact ⟨answers ▸ rfl, (entries limitsName).trans rfl, kept _ (.duplicateScope limitsName) rfl⟩

end Runs

end Registry

end DefaultArgs
