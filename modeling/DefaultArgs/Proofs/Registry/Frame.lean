import DefaultArgs.Proofs.Registry.Shadowing

/-!
# What a new scope changes for other names

A declared scope has one simple name, and relative names that end otherwise stand for what they
stood for. Their lookup can change all the same: declaring a scope creates the namespaces around it,
and a lookup gives nothing in a namespace that does not exist, whatever the namespaces around it
offer. So the answers change exactly in the new namespaces, and there from nothing to what the name
stood for all along.

## Main results

* `standsFor_declareScope_iff`: the scope that an unrelated name stands for stays the same
* `scopeFrom?_declareScope_eq_iff`: when the lookup of an unrelated name stays the same
* `scopeFrom?_changes_in_newNamespace`: it does not always
-/

namespace DefaultArgs.Registry

variable {r next : Registry} {scope : Scope} {name : QualifiedName} {home : List String}
  {text : String} {entry : RegisteredScope}

section Declaring

/-- A declaration that succeeds declares a new name. -/
theorem Sound.eq_addScope (sound : r.Sound) (declared : r.declareScope scope = (next, .ok ())) :
    r.entry? scope.name = none ∧ next = r.addScope scope := by
  cases found : r.entry? scope.name with
  | some entry =>
    rw [declareScope_of_some found] at declared
    cases declared
  | none =>
    rw [sound.declareScope_of_none found] at declared
    cases declared
    exact ⟨rfl, rfl⟩

variable (sound : r.Sound) (declared : r.declareScope scope = (next, .ok ()))

include sound declared

/-- The new namespaces are those around the scope. -/
theorem Sound.known_declareScope_iff :
    next.namespaces.Known home ↔ r.namespaces.Known home ∨ home <+: scope.name.enclosing := by
  obtain ⟨-, rfl⟩ := sound.eq_addScope declared
  exact (sound.tree.extended_ensureNode scope.name.enclosing).known_iff

/-- **The scope that an unrelated name stands for stays the same.** -/
theorem Sound.standsFor_declareScope_iff (unrelated : scope.name.name ≠ name.name) :
    next.StandsFor home name entry ↔ r.StandsFor home name entry := by
  obtain ⟨vacant, rfl⟩ := sound.eq_addScope declared
  have extended := sound.tree.extended_ensureNode scope.name.enclosing
  refine StandsFor.congr (fun p => ?_) fun _ _ => extended.imports_iff sound.tree
  have other : name.within p ≠ scope.name := fun same =>
    unrelated (congrArg QualifiedName.name same).symm
  rw [sound.entry?_addScope vacant, if_neg other]

end Declaring

/-- **When the lookup of an unrelated name stays the same.** After a scope was declared, an
unrelated name is found in the namespaces that were there and in those around the scope, and it
gives what it stood for before. So the answer changes exactly in a namespace that was not there,
that is around the scope, and in which the name stands for something. -/
theorem scopeFrom?_declareScope_eq_iff (h : r.Reachable)
    (declared : r.declareScope scope = (next, .ok ()))
    (spelled : QualifiedName.pathOf text = name.segments)
    (unrelated : scope.name.name ≠ name.name) :
    (∀ found, next.symbolTable.scopeFrom? home text = some found ↔
        (r.namespaces.Known home ∨ home <+: scope.name.enclosing) ∧
          ∃ entry, r.StandsFor home name entry ∧ entry.scope = found) ∧
      (next.symbolTable.scopeFrom? home text = r.symbolTable.scopeFrom? home text ↔
        r.namespaces.Known home ∨ ¬home <+: scope.name.enclosing ∨
          ∀ entry, ¬r.StandsFor home name entry) := by
  have after : ∀ found, next.scopeFrom? home text = some found ↔
      (r.namespaces.Known home ∨ home <+: scope.name.enclosing) ∧
        ∃ entry, r.StandsFor home name entry ∧ entry.scope = found := by
    intro found
    have sound : next.Sound := by
      have reached := (h.scope scope).sound
      rwa [declared] at reached
    rw [sound.scopeFrom?_eq_some_iff spelled, h.sound.known_declareScope_iff declared]
    simp only [h.sound.standsFor_declareScope_iff declared unrelated]
  have before : ∀ found, r.scopeFrom? home text = some found ↔
      r.namespaces.Known home ∧ ∃ entry, r.StandsFor home name entry ∧ entry.scope = found :=
    fun found => h.sound.scopeFrom?_eq_some_iff spelled
  refine ⟨after, ?_⟩
  change next.scopeFrom? home text = r.scopeFrom? home text ↔ _
  constructor
  · intro same
    by_contra changed
    obtain ⟨new, around, entry, stands⟩ : ¬r.namespaces.Known home ∧
        home <+: scope.name.enclosing ∧ ∃ entry, r.StandsFor home name entry := by
      simpa using changed
    -- The new namespace gives what the name stands for, and before it gave nothing.
    have given := (after entry.scope).2 ⟨.inr around, entry, stands, rfl⟩
    exact new ((before entry.scope).1 (same ▸ given)).1
  · intro unchanged
    refine Option.ext fun found => ?_
    rw [after, before]
    refine and_congr_left fun ⟨entry, stands, _⟩ => or_iff_left_of_imp fun around => ?_
    rcases unchanged with known | away | nothing
    · exact known
    · exact absurd around away
    · exact absurd stands (nothing entry)

section Samples

/-- A type of the outer one of two namespaces. -/
def outerShared : Scope :=
  ⟨⟨"Shared", ["com"]⟩, .class, []⟩

/-- A type of the inner one of two namespaces. -/
def innerOther : Scope :=
  ⟨⟨"Other", ["com", "acme"]⟩, .class, []⟩

/-- The type of the outer namespace is declared, and the inner namespace does not exist. -/
def onlyShared : Registry :=
  (Registry.empty.performAll [.scope outerShared]).1

/-- Then the type of the inner namespace is declared, too. -/
def sharedAndOther : Registry :=
  (Registry.empty.performAll [.scope outerShared, .scope innerOther]).1

end Samples

/-- The type of the outer namespace is what its name stands for in the inner one, and it is found
there as soon as another type is. -/
theorem scopeFrom?_declareScope_innerOther :
    onlyShared.declareScope innerOther = (sharedAndOther, .ok ()) ∧
      onlyShared.StandsFor ["com", "acme"] (.global "Shared") ⟨outerShared, []⟩ ∧
      sharedAndOther.symbolTable.scopeFrom? ["com", "acme"] "Shared" = some outerShared := by
  have declared : onlyShared.declareScope innerOther = (sharedAndOther, .ok ()) := by decide
  have spelled : QualifiedName.pathOf "Shared" = (QualifiedName.global "Shared").segments := by
    decide
  have stands : onlyShared.StandsFor ["com", "acme"] (.global "Shared") ⟨outerShared, []⟩ := by
    refine .around ⟨["com"], by decide, by decide, fun p before longer => ?_⟩
    rw [before.eq_of_length_le longer]
    decide
  refine ⟨declared, stands, ?_⟩
  exact ((scopeFrom?_declareScope_eq_iff (Reachable.empty.performAll [.scope outerShared])
    declared spelled (by decide)).1 outerShared).2 ⟨.inr (by decide), _, stands, rfl⟩

/-- **The lookup of an unrelated name does not always stay the same.** Before the inner namespace
exists, the same lookup gives nothing in it. -/
theorem scopeFrom?_changes_in_newNamespace :
    onlyShared.Reachable ∧ onlyShared.declareScope innerOther = (sharedAndOther, .ok ()) ∧
      QualifiedName.pathOf "Shared" = ["Shared"] ∧ innerOther.name.name ≠ "Shared" ∧
      onlyShared.symbolTable.scopeFrom? ["com", "acme"] "Shared" = none ∧
      sharedAndOther.symbolTable.scopeFrom? ["com", "acme"] "Shared" = some outerShared :=
  ⟨Reachable.empty.performAll [.scope outerShared], by decide, by decide, by decide, by decide,
    by decide⟩

end DefaultArgs.Registry
