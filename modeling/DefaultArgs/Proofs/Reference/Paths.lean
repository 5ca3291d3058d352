import DefaultArgs.Proofs.Reference.Reading

/-!
# A path refers to itself

A reference that resolves comes to the path of a member. It may have been found in the owner's own
scope, by an absolute name, in a namespace around the owner or through an import, and empty segments
of its text were dropped. None of this is left in the path: written out it is an absolute reference,
which leads to the same member wherever it stands. So the path that a reference resolves to, written
out, resolves to the same path.

Once the text of a reference is read and its scope is found, it resolves if and only if the scope
offers a member of its name.

## Main results

* `Reference.member_of_parse`: the member that a reference names has a name without full stops
* `SymbolTable.resolve_eq_ok_iff`: a reference resolves if a member of its name is offered, and only
  then
* `Registry.resolve_display_of_resolve`: a path, written out, refers to itself
-/

namespace DefaultArgs

theorem ReferenceKind.expression_injective (kind : ReferenceKind) :
    Function.Injective kind.expression := by
  intro path path' same
  cases kind <;> cases same <;> rfl

namespace QualifiedName

theorem child_injective {q q' : QualifiedName} {name name' : String}
    (same : q.child name = q'.child name') : q = q' ∧ name = name' := by
  have segments : q.segments = q'.segments := congrArg enclosing same
  refine ⟨?_, congrArg QualifiedName.name same⟩
  rw [← ofSegments_segments q, segments, ofSegments_segments]

/-- The dotted form of a member's path is that of its scope, a full stop and the member's name. -/
theorem display_child (q : QualifiedName) (name : String) :
    (q.child name).display = q.display ++ "." ++ name := by
  have inside : (q.child name).enclosing ≠ [] := by simp [child, segments]
  rw [display, if_neg inside, namespaceString, display_eq]
  rfl

end QualifiedName

/-- The member that a reference names has a name, and no full stop is in it. -/
theorem Reference.member_of_parse {text : String} {reference : Reference}
    (parsed : Reference.parse text = .ok reference) :
    reference.member ≠ "" ∧ '.' ∉ reference.member.toList := by
  cases Reference.parse_eq_iff.1 parsed with
  | bare named dotFree => exact ⟨named, dotFree⟩
  | leading named dotFree => exact ⟨named, dotFree⟩
  | qualified _ named dotFree => exact ⟨named, dotFree⟩

namespace SymbolTable

variable {table : SymbolTable} {owner scope : QualifiedName} {kind : ReferenceKind}
  {expected : ValueType} {text : String} {reference : Reference} {e : Expression}
  (parsed : Reference.parse text = .ok reference)
  (located : table.targetScope owner text reference = .ok scope)

include parsed located

/-- A reference comes to a path in the scope that was found, with the member's name as written. -/
theorem eq_expression_of_resolve (resolved : table.resolve kind expected owner text = .ok e) :
    e = kind.expression (scope.child reference.member) := by
  rw [resolve_eq parsed located] at resolved
  dsimp only at resolved
  split at resolved
  · exact (Except.ok.inj resolved).symm
  · split at resolved
    · exact (Except.ok.inj resolved).symm
    · cases resolved
    · cases resolved

/-- **A reference resolves if its scope offers a member of its name**, and only then. A member that
is offered has the path of its scope, so it is in the same scope. -/
theorem resolve_eq_ok_iff (first : table.FindsFirst) (unique : table.UniqueFields) :
    table.resolve kind expected owner text = .ok e ↔
      e = kind.expression (scope.child reference.member) ∧
        ∃ m, m.name = reference.member ∧ table.Offers owner expected kind scope m := by
  constructor
  · intro resolved
    have path := eq_expression_of_resolve parsed located resolved
    refine ⟨path, ?_⟩
    obtain ⟨home, m, offers, path'⟩ := exists_offers_of_resolve first resolved
    rw [path] at path'
    obtain ⟨rfl, name⟩ := QualifiedName.child_injective (kind.expression_injective path')
    exact ⟨m, name.symm, offers⟩
  · rintro ⟨rfl, m, name, offers⟩
    have verdict := verdict?_of_offers unique offers text scope.name
    rw [name] at verdict
    rw [resolve_eq parsed located]
    dsimp only
    split
    · rfl
    · rw [verdict]

end SymbolTable

namespace Registry

variable {r : Registry} {owner : QualifiedName} {kind : ReferenceKind} {expected : ValueType}
  {text : String} {e : Expression}

/-- **A path refers to itself.** If all declared scopes have names that their dotted forms spell,
then a reference that resolves comes to a path whose dotted form, as a reference of the same kind,
for the same type and in the same scope, resolves to the same. -/
theorem resolve_display_of_resolve (h : r.Reachable)
    (spellable : ∀ entry ∈ r.entries, entry.2.scope.name.IsSpellable)
    (resolved : r.symbolTable.resolve kind expected owner text = .ok e) :
    ∃ path, e = kind.expression path ∧
      r.symbolTable.resolve kind expected owner path.display = .ok e := by
  obtain ⟨reference, scope, parsed, located⟩ := SymbolTable.exists_targetScope_of_resolve resolved
  obtain ⟨path, m, name, offers⟩ := (SymbolTable.resolve_eq_ok_iff parsed located
    r.findsFirst_symbolTable h.sound.uniqueFields).1 resolved
  refine ⟨scope.child reference.member, path, ?_⟩
  obtain ⟨entry, declared, -⟩ := mem_membersOf_iff.1 offers.member
  obtain ⟨named, node, stored⟩ := h.sound.entry?_eq_some_iff.1 declared
  have spelled : scope.IsSpellable := by
    rw [← named]
    exact spellable _ stored
  obtain ⟨nonempty, dotFree⟩ := Reference.member_of_parse parsed
  rw [← name] at nonempty dotFree
  rw [QualifiedName.display_child, path, ← name]
  exact h.sound.resolve_of_offers spelled nonempty dotFree offers

section Samples

/-- The type that refers to a limit. -/
def workerName : QualifiedName := ⟨"Worker", ["acme"]⟩

/-- A registry with a limit in another namespace, of which the namespace of the worker imports a
part. -/
def importedTools : Registry :=
  (((Registry.empty.declare ⟨workerName, .class, []⟩ []).1.declare
    ⟨⟨"Limits", ["lib", "tools"]⟩, .class, []⟩ [.constant "MAX" (.primitive .int)]).1).declareImport
      ["acme"] ["lib"]

end Samples

/-- A limit is found through an import, with an empty segment in its name; its path leads to it
without either. -/
theorem resolve_display_of_resolve_importedTools :
    (∀ entry ∈ importedTools.entries, entry.2.scope.name.IsSpellable) ∧
      importedTools.symbolTable.resolve .field (.primitive .long) workerName "tools..Limits.MAX" =
        .ok (.field ⟨"MAX", ["lib", "tools", "Limits"]⟩) ∧
      importedTools.symbolTable.resolve .field (.primitive .long) workerName
        "lib.tools.Limits.MAX" = .ok (.field ⟨"MAX", ["lib", "tools", "Limits"]⟩) := by
  have reachable : importedTools.Reachable :=
    ((Reachable.empty.declare _ _).declare _ _).declareImport _ _
  have spellable : ∀ entry ∈ importedTools.entries, entry.2.scope.name.IsSpellable := by decide
  have resolved : importedTools.symbolTable.resolve .field (.primitive .long) workerName
      "tools..Limits.MAX" = .ok (.field ⟨"MAX", ["lib", "tools", "Limits"]⟩) := by decide
  obtain ⟨path, same, again⟩ := resolve_display_of_resolve reachable spellable resolved
  cases same
  exact ⟨spellable, resolved, again⟩

end Registry

end DefaultArgs
