import DefaultArgs.Companion
import DefaultArgs.Proofs.Reference.Completeness

/-!
# Companion defaults and references agree

A default that is found by its name could as well have been declared: the companion's name, a full
stop and the member's name make a reference that resolves to the same expression, in a target of any
owner. Finding a default and resolving a reference are separate ways with checks of their own. They
agree because a companion contributes only members that can be referred to from everywhere, and
because a contribution is inserted only where its value fits.

## Main results

* `Member.name_ne_of_toDefault?`: a member that serves as a default has a name
* `Registry.resolve_of_fill`: what fills a parameter is what a reference to its member resolves to
-/

namespace DefaultArgs

/-- A member that serves as a default has a name. -/
theorem Member.name_ne_of_toDefault? {companion : QualifiedName} {m : Member} {d : CompanionDefault}
    (served : m.toDefault? companion = some d) : m.name ≠ "" := by
  intro nameless
  have stems : fieldStem? "" = none ∧ factoryStem? "" = none := by decide
  simp [toDefault?, conventional?, nameless, stems] at served

theorem Member.memberName_of_toDefault? {companion : QualifiedName} {m : Member}
    {d : CompanionDefault} (served : m.toDefault? companion = some d) : d.memberName = m.name := by
  obtain ⟨_, -, rfl⟩ := Option.map_eq_some_iff.1 served
  rfl

namespace Registry

variable {r : Registry} {companion : QualifiedName}

/-- **Companion defaults and references agree.** Whatever expression fills a parameter of a
callable, it is the expression of a companion default for the key of the parameter. A reference to
the member by the companion's name, of the default's kind and for the type of the parameter,
resolves to this expression in a target of any owner. -/
theorem resolve_of_fill (h : r.Reachable) (spellable : companion.IsSpellable)
    (dotFree : ∀ m ∈ r.membersOf companion, '.' ∉ m.name.toList) {c : SourcedCallable}
    {warnUnmatched : Bool} {k : Nat} {q : ResolvedParameter} {e : Expression}
    (filled : (r.symbolTable.fill (r.symbolTable.companionDefaults companion) c
      warnUnmatched).1[k]? = some q) (given : q.default? = some e) :
    ∃ p d, c.parameters[k]? = some p ∧
      (r.symbolTable.companionDefaults companion).get? (defaultKey p.name) = some d ∧
      d.expression = e ∧
      ∀ owner, r.symbolTable.resolve d.kind p.valueType owner
        (companion.display ++ "." ++ d.memberName) = .ok d.expression := by
  simp only [SymbolTable.fill, List.map_map, List.getElem?_map] at filled
  obtain ⟨p, at_k, rfl⟩ := Option.map_eq_some_iff.1 filled
  obtain ⟨d, bound, assignable, expression⟩ := SymbolTable.exists_get?_of_fillParameter given
  refine ⟨p, d, at_k, bound, expression, fun owner => ?_⟩
  obtain ⟨m, served, offers⟩ := exists_offers_of_get? bound assignable
  have named : m.name ≠ "" := Member.name_ne_of_toDefault? served
  have resolved := h.sound.resolve_of_offers spellable named (dotFree m (offers owner).member)
    (offers owner)
  obtain ⟨-, path, -⟩ := Member.usable_of_toDefault? served
  rw [path, Member.memberName_of_toDefault? served]
  exact resolved

section Samples

/-- The scope that holds the defaults of a pool. -/
def poolDefaultsName : QualifiedName := ⟨"PoolDefaults", ["acme"]⟩

/-- A registry whose only type has a default port, beside a method of the same name that takes an
argument. -/
def poolRegistry : Registry :=
  (Registry.empty.declare ⟨poolDefaultsName, .class, []⟩
    [.staticMethod "defaultPort" 1 .string, .staticMethod "defaultPort" 0 (.primitive .int)]).1

/-- A constructor that takes a port. -/
def poolConstructor : SourcedCallable :=
  { Callable.ofOwner ⟨"Pool", ["acme"]⟩ with
    parameters := [⟨⟨"port", .primitive .long⟩, none, .unknown⟩] }

end Samples

/-- The default port fills the parameter, and a reference from any type resolves to it. -/
theorem resolve_of_fill_poolPort :
    poolDefaultsName.IsSpellable ∧
      (∀ m ∈ poolRegistry.membersOf poolDefaultsName, '.' ∉ m.name.toList) ∧
      ∀ owner, poolRegistry.symbolTable.resolve .factory (.primitive .long) owner
        "acme.PoolDefaults.defaultPort" =
          .ok (.factory (poolDefaultsName.child "defaultPort")) := by
  have reachable : poolRegistry.Reachable := Reachable.empty.declare _ _
  have spellable : poolDefaultsName.IsSpellable := by decide
  have dotFree : ∀ m ∈ poolRegistry.membersOf poolDefaultsName, '.' ∉ m.name.toList := by decide
  obtain ⟨p, d, at_0, bound, -, resolved⟩ :=
    @resolve_of_fill _ _ reachable spellable dotFree poolConstructor true 0 _ _ rfl rfl
  cases at_0
  cases bound
  exact ⟨spellable, dotFree, resolved⟩

end Registry

end DefaultArgs
