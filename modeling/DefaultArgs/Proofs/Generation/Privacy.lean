import DefaultArgs.Companion
import DefaultArgs.Proofs.Generation.Admission
import DefaultArgs.Proofs.Registry.Order
import DefaultArgs.Reference

/-!
# Private members do not show in other targets

A run asks the symbol table in two places. The preparation of a type that cannot be annotated scans
a companion, where private members do not count. The completion of a declared callable resolves its
references in the scope of its owner. So a private member can show in the callables of its own
scope, and in nothing else that is generated or reported.

## Main definitions

* `SymbolTable.AgreeOutside hidden table table'`: the tables differ at most in the private members
  of the scope `hidden`
* `Registry.AlikeOutside hidden r r'`: the registries differ at most in the private members of the
  scope `hidden`
* `Input.DeclaredIn scope x`: the input is a callable that the scope declares

## Main results

* `AgreeOutside.visibleMembers_eq`: from another scope the same members are visible
* `AgreeOutside.resolve_eq`: references in other scopes resolve alike
* `AgreeOutside.companionDefaults_eq`, `AgreeOutside.fill_eq`: companions offer the same defaults
* `AlikeOutside.symbolTable`: their symbol tables agree outside this scope
* `Sound.alikeOutside_declareMember`: declaring one private member
* `Reachable.alikeOutside_declareMembers`: declaring several of them
* `Generator.prepare_eq_of_agree`: preparation does not depend on private members
* `Generator.outcomeAmong_eq_of_agree`: neither do the outcomes of inputs from elsewhere
* `Registry.privateMembers_invisible`: private members are seen in their own scope only
-/

namespace DefaultArgs

/-! ## References and companions

Private members are dropped before anything else is done with the members of another scope: before a
member is looked for, before one of several methods is taken, before an error is chosen, and before
usable names are listed and a spelling is suggested. They are dropped as well when a companion is
scanned. So two symbol tables that differ only in the private members of one scope resolve every
reference alike that stands in another scope, and find the same companion defaults.
-/

namespace SymbolTable

/-- **Two symbol tables differ at most in the private members of one scope.** A single member of
this scope is left open, since only references in the scope itself ask for one. -/
structure AgreeOutside (hidden : QualifiedName) (table table' : SymbolTable) : Prop where
  scopeAt?_eq : table.scopeAt? = table'.scopeAt?
  scopeFrom?_eq : table.scopeFrom? = table'.scopeFrom?
  isAssignable_eq : table.isAssignable = table'.isAssignable
  membersOf_eq : ∀ scope, scope ≠ hidden → table.membersOf scope = table'.membersOf scope
  notPrivate_eq : (table.membersOf hidden).filter (!·.isPrivate) =
    (table'.membersOf hidden).filter (!·.isPrivate)
  memberOf?_eq : ∀ owner, owner ≠ hidden → table.memberOf? owner = table'.memberOf? owner

namespace AgreeOutside

variable {table table' : SymbolTable} {hidden owner : QualifiedName}
  (agree : table.AgreeOutside hidden table')

include agree

section Members

/-- Every scope has the same members that are not private. -/
theorem filter_notPrivate_eq (scope : QualifiedName) :
    (table.membersOf scope).filter (!·.isPrivate) =
      (table'.membersOf scope).filter (!·.isPrivate) := by
  by_cases here : scope = hidden
  · rw [here]
    exact agree.notPrivate_eq
  · rw [agree.membersOf_eq scope here]

/-- **From another scope the same members are visible.** -/
theorem visibleMembers_eq (outside : owner ≠ hidden) (scope : QualifiedName) :
    table.visibleMembers owner scope = table'.visibleMembers owner scope := by
  unfold visibleMembers
  by_cases own : scope = owner
  · have other : scope ≠ hidden := fun here => outside (own.symm.trans here)
    rw [agree.membersOf_eq scope other]
  · simpa only [own, decide_false, Bool.false_or] using agree.filter_notPrivate_eq scope

end Members

section References

theorem defect?_eq : table.defect? = table'.defect? := by
  funext s m
  unfold defect?
  rw [agree.isAssignable_eq]

theorem passes_eq : table.passes = table'.passes := by
  funext s m
  unfold passes
  rw [agree.defect?_eq]

theorem verdict?_eq : table.verdict? = table'.verdict? := by
  funext s members
  unfold verdict?
  rw [agree.defect?_eq, agree.passes_eq]

theorem targetScope_eq : table.targetScope = table'.targetScope := by
  funext owner text reference
  unfold targetScope
  rw [agree.scopeAt?_eq, agree.scopeFrom?_eq]

variable (outside : owner ≠ hidden)

include outside

theorem ownMemberPasses_eq (s : Sought) (reference : Reference) :
    table.ownMemberPasses s owner reference = table'.ownMemberPasses s owner reference := by
  unfold ownMemberPasses
  rw [agree.memberOf?_eq owner outside, agree.passes_eq]

/-- **References in other scopes resolve alike**, to the same expressions and with the same
errors. -/
theorem resolve_eq (kind : ReferenceKind) (expected : ValueType) (text : String) :
    table.resolve kind expected owner text = table'.resolve kind expected owner text := by
  unfold resolve
  simp only [agree.targetScope_eq, agree.ownMemberPasses_eq outside,
    agree.visibleMembers_eq outside, agree.verdict?_eq]

end References

section Companions

/-- **Companions offer the same defaults**, the hidden scope included. -/
theorem companionDefaults_eq (companion : QualifiedName) :
    table.companionDefaults companion = table'.companionDefaults companion := by
  unfold companionDefaults
  rw [agree.filter_notPrivate_eq companion]

theorem fillParameter_eq : table.fillParameter = table'.fillParameter := by
  funext ds target p
  unfold fillParameter
  rw [agree.isAssignable_eq]

/-- Parameters are filled alike, and the same is reported. -/
theorem fill_eq : table.fill = table'.fill := by
  funext ds c warnUnmatched
  unfold fill
  rw [agree.fillParameter_eq]

end Companions

end AgreeOutside

end SymbolTable

/-! ## Registries that differ in private members

Declaring a private member changes the members of one scope, and only the private ones among them.
The scopes, the namespaces and the imports stay as they are, and so do the members of all other
scopes. Registries that differ in this way only have symbol tables that agree outside the scope.
-/

namespace Registry

/-- **Two registries differ at most in the private members of one scope.** -/
structure AlikeOutside (hidden : QualifiedName) (r r' : Registry) : Prop where
  outline : r.SameOutline r'
  membersOf_eq : ∀ name, name ≠ hidden → r.membersOf name = r'.membersOf name
  notPrivate_eq : (r.membersOf hidden).filter (!·.isPrivate) =
    (r'.membersOf hidden).filter (!·.isPrivate)

variable {r r' r'' : Registry} {hidden name : QualifiedName} {member : Member}
  {members : List Member}

namespace AlikeOutside

theorem refl (hidden : QualifiedName) (r : Registry) : r.AlikeOutside hidden r :=
  ⟨.refl r, fun _ _ => rfl, rfl⟩

variable (alike : r.AlikeOutside hidden r')

include alike

theorem symm : r'.AlikeOutside hidden r :=
  ⟨alike.outline.symm, fun name other => (alike.membersOf_eq name other).symm,
    alike.notPrivate_eq.symm⟩

theorem trans (alike' : r'.AlikeOutside hidden r'') : r.AlikeOutside hidden r'' :=
  ⟨alike.outline.trans alike'.outline,
    fun name other => (alike.membersOf_eq name other).trans (alike'.membersOf_eq name other),
    alike.notPrivate_eq.trans alike'.notPrivate_eq⟩

/-- **Their symbol tables agree outside the scope.** -/
theorem symbolTable (sound : r.Sound) (sound' : r'.Sound) :
    r.symbolTable.AgreeOutside hidden r'.symbolTable where
  scopeAt?_eq := alike.outline.scopeAt?_eq
  scopeFrom?_eq := alike.outline.scopeFrom?_eq sound sound'
  isAssignable_eq := alike.outline.isAssignable_eq
  membersOf_eq := alike.membersOf_eq
  notPrivate_eq := alike.notPrivate_eq
  memberOf?_eq owner outside := by
    show SymbolTable.firstNamed? (r.membersOf owner) = SymbolTable.firstNamed? (r'.membersOf owner)
    rw [alike.membersOf_eq owner outside]

end AlikeOutside

section Declaring

/-- **Declaring a private member** changes at most the private members of its scope, whether it
succeeds or not. -/
theorem Sound.alikeOutside_declareMember (sound : r.Sound) (hides : member.isPrivate) :
    r.AlikeOutside hidden (r.declareMember hidden member).1 := by
  cases found : r.entry? hidden with
  | none =>
    rw [declareMember_of_none found]
    exact .refl hidden r
  | some entry =>
    obtain ⟨node, reached, declared⟩ := declareMember_of_some found member
    rw [declared]
    split
    · exact .refl hidden r
    · next fresh =>
      have entries := sound.entry?_appendMember reached found fresh
      constructor
      case outline =>
        refine ⟨fun name => ?_, fun _ => .rfl, fun _ _ => .rfl⟩
        rw [entries]
        split
        · next here =>
          rw [here, found]
          rfl
        · rfl
      case membersOf_eq =>
        intro name other
        rw [membersOf, membersOf, entries, if_neg other]
      case notPrivate_eq =>
        have dropped : [member].filter (!·.isPrivate) = [] := by simp [hides]
        have before : r.membersOf hidden = entry.members := by rw [membersOf, found]
        have after : membersOf (r.appendMember node hidden.name member) hidden =
            entry.members ++ [member] := by
          rw [membersOf, entries, if_pos rfl]
          rfl
        rw [before, after, List.filter_append, dropped, List.append_nil]

/-- **Declaring private members** one after the other changes at most the private members of their
scope. -/
theorem Reachable.alikeOutside_declareMembers (h : r.Reachable)
    (hide : ∀ member ∈ members, member.isPrivate) :
    r.AlikeOutside hidden (r.declareMembers hidden members).1 := by
  induction members generalizing r with
  | nil => exact .refl hidden r
  | cons member rest ih =>
    obtain ⟨hides, hide⟩ := List.forall_mem_cons.1 hide
    have first : r.AlikeOutside hidden (r.declareMember hidden member).1 :=
      h.sound.alikeOutside_declareMember hides
    have next := h.member hidden member
    rw [Registry.declareMembers]
    split
    · next r' declared =>
      rw [declared] at first next
      exact first.trans (ih next hide)
    · exact first

end Declaring

end Registry

/-! ## Outcomes -/

/-- The input is a callable that the given scope declares. Types that cannot be annotated are
declared in no scope. -/
def Input.DeclaredIn (scope : QualifiedName) : Input → Prop
  | .declared c => c.owner = scope
  | .foreignType _ => False

instance (scope : QualifiedName) : DecidablePred (Input.DeclaredIn scope)
  | .declared c => inferInstanceAs (Decidable (c.owner = scope))
  | .foreignType _ => inferInstanceAs (Decidable False)

namespace Generator

variable {table table' : SymbolTable} {hidden owner : QualifiedName} {config : Config}
  {request : Request} {x : Input} {p : PreparedTarget} {c : SourcedCallable}

/-- Only declared callables are prepared with sources that are still to be resolved. -/
theorem exists_declared_of_sourced {g : Generator} (prepared : g.prepare x = .ok p)
    (sourced : p.parameters = .sourced) : ∃ c, x = .declared c ∧ p.callable.owner = c.owner := by
  cases x with
  | declared c =>
    obtain ⟨chosen, -⟩ := prepare_cases prepared
    obtain effective : p.callable = c.effective := List.mem_singleton.1 chosen
    exact ⟨c, rfl, congrArg (·.owner) effective⟩
  | foreignType e =>
    simp only [prepare, prepareForeignType] at prepared
    split at prepared
    · cases prepared
    · split at prepared
      · cases prepared
      · cases prepared
        cases sourced

section Agreement

variable (agree : table.AgreeOutside hidden table')

include agree

/-- **Preparation does not depend on private members.** -/
theorem prepare_eq_of_agree (config : Config) :
    prepare ⟨table, config⟩ = prepare ⟨table', config⟩ := by
  funext x
  cases x with
  | declared c => rfl
  | foreignType e =>
    simp only [prepare, prepareForeignType, agree.companionDefaults_eq, agree.fill_eq]

theorem builders_eq_of_agree (config : Config) :
    builders ⟨table, config⟩ = builders ⟨table', config⟩ := by
  have prepared := prepare_eq_of_agree agree config
  funext request
  unfold builders builder?
  rw [prepared]

theorem resolveDefault_eq_of_agree (outside : owner ≠ hidden) :
    resolveDefault ⟨table, config⟩ owner = resolveDefault ⟨table', config⟩ owner := by
  funext ty source
  simp only [resolveDefault, agree.resolve_eq outside]

theorem resolveParameter_eq_of_agree (outside : c.owner ≠ hidden) :
    resolveParameter ⟨table, config⟩ c = resolveParameter ⟨table', config⟩ c := by
  funext q
  unfold resolveParameter
  rw [resolveDefault_eq_of_agree agree outside]

/-- Parameters get the same defaults, unless they still have sources that stand in the hidden
scope. -/
theorem resolvedParameters_eq_of_agree
    (outside : p.parameters = .sourced → p.callable.owner ≠ hidden) :
    resolvedParameters ⟨table, config⟩ p = resolvedParameters ⟨table', config⟩ p := by
  unfold resolvedParameters
  split
  · rfl
  · next sourced => rw [resolveParameter_eq_of_agree agree (outside sourced)]

theorem complete_eq_of_agree (outside : p.parameters = .sourced → p.callable.owner ≠ hidden) :
    complete ⟨table, config⟩ p = complete ⟨table', config⟩ p := by
  unfold complete
  rw [resolvedParameters_eq_of_agree agree outside]
  rfl

/-- **The outcome of an input from elsewhere** does not depend on the private members of the hidden
scope. Builders are compared by their names, for which no table is asked. -/
theorem outcomeAmong_eq_of_agree (config : Config) (all : List NamedTarget)
    (elsewhere : ¬ x.DeclaredIn hidden) :
    outcomeAmong ⟨table, config⟩ all x = outcomeAmong ⟨table', config⟩ all x := by
  have same := congrFun (prepare_eq_of_agree agree config) x
  unfold outcomeAmong
  rw [same]
  cases prepared : prepare ⟨table', config⟩ x with
  | error outcome => rfl
  | ok p =>
    have outside : p.parameters = .sourced → p.callable.owner ≠ hidden := by
      intro sourced here
      obtain ⟨c, rfl, owner⟩ := exists_declared_of_sourced prepared sourced
      exact elsewhere (owner.symm.trans here)
    have completed : complete ⟨table, config⟩ p = complete ⟨table', config⟩ p :=
      complete_eq_of_agree agree outside
    simp only [settle, Except.bind]
    split
    · rfl
    · exact completed

end Agreement

end Generator

namespace Registry

/-- **Private members are invisible from outside.** Take two registries that differ at most in the
private members of one scope. References that stand in any other scope resolve alike, whether to an
expression or to an error with its suggestions. All companions offer the same defaults, this scope
included. And in every run, each type that cannot be annotated and each callable of another scope
has the same outcome. -/
theorem privateMembers_invisible {r r' : Registry} {hidden : QualifiedName} (h : r.Reachable)
    (h' : r'.Reachable) (alike : r.AlikeOutside hidden r') :
    (∀ owner, owner ≠ hidden → ∀ kind expected text,
      r.symbolTable.resolve kind expected owner text =
        r'.symbolTable.resolve kind expected owner text) ∧
    (∀ companion,
      r.symbolTable.companionDefaults companion = r'.symbolTable.companionDefaults companion) ∧
    ∀ config (request : Request) (i : Nat) x, request.inputs[i]? = some x →
      ¬ x.DeclaredIn hidden →
        (Generator.run ⟨r.symbolTable, config⟩ request).outcomes[i]? =
          (Generator.run ⟨r'.symbolTable, config⟩ request).outcomes[i]? := by
  have agree := alike.symbolTable h.sound h'.sound
  refine ⟨fun owner outside kind expected text => agree.resolve_eq outside kind expected text,
    agree.companionDefaults_eq, ?_⟩
  intro config request i x at_i elsewhere
  have builders := congrFun (Generator.builders_eq_of_agree agree config) request
  have outcome := Generator.outcomeAmong_eq_of_agree agree config
    (Generator.builders ⟨r'.symbolTable, config⟩ request) elsewhere
  rw [Generator.getElem?_outcomes_run, Generator.getElem?_outcomes_run, at_i, builders,
    Option.map_some, Option.map_some, outcome]

section Samples

/-- A registry whose only type has no members yet. -/
def bareServers : Registry :=
  (Registry.empty.declare ⟨serverName, .class, []⟩ []).1

/-- Another type of the same namespace. -/
def clientName : QualifiedName := ⟨"Client", ["acme"]⟩

/-- A constructor of the other type that refers to a constant of the first. -/
def clientRequest : Request :=
  ⟨[{ Callable.ofOwner clientName with
      ownerKind := .class
      parameters := [defaulted "port" (.primitive .int) (.field "Server.PORT")] }], []⟩

end Samples

/-- The private constant is found in its own type, and it does not show in the other one. -/
theorem privateMembers_invisible_serverPort :
    bareServers.Reachable ∧ Generator.serverRegistry.Reachable ∧
      bareServers.AlikeOutside serverName Generator.serverRegistry ∧
      bareServers.symbolTable.resolve .field (.primitive .int) serverName "PORT" ≠
        Generator.serverRegistry.symbolTable.resolve .field (.primitive .int) serverName "PORT" ∧
      bareServers.symbolTable.resolve .field (.primitive .int) clientName "Server.PORT" =
        Generator.serverRegistry.symbolTable.resolve .field (.primitive .int) clientName
          "Server.PORT" ∧
      (Generator.run ⟨bareServers.symbolTable, {}⟩ clientRequest).outcomes[0]? =
        (Generator.run ⟨Generator.serverRegistry.symbolTable, {}⟩ clientRequest).outcomes[0]? := by
  have h : bareServers.Reachable := Reachable.empty.declare _ _
  have h' : Generator.serverRegistry.Reachable := Reachable.empty.declare _ _
  have hide : ∀ member ∈ [(Member.constant "PORT" (.primitive .int)).withVisibility .private],
      member.isPrivate := by decide
  have alike : bareServers.AlikeOutside serverName Generator.serverRegistry :=
    h.alikeOutside_declareMembers hide
  obtain ⟨references, -, outcomes⟩ := privateMembers_invisible h h' alike
  refine ⟨h, h', alike, by decide, references clientName (by decide) _ _ _, ?_⟩
  exact outcomes {} clientRequest 0 _ rfl (by decide)

end Registry

end DefaultArgs
