import DefaultArgs.Proofs.Reference.Judgment
import DefaultArgs.Proofs.Reference.Reading

/-!
# References resolve by scanning a scope

Resolving a reference comes to this: the text is read, the scope is found, and the visible members
of the scope are scanned for one that passes every check. A reference without qualifier first tries
a single member of its own scope. This saves the scan where it succeeds and decides nothing: the
first member of a name is found by the scan as well, and if it is of the other kind or fails a
check, the scan takes over.

## Main definitions

* `SymbolTable.Locates table owner qualifier scope`: the scope that a qualifier means
* `SymbolTable.Resolves table kind expected owner text result`: what a reference comes to
* `SymbolTable.resolveByScan table`: the resolution without the shortcut

## Main results

* `resolveByScan_eq_iff`: the scan finds what a reference comes to
* `judges_of_ownMemberPasses`: the shortcut succeeds only where the scan does
* `shortcut_neutral`: the shortcut changes no resolution
-/

namespace DefaultArgs.SymbolTable

variable (table : SymbolTable)

section Relations

/-- **The scope that a qualifier means.** A reference without one stays in the scope of its owner.
A qualifier is an absolute name, and only if it is none, a name seen from the owner's namespace. -/
inductive Locates (owner : QualifiedName) : Option String → QualifiedName → Prop
  | own : Locates owner none owner
  | absolute {qualifier : String} {scope : Scope}
      (found : table.scopeAt? qualifier = some scope) : Locates owner (some qualifier) scope.name
  | relative {qualifier : String} {scope : Scope} (absent : table.scopeAt? qualifier = none)
      (found : table.scopeFrom? owner.enclosing qualifier = some scope) :
      Locates owner (some qualifier) scope.name

/-- **What a reference comes to.** A text that cannot be read and a qualifier that means no scope
are errors. Otherwise the visible members of the scope decide. -/
inductive Resolves (kind : ReferenceKind) (expected : ValueType) (owner : QualifiedName) :
    String → Except ReferenceError Expression → Prop
  | unread {text : String} {e : ReferenceError} (reads : Reference.Reads text (.error e)) :
      Resolves kind expected owner text (.error e)
  | unknownScope {text qualifier member : String}
      (reads : Reference.Reads text (.ok ⟨some qualifier, member⟩))
      (absolute : table.scopeAt? qualifier = none)
      (relative : table.scopeFrom? owner.enclosing qualifier = none) :
      Resolves kind expected owner text (.error (.unknownScope text qualifier owner.name))
  | judged {text member : String} {qualifier : Option String} {scope : QualifiedName}
      {result : Except ReferenceError Unit}
      (reads : Reference.Reads text (.ok ⟨qualifier, member⟩))
      (located : table.Locates owner qualifier scope)
      (judges : table.Judges ⟨⟨text, member, scope.name⟩, kind, expected⟩
        ((table.membersOf scope).filter fun m => scope = owner || !m.isPrivate) result) :
      Resolves kind expected owner text
        (result.map fun _ => kind.expression (scope.child member))

end Relations

/-- The expression that a reference stands for, without the shortcut for members of the owner. -/
def resolveByScan (kind : ReferenceKind) (expected : ValueType) (owner : QualifiedName)
    (text : String) : Except ReferenceError Expression := do
  let reference ← Reference.parse text
  let scope ← table.targetScope owner text reference
  let s : Sought := ⟨⟨text, reference.member, scope.name⟩, kind, expected⟩
  (table.judge s (table.visibleMembers owner scope)).map fun _ =>
    kind.expression (scope.child reference.member)

variable {table} {owner scope : QualifiedName} {kind : ReferenceKind} {expected : ValueType}
  {text : String} {s : Sought} {m : Member} {members : List Member} {e : ReferenceError}

section Scans

variable {reference : Reference}

theorem targetScope_eq_ok_iff : table.targetScope owner text reference = .ok scope ↔
    table.Locates owner reference.qualifier scope := by
  rcases reference with ⟨_ | qualifier, member⟩
  · constructor
    · intro located
      cases located
      exact .own
    · intro located
      cases located
      rfl
  · unfold targetScope
    dsimp only
    constructor
    · intro located
      split at located
      · next found =>
        cases located
        rcases Option.or_eq_some_iff.1 found with absolute | ⟨absent, relative⟩
        · exact .absolute absolute
        · exact .relative absent relative
      · cases located
    · intro located
      cases located with
      | absolute found => simp [found]
      | relative absent found => simp [absent, found]

/-- A scope is not found only if a qualifier means none, neither as an absolute name nor seen from
the owner's namespace. -/
theorem targetScope_eq_error_iff : table.targetScope owner text reference = .error e ↔
    ∃ qualifier, reference.qualifier = some qualifier ∧ table.scopeAt? qualifier = none ∧
      table.scopeFrom? owner.enclosing qualifier = none ∧
      e = .unknownScope text qualifier owner.name := by
  rcases reference with ⟨_ | qualifier, member⟩
  · simp [targetScope]
  · unfold targetScope
    dsimp only
    split
    · next found => rcases Option.or_eq_some_iff.1 found with found | found <;> simp [found]
    · next none =>
      obtain ⟨absolute, relative⟩ := Option.or_eq_none_iff.1 none
      simp [absolute, relative, eq_comm]

theorem resolveByScan_of_parse {reference : Reference}
    (parsed : Reference.parse text = .ok reference)
    (located : table.targetScope owner text reference = .ok scope) :
    table.resolveByScan kind expected owner text =
      (table.judge ⟨⟨text, reference.member, scope.name⟩, kind, expected⟩
        (table.visibleMembers owner scope)).map fun _ =>
          kind.expression (scope.child reference.member) := by
  rw [resolveByScan, parsed]
  change (table.targetScope owner text reference >>= _) = _
  rw [located]
  rfl

/-- A reference comes to something. -/
theorem exists_resolves (table : SymbolTable) (kind : ReferenceKind) (expected : ValueType)
    (owner : QualifiedName) (text : String) :
    ∃ result, table.Resolves kind expected owner text result := by
  obtain ⟨result, reads⟩ := Reference.exists_reads text
  rcases result with e | ⟨qualifier, member⟩
  · exact ⟨_, .unread reads⟩
  · cases located : table.targetScope owner text ⟨qualifier, member⟩ with
    | error e =>
      obtain ⟨qualifier, rfl, absolute, relative, -⟩ := targetScope_eq_error_iff.1 located
      exact ⟨_, .unknownScope reads absolute relative⟩
    | ok scope =>
      obtain ⟨result, judges⟩ := exists_judges table ⟨⟨text, member, scope.name⟩, kind, expected⟩
        (table.visibleMembers owner scope)
      exact ⟨_, .judged reads (targetScope_eq_ok_iff.1 located) judges⟩

/-- **The scan finds what a reference comes to.** -/
theorem resolveByScan_eq_iff {result : Except ReferenceError Expression} :
    table.resolveByScan kind expected owner text = result ↔
      table.Resolves kind expected owner text result := by
  have sound {result : Except ReferenceError Expression}
      (resolves : table.Resolves kind expected owner text result) :
      table.resolveByScan kind expected owner text = result := by
    cases resolves with
    | unread reads =>
      rw [resolveByScan, Reference.parse_eq_iff.2 reads]
      rfl
    | @unknownScope qualifier member reads absolute relative =>
      have located : table.targetScope owner text ⟨some qualifier, member⟩ =
          .error (.unknownScope text qualifier owner.name) :=
        targetScope_eq_error_iff.2 ⟨qualifier, rfl, absolute, relative, rfl⟩
      rw [resolveByScan, Reference.parse_eq_iff.2 reads]
      change (table.targetScope owner text ⟨some qualifier, member⟩ >>= _) = _
      rw [located]
      rfl
    | judged reads located judges =>
      rw [resolveByScan_of_parse (Reference.parse_eq_iff.2 reads)
        (targetScope_eq_ok_iff.2 located)]
      exact congrArg (Except.map _) (judge_of_judges judges)
  refine ⟨?_, sound⟩
  rintro rfl
  obtain ⟨result, resolves⟩ := exists_resolves table kind expected owner text
  rwa [sound resolves]

end Scans

section Shortcut

theorem visibleMembers_self (table : SymbolTable) (owner : QualifiedName) :
    table.visibleMembers owner owner = table.membersOf owner := by
  simp [visibleMembers]

/-- The first member of a name is the first field of the name, if it is a field. -/
theorem find?_field_of_firstNamed? {name : String} (found : firstNamed? members name = some m)
    (field : m.isField) : members.find? (fun m => m.isField && m.name = name) = some m := by
  obtain ⟨named, before, behind, rfl, earlier⟩ := List.find?_eq_some_iff_append.1 found
  refine List.find?_eq_some_iff_append.2 ⟨by simp_all, before, behind, rfl, fun a mem => ?_⟩
  have other := earlier a mem
  simp_all

/-- **The shortcut succeeds only where the scan does.** The single member that is tried is the first
one of its name. If it is a field it is the first field of the name, and if it is a method it is one
of those any of which will do. -/
theorem judges_of_ownMemberPasses (first : table.FindsFirst) {reference : Reference}
    (own : table.ownMemberPasses s owner reference) :
    table.Judges s (table.visibleMembers owner owner) (.ok ()) := by
  unfold ownMemberPasses at own
  obtain ⟨-, tried⟩ := Bool.and_eq_true_iff.1 own
  obtain ⟨m, found, accepted⟩ := (Option.any_eq_true _ _).1 tried
  obtain ⟨fits, passes⟩ := Bool.and_eq_true_iff.1 accepted
  rw [first] at found
  have name : m.name = s.use.member := by simpa using List.find?_some found
  rw [visibleMembers_self]
  cases kind : s.kind with
  | field =>
    rw [kind] at fits
    exact .field kind (find?_field_of_firstNamed? found fits) (passes_eq_true_iff.1 passes)
  | factory =>
    rw [kind] at fits
    exact .factory kind (List.mem_of_find?_eq_some found) fits name (passes_eq_true_iff.1 passes)

/-- The resolution with the shortcut is the one without it. The shortcut is taken by references
without qualifier only, so the scope is the owner, and then both ways follow the verdict on the
visible members. -/
theorem resolve_eq_resolveByScan (first : table.FindsFirst) :
    table.resolve kind expected owner text = table.resolveByScan kind expected owner text := by
  cases parsed : Reference.parse text with
  | error e =>
    rw [resolve, resolveByScan, parsed]
    rfl
  | ok reference =>
    cases located : table.targetScope owner text reference with
    | error e =>
      rw [resolve, resolveByScan, parsed]
      change (table.targetScope owner text reference >>= _) =
        (table.targetScope owner text reference >>= _)
      rw [located]
      rfl
    | ok scope =>
      rw [resolve_eq parsed located, resolveByScan_of_parse parsed located]
      dsimp only
      split_ifs with own
      · have bare : reference.qualifier = none := by
          unfold ownMemberPasses at own
          exact Option.isNone_iff_eq_none.1 (Bool.and_eq_true_iff.1 own).1
        obtain rfl := targetScope_of_unqualified located bare
        rw [judge_of_judges (judges_of_ownMemberPasses first own)]
        rfl
      · unfold judge
        rcases table.verdict? _ _ with _ | _ | _ <;> rfl

/-- **The shortcut changes no resolution.** A table that fills in its lookup of single members finds
the first one of a name, and so does the table of a registry. For every table that does, a reference
resolves to what a scan without the shortcut finds, in success and in failure. This is exactly what
the reference comes to: the error in its text, the error of a qualifier that means no scope, or what
the members of the scope decide, the private ones left out unless the scope is that of the owner. -/
theorem shortcut_neutral :
    (∀ scopeAt? scopeFrom? membersOf hierarchy,
      (ofLookups scopeAt? scopeFrom? membersOf hierarchy).FindsFirst) ∧
    (∀ r : Registry, r.symbolTable.FindsFirst) ∧
    ∀ table : SymbolTable, table.FindsFirst → ∀ kind expected owner text,
      table.resolve kind expected owner text = table.resolveByScan kind expected owner text ∧
      ∀ result, table.resolve kind expected owner text = result ↔
        table.Resolves kind expected owner text result := by
  refine ⟨fun _ _ _ _ _ _ => rfl, Registry.findsFirst_symbolTable, ?_⟩
  intro table first kind expected owner text
  refine ⟨resolve_eq_resolveByScan first, fun result => ?_⟩
  rw [resolve_eq_resolveByScan first]
  exact resolveByScan_eq_iff

section Samples

/-- The type whose members serve as an example. -/
def gateName : QualifiedName := ⟨"Gate", ["acme"]⟩

/-- A registry whose only type has a field, a method with an argument and a private method without
arguments, all of one name. -/
def gateRegistry : Registry :=
  (Registry.empty.declare ⟨gateName, .class, []⟩
    [.instanceField "port" .string, .staticMethod "port" 1 (.primitive .int),
      (Member.staticMethod "port" 0 (.primitive .int)).withVisibility .private]).1

end Samples

/-- The first member of the name is a field, so the shortcut for a method gives up; the private
method is found by the scan. -/
theorem shortcut_neutral_gatePort :
    gateRegistry.symbolTable.FindsFirst ∧
      gateRegistry.symbolTable.Resolves .factory (.primitive .int) gateName "port"
        (.ok (.factory (gateName.child "port"))) := by
  have first := shortcut_neutral.2.1 gateRegistry
  have resolved := (shortcut_neutral.2.2 _ first .factory (.primitive .int) gateName "port").2
  exact ⟨first, (resolved _).1 (by decide)⟩

end Shortcut

end DefaultArgs.SymbolTable
