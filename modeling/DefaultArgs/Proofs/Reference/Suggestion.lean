import DefaultArgs.Proofs.Reference.Paths
import DefaultArgs.Proofs.Reference.Scanning
import DefaultArgs.Proofs.Spelling.Suggestion

/-!
# Following a suggestion

A member that is not found may come with the name of another one that was meant. The name is taken
from the usable members that the reference can see, so the reference with this name in place of the
one it gave is read, means the same scope and finds a member there. What can still fail is a check:
a value that does not fit, or another method of the name that is reported first. The reference
resolves exactly if a usable member of the name has a value that fits.

## Main definitions

* `Reference.withMember text name`: the text with another member's name in it
* `ReferenceError.IsDefect e`: the error is about a member that was found

## Main results

* `Reference.Reads.withMember`: the text with another name means the same scope
* `SymbolTable.exists_judges_of_notFound`: where a member was sought that is not found
* `SymbolTable.isDefect_of_resolve`: a reference to a member that is there fails for a defect only
* `Registry.resolve_withMember_of_notFound`: what comes of following a suggestion
-/

namespace DefaultArgs

section Texts

variable {text name member : String} {qualifier : Option String}

/-- The text with another name in place of the member's; it is kept up to its last full stop. -/
def Reference.withMember (text name : String) : String :=
  match splitLastDot text.toList with
  | (some before, _) => String.ofList before ++ "." ++ name
  | (none, _) => name

/-- **With another name, a reference means a member of the same scope.** -/
theorem Reference.Reads.withMember (reads : Reference.Reads text (.ok ⟨qualifier, member⟩))
    (named : name ≠ "") (dotFree : '.' ∉ name.toList) :
    Reference.Reads (Reference.withMember text name) (.ok ⟨qualifier, name⟩) := by
  cases reads with
  | bare _ bare =>
    rw [Reference.withMember, splitLastDot_of_dotFree bare]
    exact .bare named dotFree
  | leading _ bare =>
    have spelled : ("." ++ member).toList = [] ++ '.' :: member.toList := by simp
    rw [Reference.withMember, spelled, splitLastDot_append bare]
    exact .leading named dotFree
  | @qualified qualifier _ qualified _ bare =>
    have spelled : (qualifier ++ "." ++ member).toList =
        qualifier.toList ++ '.' :: member.toList := by simp
    rw [Reference.withMember, spelled, splitLastDot_append bare]
    dsimp only
    rw [String.ofList_toList]
    exact .qualified qualified named dotFree

end Texts

/-- **An error about a member that was found**: it is not static, it is a method that takes
arguments or returns no value, or its value does not fit. -/
inductive ReferenceError.IsDefect : ReferenceError → Prop
  | notStatic (use : MemberUse) (kind : ReferenceKind) : IsDefect (.notStatic use kind)
  | takesArguments (use : MemberUse) (count : Nat) : IsDefect (.takesArguments use count)
  | voidReturn (use : MemberUse) : IsDefect (.voidReturn use)
  | typeMismatch (use : MemberUse) (kind : ReferenceKind) (found expected : ValueType) :
      IsDefect (.typeMismatch use kind found expected)

namespace SymbolTable

variable {table : SymbolTable} {owner scope : QualifiedName} {kind sort : ReferenceKind}
  {expected : ValueType} {text name : String} {use : MemberUse} {suggestion : Option String}
  {names : List String} {s : Sought} {m : Member} {members : List Member} {e : ReferenceError}

theorem mem_candidates_iff :
    name ∈ candidates kind members ↔ ∃ m ∈ members, kind.usable m ∧ m.name = name := by
  simp [candidates, and_assoc]

theorem Fails.isDefect (fails : table.Fails s m e) : e.IsDefect := by
  cases fails with
  | notStatic => exact .notStatic ..
  | takesArguments => exact .takesArguments ..
  | voidReturn => exact .voidReturn ..
  | typeMismatch => exact .typeMismatch ..

/-- If there are members of the kind and the name, the error is a defect of one of them. -/
theorem isDefect_of_judges (judges : table.Judges s members (.error e)) (mem : m ∈ members)
    (fits : s.kind.fits m) (named : m.name = s.use.member) : e.IsDefect := by
  cases judges with
  | badField _ _ fails => exact fails.isDefect
  | badFactory _ _ _ fails => exact fails.isDefect
  | missing absent _ => exact absurd named (absent m mem fits)

/-- **A reference to a member that is there fails for a defect only.** -/
theorem isDefect_of_resolve (first : table.FindsFirst) {reference : Reference}
    (parsed : Reference.parse text = .ok reference)
    (located : table.targetScope owner text reference = .ok scope)
    (visible : m ∈ table.visibleMembers owner scope) (fits : kind.fits m)
    (named : m.name = reference.member)
    (failed : table.resolve kind expected owner text = .error e) : e.IsDefect := by
  obtain ⟨result, judges⟩ := exists_judges table
    ⟨⟨text, reference.member, scope.name⟩, kind, expected⟩ (table.visibleMembers owner scope)
  rw [resolve_eq_resolveByScan first, resolveByScan_of_parse parsed located,
    judge_of_judges judges] at failed
  cases result with
  | ok => cases failed
  | error defect =>
    cases failed
    exact isDefect_of_judges judges visible fits named

/-- A member that is not found is no usable member, and its likely spelling is the name of one. -/
theorem Judges.notFound
    (judges : table.Judges s members (.error (.notFound use sort suggestion names))) :
    use = s.use ∧ names = candidates s.kind members ∧
      suggestion = likelySpelling? s.use.member names ∧ s.use.member ∉ names := by
  cases judges with
  | badField _ _ fails => cases fails.isDefect
  | badFactory _ _ _ fails => cases fails.isDefect
  | missing absent listed =>
    obtain rfl := lists_iff.1 listed
    refine ⟨rfl, rfl, rfl, fun listed => ?_⟩
    obtain ⟨m, mem, usable, named⟩ := mem_candidates_iff.1 listed
    exact absent m mem (fits_of_usable usable) named

/-- A member that is not found was sought among the visible members of a scope. -/
theorem exists_judges_of_notFound (first : table.FindsFirst)
    (missing : table.resolve kind expected owner text =
      .error (.notFound use sort suggestion names)) :
    ∃ member qualifier scope, Reference.Reads text (.ok ⟨qualifier, member⟩) ∧
      table.Locates owner qualifier scope ∧
      table.Judges ⟨⟨text, member, scope.name⟩, kind, expected⟩ (table.visibleMembers owner scope)
        (.error (.notFound use sort suggestion names)) := by
  rw [resolve_eq_resolveByScan first, resolveByScan_eq_iff] at missing
  generalize outcome : Except.error (ε := ReferenceError) (α := Expression)
    (.notFound use sort suggestion names) = result at missing
  cases missing with
  | unread reads =>
    cases outcome
    cases reads
  | unknownScope => cases outcome
  | @judged member qualifier scope result reads located judges =>
    cases result with
    | ok => cases outcome
    | error e =>
      cases outcome
      exact ⟨member, qualifier, scope, reads, located, judges⟩

end SymbolTable

namespace Registry

variable {r : Registry} {owner : QualifiedName} {kind sort : ReferenceKind} {expected : ValueType}
  {text suggested : String} {use : MemberUse} {names : List String}

/-- **Following a suggestion always finds a member.** Let the names of all members be non-empty and
free of full stops. If a member is not found and a likely spelling is suggested, the suggestion is
one of the names that are listed, and the name that was sought is not. The text with the suggested
name in it means a member of the same scope. If it is an error, then because of a member of this
name that fails a check, and it resolves exactly if a member of this name is offered: it is usable,
visible and its value fits. -/
theorem resolve_withMember_of_notFound (h : r.Reachable)
    (spelled : ∀ entry ∈ r.entries, ∀ m ∈ entry.2.members, m.name ≠ "" ∧ '.' ∉ m.name.toList)
    (missing : r.symbolTable.resolve kind expected owner text =
      .error (.notFound use sort (some suggested) names)) :
    suggested ∈ names ∧ use.member ∉ names ∧
      ∃ qualifier scope, Reference.Reads text (.ok ⟨qualifier, use.member⟩) ∧
        r.symbolTable.Locates owner qualifier scope ∧
        Reference.Reads (Reference.withMember text suggested) (.ok ⟨qualifier, suggested⟩) ∧
        (∀ e, r.symbolTable.resolve kind expected owner (Reference.withMember text suggested) =
          .error e → e.IsDefect) ∧
        ∀ e, r.symbolTable.resolve kind expected owner (Reference.withMember text suggested) =
          .ok e ↔ e = kind.expression (scope.child suggested) ∧
            ∃ m, m.name = suggested ∧ r.symbolTable.Offers owner expected kind scope m := by
  have first := r.findsFirst_symbolTable
  obtain ⟨member, qualifier, scope, reads, located, judges⟩ :=
    SymbolTable.exists_judges_of_notFound first missing
  obtain ⟨rfl, rfl, spelling, fresh⟩ := judges.notFound
  have listed := mem_of_likelySpelling? spelling.symm
  obtain ⟨m, visible, usable, named⟩ := SymbolTable.mem_candidates_iff.1 listed
  obtain ⟨entry, declared, mem⟩ := mem_membersOf_iff.1 (List.mem_filter.1 visible).1
  obtain ⟨node, stored⟩ := r.exists_mem_entries_of_entry? declared
  obtain ⟨nonempty, dotFree⟩ := spelled _ stored m mem
  rw [named] at nonempty dotFree
  have readsAgain := reads.withMember nonempty dotFree
  have parsed := Reference.parse_eq_iff.2 readsAgain
  have found : r.symbolTable.targetScope owner (Reference.withMember text suggested)
      ⟨qualifier, suggested⟩ = .ok scope := SymbolTable.targetScope_eq_ok_iff.2 located
  refine ⟨listed, fresh, qualifier, scope, reads, located, readsAgain, fun e => ?_, fun e => ?_⟩
  · exact SymbolTable.isDefect_of_resolve first parsed found visible
      (SymbolTable.fits_of_usable usable) named
  · exact SymbolTable.resolve_eq_ok_iff parsed found first h.sound.uniqueFields

section Samples

/-- The type whose members are suggested. -/
def settingsName : QualifiedName := ⟨"Settings", ["acme"]⟩

/-- A registry whose only type has a default port, beside a method of the same name that takes an
argument. -/
def settingsRegistry : Registry :=
  (Registry.empty.declare ⟨settingsName, .class, []⟩
    [.staticMethod "defaultPort" 1 .string, .staticMethod "defaultPort" 0 (.primitive .int)]).1

end Samples

/-- The name of a method is misspelt, and the one that is suggested belongs to two methods. The
second of them takes no arguments, so the reference to it resolves. -/
theorem resolve_withMember_of_notFound_defaultPort :
    (∀ entry ∈ settingsRegistry.entries, ∀ m ∈ entry.2.members,
      m.name ≠ "" ∧ '.' ∉ m.name.toList) ∧
    settingsRegistry.symbolTable.resolve .factory (.primitive .long) workerName
        "Settings.defaultPrt" =
      .error (.notFound ⟨"Settings.defaultPrt", "defaultPrt", "Settings"⟩ .factory
        (some "defaultPort") ["defaultPort"]) ∧
    settingsRegistry.symbolTable.resolve .factory (.primitive .long) workerName
        "Settings.defaultPort" = .ok (.factory (settingsName.child "defaultPort")) := by
  have reachable : settingsRegistry.Reachable := Reachable.empty.declare _ _
  have spelled : ∀ entry ∈ settingsRegistry.entries, ∀ m ∈ entry.2.members,
      m.name ≠ "" ∧ '.' ∉ m.name.toList := by decide
  have missing : settingsRegistry.symbolTable.resolve .factory (.primitive .long) workerName
      "Settings.defaultPrt" =
        .error (.notFound ⟨"Settings.defaultPrt", "defaultPrt", "Settings"⟩ .factory
          (some "defaultPort") ["defaultPort"]) := by decide +kernel
  obtain ⟨-, -, qualifier, scope, reads, located, -, -, resolves⟩ :=
    resolve_withMember_of_notFound reachable spelled missing
  have read : Reference.parse "Settings.defaultPrt" = .ok ⟨some "Settings", "defaultPrt"⟩ := by
    decide
  have means : settingsRegistry.symbolTable.targetScope workerName "Settings.defaultPrt"
      ⟨some "Settings", "defaultPrt"⟩ = .ok settingsName := by decide
  obtain rfl : some "Settings" = qualifier := congrArg Reference.qualifier
    (Except.ok.inj (read.symm.trans (Reference.parse_eq_iff.2 reads)))
  obtain rfl : settingsName = scope :=
    Except.ok.inj (means.symm.trans (SymbolTable.targetScope_eq_ok_iff.2 located))
  have offers : settingsRegistry.symbolTable.Offers workerName (.primitive .long) .factory
      settingsName (.staticMethod "defaultPort" 0 (.primitive .int)) :=
    ⟨by decide, by decide, by decide, by decide⟩
  exact ⟨spelled, missing, (resolves _).2 ⟨rfl, _, rfl, offers⟩⟩

end Registry

end DefaultArgs
