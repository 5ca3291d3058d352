import DefaultArgs.Reference
import Mathlib.Tactic.SplitIfs

/-!
# What a resolved reference means

A reference that resolves is the path of a member that was found in the scope it is resolved in.
The member has the kind that was sought, it can stand where its value is expected, and it is private
only if it belongs to the scope that the reference stands in.

## Main definitions

* `SymbolTable.FindsFirst table`: a single member is the first of its name
* `SymbolTable.Offers table owner expected kind scope m`: the member `m` of `scope` can be referred
  to from `owner`

## Main results

* `passes_iff`: the conditions that a member has to meet
* `exists_passes_of_verdict?`: a positive verdict comes from a member
* `exists_offers_of_resolve`: a resolved reference is the path of a member that is offered
-/

namespace DefaultArgs.SymbolTable

variable {table : SymbolTable}

/-- A single member is found as the first one of its name. -/
def FindsFirst (table : SymbolTable) : Prop :=
  ∀ owner name, table.memberOf? owner name = firstNamed? (table.membersOf owner) name

/-- The member `m` of `scope` can be referred to from `owner` where a value of the expected type is
wanted: it is usable, its value fits, and it is private only in the scope of the reference. -/
structure Offers (table : SymbolTable) (owner : QualifiedName) (expected : ValueType)
    (kind : ReferenceKind) (scope : QualifiedName) (m : Member) : Prop where
  member : m ∈ table.membersOf scope
  usable : kind.usable m
  assignable : table.isAssignable m.valueType expected
  accessible : m.isPrivate → scope = owner

section Conditions

variable {s : Sought} {m : Member} {members : List Member}

/-- A member passes if it is static and its value fits, and if it is a method without arguments
that returns a value where a method is sought. -/
theorem passes_iff :
    table.passes s m ↔ m.isStatic ∧
      (s.kind = .factory → m.parameterCount = 0 ∧ m.valueType ≠ .void) ∧
      table.isAssignable m.valueType s.expected := by
  rcases s with ⟨use, kind, expected⟩
  cases kind <;> simp only [passes, defect?] <;> split_ifs <;> simp_all

theorem usable_of_passes (fits : s.kind.fits m) (passes : table.passes s m) :
    s.kind.usable m := by
  obtain ⟨static, shape, -⟩ := passes_iff.1 passes
  rcases s with ⟨use, kind, expected⟩
  cases kind with
  | field => simp_all [ReferenceKind.fits, ReferenceKind.usable, Member.isStaticField]
  | factory => simp_all [ReferenceKind.fits, ReferenceKind.usable, Member.isStaticFactory]

/-- A positive verdict comes from a member of the right kind and name that passes. Of methods any
that passes will do, not only the one that would be reported. -/
theorem exists_passes_of_verdict? (h : table.verdict? s members = some (.ok ())) :
    ∃ m ∈ members, s.kind.fits m ∧ m.name = s.use.member ∧ table.passes s m := by
  simp only [verdict?, Option.map_eq_some_iff] at h
  obtain ⟨m, reported, verdict⟩ := h
  have named : ∀ m ∈ members.filter (fun m => s.kind.fits m && m.name = s.use.member),
      m ∈ members ∧ s.kind.fits m ∧ m.name = s.use.member := by
    intro m mem
    simpa using mem
  split at verdict
  · next passing =>
    obtain ⟨m, mem, passes⟩ := List.any_eq_true.1 passing.2
    obtain ⟨mem, fits, name⟩ := named m mem
    exact ⟨m, mem, fits, name, passes⟩
  · have passes : table.passes s m := by
      unfold passes
      split at verdict <;> simp_all
    have mem : m ∈ members.filter (fun m => s.kind.fits m && m.name = s.use.member) := by
      unfold reported? at reported
      split at reported
      · exact List.mem_of_head? reported
      · rcases Option.or_eq_some_iff.1 reported with found | ⟨-, first⟩
        · exact List.mem_of_find?_eq_some found
        · exact List.mem_of_head? first
    obtain ⟨mem, fits, name⟩ := named m mem
    exact ⟨m, mem, fits, name, passes⟩

end Conditions

section Resolved

variable {kind : ReferenceKind} {expected : ValueType} {owner : QualifiedName} {text : String}
  {e : Expression}

theorem targetScope_of_unqualified {reference : Reference} {scope : QualifiedName}
    (h : table.targetScope owner text reference = .ok scope) (bare : reference.qualifier = none) :
    scope = owner := by
  simp only [targetScope, bare, Except.ok.injEq] at h
  exact h.symm

/-- A reference that is read and whose scope is found resolves to a member of the owner that is
tried directly, or to what the verdict on all visible members says. -/
theorem resolve_eq {reference : Reference} {scope : QualifiedName}
    (parsed : Reference.parse text = .ok reference)
    (located : table.targetScope owner text reference = .ok scope) :
    table.resolve kind expected owner text =
      let s : Sought := ⟨⟨text, reference.member, scope.name⟩, kind, expected⟩
      let path := scope.child reference.member
      if table.ownMemberPasses s owner reference then .ok (kind.expression path)
      else
        match table.verdict? s (table.visibleMembers owner scope) with
        | some (.ok ()) => .ok (kind.expression path)
        | some (.error defect) => .error defect
        | none => .error (missing s (table.visibleMembers owner scope)) := by
  rw [resolve, parsed]
  change (table.targetScope owner text reference >>= _) = _
  rw [located]
  rfl

theorem exists_targetScope_of_resolve (h : table.resolve kind expected owner text = .ok e) :
    ∃ reference scope, Reference.parse text = .ok reference ∧
      table.targetScope owner text reference = .ok scope := by
  cases parsed : Reference.parse text with
  | error defect => simp [resolve, parsed, bind, Except.bind] at h
  | ok reference =>
    cases located : table.targetScope owner text reference with
    | error defect => simp [resolve, parsed, located, bind, Except.bind] at h
    | ok scope => exact ⟨reference, scope, rfl, located⟩

/-- **A reference that resolves is the path of a member that is offered.** The shortcut looks only
at the first member of the name, which belongs to the owner. Otherwise a visible member of the scope
passed, and only members of the owner may be private. -/
theorem exists_offers_of_resolve (first : table.FindsFirst)
    (h : table.resolve kind expected owner text = .ok e) :
    ∃ scope m, table.Offers owner expected kind scope m ∧
      e = kind.expression (scope.child m.name) := by
  obtain ⟨reference, scope, parsed, located⟩ := exists_targetScope_of_resolve h
  rw [resolve_eq parsed located] at h
  dsimp only at h
  split_ifs at h with own
  · simp only [ownMemberPasses, Bool.and_eq_true, Option.isNone_iff_eq_none] at own
    obtain ⟨bare, m, found, fits, passes⟩ := by simpa [Option.any_eq_true] using own
    obtain rfl := targetScope_of_unqualified located bare
    rw [first] at found
    have name : m.name = reference.member := by simpa using List.find?_some found
    refine ⟨scope, m, ⟨List.mem_of_find?_eq_some found, usable_of_passes fits passes,
      (passes_iff.1 passes).2.2, fun _ => rfl⟩, ?_⟩
    simpa [name] using h.symm
  · split at h
    · next verdict =>
      obtain ⟨m, mem, fits, name, passes⟩ := exists_passes_of_verdict? verdict
      obtain ⟨mem, visible⟩ := List.mem_filter.1 mem
      refine ⟨scope, m, ⟨mem, usable_of_passes fits passes, (passes_iff.1 passes).2.2,
        fun hidden => ?_⟩, ?_⟩
      · simpa [hidden] using visible
      · simpa [name] using h.symm
    · cases h
    · cases h

end Resolved

end DefaultArgs.SymbolTable
