import DefaultArgs.Proofs.Default.Admissible
import DefaultArgs.Proofs.QualifiedName
import DefaultArgs.Proofs.Registry.Reachable

/-!
# What can be referred to

A member that is offered can be named: its path, written out with full stops, is a reference that
resolves to this member, from every scope. The text is cut at its last full stop, so the member's
name must be free of full stops. The rest is the dotted form of the scope, which is read as an
absolute name before anything else, so it does not matter where the reference stands.

Nothing else may take the member's place. Any method that passes will do, but of the fields only the
first one of a name is looked at. A registry has no two fields of one name in a scope.

## Main definitions

* `SymbolTable.UniqueFields table`: no scope has two fields of one name

## Main results

* `Reference.parse_qualified`: a dotted text is its qualifier and its last name
* `verdict?_of_offers`: a member that is offered brings a positive verdict
* `Registry.Sound.resolve_of_offers`: a member that is offered is what its path refers to
-/

namespace DefaultArgs

section Texts

variable {before member : List Char}

theorem splitLastDot_of_dotFree (dotFree : '.' ∉ member) :
    splitLastDot member = (none, member) := by
  induction member with
  | nil => rfl
  | cons c rest ih =>
    obtain ⟨first, others⟩ := not_or.1 (mt List.mem_cons.2 dotFree)
    have noDot : ¬c = '.' := fun same => first same.symm
    rw [splitLastDot, ih others]
    exact if_neg noDot

/-- A text is cut at the full stop that has no other behind it. -/
theorem splitLastDot_append (dotFree : '.' ∉ member) :
    splitLastDot (before ++ '.' :: member) = (some before, member) := by
  induction before with
  | nil =>
    rw [List.nil_append, splitLastDot, splitLastDot_of_dotFree dotFree]
    exact if_pos rfl
  | cons c rest ih => rw [List.cons_append, splitLastDot, ih]

theorem ne_empty_of_dot {text : String} (spelled : text.toList = before ++ '.' :: member) :
    text ≠ "" := by
  rintro rfl
  simp at spelled

/-- **A dotted text is its qualifier and its last name.** -/
theorem Reference.parse_qualified {qualifier name : String} (qualified : qualifier ≠ "")
    (named : name ≠ "") (dotFree : '.' ∉ name.toList) :
    Reference.parse (qualifier ++ "." ++ name) = .ok ⟨some qualifier, name⟩ := by
  have spelled : (qualifier ++ "." ++ name).toList = qualifier.toList ++ '.' :: name.toList := by
    simp
  obtain ⟨c, before, front⟩ : ∃ c before, qualifier.toList = c :: before :=
    List.exists_cons_of_ne_nil (mt String.toList_eq_nil_iff.1 qualified)
  obtain ⟨d, rest, back⟩ : ∃ d rest, name.toList = d :: rest :=
    List.exists_cons_of_ne_nil (mt String.toList_eq_nil_iff.1 named)
  have cut : splitLastDot (qualifier ++ "." ++ name).toList = (some (c :: before), d :: rest) := by
    rw [spelled, splitLastDot_append dotFree, front, back]
  rw [Reference.parse, if_neg (ne_empty_of_dot spelled), cut]
  simp only [← front, ← back, String.ofList_toList]

end Texts

namespace SymbolTable

variable {table : SymbolTable} {owner scope : QualifiedName} {expected : ValueType}
  {kind : ReferenceKind} {m : Member} {s : Sought} {members : List Member}

/-- No scope has two fields of one name. -/
def UniqueFields (table : SymbolTable) : Prop :=
  ∀ scope, ∀ m ∈ table.membersOf scope, ∀ m' ∈ table.membersOf scope,
    m.isField → m'.isField → m.name = m'.name → m = m'

theorem fits_of_usable (usable : kind.usable m) : kind.fits m := by
  cases kind with
  | field =>
    simp only [ReferenceKind.usable, Member.isStaticField, Bool.and_eq_true] at usable
    exact usable.1
  | factory =>
    simp only [ReferenceKind.usable, Member.isStaticFactory, Bool.and_eq_true] at usable
    exact usable.1.1.1

theorem passes_of_usable (usable : s.kind.usable m)
    (assignable : table.isAssignable m.valueType s.expected) : table.passes s m := by
  rw [passes_iff]
  rcases s with ⟨use, kind, expected⟩
  cases kind with
  | field => simp_all [ReferenceKind.usable, Member.isStaticField]
  | factory => simp_all [ReferenceKind.usable, Member.isStaticFactory]

/-- A member of the right kind and name that passes brings a positive verdict, unless it is a field
and another field has its name. -/
theorem verdict?_of_passes (mem : m ∈ members) (fits : s.kind.fits m) (name : m.name = s.use.member)
    (passes : table.passes s m)
    (unique : s.kind = .field → ∀ m' ∈ members, m'.isField → m'.name = m.name → m' = m) :
    table.verdict? s members = some (.ok ()) := by
  have named : m ∈ members.filter fun m => s.kind.fits m && m.name = s.use.member := by
    simp [mem, fits, name]
  cases reported : reported? s.kind
      (members.filter fun m => s.kind.fits m && m.name = s.use.member) with
  | none =>
    rcases s with ⟨use, kind, expected⟩
    have empty := List.ne_nil_of_mem named
    cases kind <;> simp_all [reported?]
  | some first =>
    simp only [verdict?, reported, Option.map_some]
    split
    · rfl
    · next none =>
      have field : s.kind = .field := by
        cases kind : s.kind with
        | field => rfl
        | factory => exact absurd ⟨kind, List.any_eq_true.2 ⟨m, named, passes⟩⟩ none
      have first_mem : first ∈ members.filter fun m => s.kind.fits m && m.name = s.use.member := by
        rw [field, reported?] at reported
        rw [field]
        exact List.mem_of_head? reported
      simp only [field, ReferenceKind.fits, List.mem_filter, Bool.and_eq_true,
        decide_eq_true_eq] at first_mem
      obtain ⟨first_mem, first_field, first_name⟩ := first_mem
      obtain rfl := unique field first first_mem first_field (first_name.trans name.symm)
      have sound : table.defect? s first = Option.none := Option.isNone_iff_eq_none.1 passes
      rw [sound]

/-- **A member that is offered brings a positive verdict** in the scope that it belongs to. -/
theorem verdict?_of_offers (unique : table.UniqueFields)
    (offers : table.Offers owner expected kind scope m) (reference home : String) :
    table.verdict? ⟨⟨reference, m.name, home⟩, kind, expected⟩ (table.visibleMembers owner scope) =
      some (.ok ()) := by
  have visible : m ∈ table.visibleMembers owner scope := by
    refine List.mem_filter.2 ⟨offers.member, ?_⟩
    cases hidden : m.isPrivate with
    | false => simp
    | true => simp [offers.accessible hidden]
  have fits : kind.fits m := fits_of_usable offers.usable
  apply verdict?_of_passes visible fits rfl (passes_of_usable offers.usable offers.assignable)
  intro field m' mem' field' same
  have declared : m' ∈ table.membersOf scope := (List.mem_filter.1 mem').1
  have is_field : m.isField := by
    rw [show kind = .field from field] at fits
    exact fits
  exact unique scope m' declared m offers.member field' is_field same

end SymbolTable

namespace Registry

variable {r : Registry} {owner scope : QualifiedName} {expected : ValueType}
  {kind : ReferenceKind} {entry : RegisteredScope} {m : Member}

theorem Sound.uniqueFields (sound : r.Sound) : r.symbolTable.UniqueFields := by
  intro scope m mem m' mem' field field' same
  obtain ⟨entry, declared, mem⟩ := mem_membersOf_iff.1 mem
  obtain ⟨entry', declared', mem'⟩ := mem_membersOf_iff.1 mem'
  obtain rfl : entry = entry' := Option.some.inj (declared.symm.trans declared')
  have nodup : entry.fieldNames.Nodup := sound.nodup_fieldNames_of_entry? declared
  exact List.inj_on_of_nodup_map nodup (List.mem_filter.2 ⟨mem, field⟩)
    (List.mem_filter.2 ⟨mem', field'⟩) same

/-- The dotted form of a declared scope is an absolute name of it, from wherever it is used. -/
theorem Sound.targetScope_qualified (sound : r.Sound) (spellable : scope.IsSpellable)
    (declared : r.entry? scope = some entry) (owner : QualifiedName) (text member : String) :
    r.symbolTable.targetScope owner text ⟨some scope.display, member⟩ = .ok scope := by
  have absolute : r.symbolTable.scopeAt? scope.display = some entry.scope := by
    change (r.absolute? scope.display).map RegisteredScope.scope = some entry.scope
    rw [r.absolute?_display spellable, declared, Option.map_some]
  simp only [SymbolTable.targetScope, absolute, Option.some_or]
  rw [sound.name_of_entry? declared]

/-- **A member that is offered is what its path refers to.** -/
theorem Sound.resolve_of_offers (sound : r.Sound) (spellable : scope.IsSpellable)
    (named : m.name ≠ "") (dotFree : '.' ∉ m.name.toList)
    (offers : r.symbolTable.Offers owner expected kind scope m) :
    r.symbolTable.resolve kind expected owner (scope.display ++ "." ++ m.name) =
      .ok (kind.expression (scope.child m.name)) := by
  obtain ⟨entry, declared, -⟩ := mem_membersOf_iff.1 offers.member
  have parsed := Reference.parse_qualified (QualifiedName.display_ne_empty spellable) named dotFree
  have located := sound.targetScope_qualified spellable declared owner
    (scope.display ++ "." ++ m.name) m.name
  rw [SymbolTable.resolve_eq parsed located]
  dsimp only
  split
  · rfl
  · rw [SymbolTable.verdict?_of_offers sound.uniqueFields offers]

end Registry

end DefaultArgs
