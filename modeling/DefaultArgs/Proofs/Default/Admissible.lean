import DefaultArgs.Default.Reading
import DefaultArgs.Proofs.Companion.Filling
import DefaultArgs.Proofs.Reference.Soundness
import DefaultArgs.Registry.Table

/-!
# Admissible defaults

A default is admissible for a parameter if generated code can use it there: a literal has to be a
value of the parameter's type, and a path has to lead to a static member of a declared scope whose
value fits the parameter. A private member is admissible only in its own scope. Every way to a
default leads to an admissible one: reading a literal, resolving a reference, and looking up the
members of a companion.

## Main definitions

* `Registry.Admits r owner ty e`: the expression `e` is admissible for a parameter of type `ty` of a
  target of `owner`

## Main results

* `Literal.fits_of_read`: the literal that a text spells is a value of the type
* `Registry.admits_of_resolve`: what a reference resolves to is admissible
* `Registry.exists_offers_of_get?`: a companion default is a member that is offered to every owner
* `Registry.admits_of_get?`: a companion default whose type fits is admissible
-/

namespace DefaultArgs

/-- **Admissible defaults.** A literal is a value of the type; a path leads to a static field, or to
a static method without arguments that returns a value, of a declared scope, and this member stands
for a value of the type and is private only in the scope of the owner. -/
inductive Registry.Admits (r : Registry) (owner : QualifiedName) (ty : ValueType) :
    Expression → Prop
  | literal {value : Literal} (fits : value.fits ty) : Admits r owner ty (.literal value)
  | field {scope : QualifiedName} {entry : RegisteredScope} {m : Member}
      (declared : r.entry? scope = some entry) (member : m ∈ entry.members)
      (static : m.isStaticField) (assignable : r.symbolTable.isAssignable m.valueType ty)
      (accessible : m.isPrivate → scope = owner) : Admits r owner ty (.field (scope.child m.name))
  | factory {scope : QualifiedName} {entry : RegisteredScope} {m : Member}
      (declared : r.entry? scope = some entry) (member : m ∈ entry.members)
      (static : m.isStaticFactory) (assignable : r.symbolTable.isAssignable m.valueType ty)
      (accessible : m.isPrivate → scope = owner) : Admits r owner ty (.factory (scope.child m.name))

section Literals

variable {kind : Primitive} {ty : ValueType} {text : String} {v : Literal}

theorem Literal.fits_primitive_iff : v.fits (.primitive kind) ↔ v.primitive? = some kind := by
  cases v <;> simp [Literal.fits, Literal.primitive?, ValueType.isReference,
    ValueType.referenceName?]

theorem Primitive.primitive?_of_read? (h : kind.read? text = some v) :
    v.primitive? = some kind := by
  cases kind with
  | boolean =>
    simp only [Primitive.read?] at h
    split at h
    · cases h; rfl
    · split at h <;> cases h
      rfl
  | char => cases h; rfl
  | byte | short | int | long | float | double =>
    obtain ⟨n, -, rfl⟩ := Option.map_eq_some_iff.1 h
    rfl

theorem Literal.fits_of_read? (h : ty.read? text = some v) : v.fits ty := by
  cases ty with
  | primitive kind => exact fits_primitive_iff.2 (Primitive.primitive?_of_read? h)
  | string | nominal => cases h; rfl
  | void => cases h

/-- The literal that a text spells is a value of the type. -/
theorem Literal.fits_of_read (h : Literal.read ty text = .ok v) : v.fits ty := by
  unfold Literal.read at h
  split at h
  · split at h
    · next reference => cases h; simpa [Literal.fits] using reference
    · cases h
  · split at h
    · split at h
      · next string => cases h; rw [string]; rfl
      · cases h
    · split at h
      · next read => cases h; exact fits_of_read? read
      · cases h

end Literals

namespace Registry

variable {r : Registry} {owner scope companion : QualifiedName} {ty : ValueType}
  {kind : ReferenceKind} {m : Member} {e : Expression}

/-- A scope has members only if it is declared. -/
theorem mem_membersOf_iff :
    m ∈ r.membersOf scope ↔ ∃ entry, r.entry? scope = some entry ∧ m ∈ entry.members := by
  unfold membersOf
  cases r.entry? scope <;> simp

theorem findsFirst_symbolTable (r : Registry) : r.symbolTable.FindsFirst := fun _ _ => rfl

/-- The path of a member that is offered is admissible. -/
theorem admits_of_offers (h : r.symbolTable.Offers owner ty kind scope m) :
    r.Admits owner ty (kind.expression (scope.child m.name)) := by
  obtain ⟨entry, declared, member⟩ := mem_membersOf_iff.1 h.member
  cases kind with
  | field => exact .field declared member h.usable h.assignable h.accessible
  | factory => exact .factory declared member h.usable h.assignable h.accessible

theorem admits_of_resolve {text : String}
    (h : r.symbolTable.resolve kind ty owner text = .ok e) : r.Admits owner ty e := by
  obtain ⟨scope, m, offers, rfl⟩ :=
    SymbolTable.exists_offers_of_resolve r.findsFirst_symbolTable h
  exact admits_of_offers offers

/-- **A bound default is a member that is offered to every owner**, where its value fits: the
members that a companion contributes are not private. -/
theorem exists_offers_of_get? {key : String} {d : CompanionDefault}
    (bound : (r.symbolTable.companionDefaults companion).get? key = some d)
    (assignable : r.symbolTable.isAssignable d.valueType ty) :
    ∃ m, m.toDefault? companion = some d ∧
      ∀ owner, r.symbolTable.Offers owner ty d.kind companion m := by
  have contributed := CompanionDefaults.mem_contributors_of_get? bound
  obtain ⟨⟨m, member, visible, served⟩, -⟩ :=
    SymbolTable.mem_contributors_companionDefaults_iff.1 contributed
  obtain ⟨usable, -, sort⟩ := Member.usable_of_toDefault? served
  refine ⟨m, served, fun owner => ⟨member, usable, ?_, fun hidden => absurd hidden visible⟩⟩
  rwa [← sort]

/-- A companion default whose type fits is admissible wherever the target is. -/
theorem admits_of_get? {key : String} {d : CompanionDefault} (owner : QualifiedName)
    (bound : (r.symbolTable.companionDefaults companion).get? key = some d)
    (assignable : r.symbolTable.isAssignable d.valueType ty) : r.Admits owner ty d.expression := by
  obtain ⟨m, served, offers⟩ := exists_offers_of_get? bound assignable
  obtain ⟨-, path, -⟩ := Member.usable_of_toDefault? served
  rw [path]
  exact admits_of_offers (offers owner)

end Registry

end DefaultArgs
