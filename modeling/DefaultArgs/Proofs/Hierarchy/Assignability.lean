import DefaultArgs.Proofs.Hierarchy.Search

/-!
# Assignability composes

A value can stand where another type is expected for one of three reasons: a primitive type widens
to another, a primitive value is boxed, or a reference type has the other one above it. Each of the
three composes with itself, and boxing composes with what holds of reference types afterwards. Only
widening and boxing do not: an `int` can stand for a `long`, and a `long` for its box, but no `int`
for the box of a `long`.

Every reference type stands for the root. So a supertype of the root would have to stand above all
reference types, and the search does not know that. Composition therefore asks that the root has no
supertypes.

## Main definitions

* `Hierarchy.Below h a b`: the reference type `a` stands for the reference type `b`
* `Hierarchy.Assigns h s t`: the reasons why a value of type `s` stands where `t` is expected

## Main results

* `isSubtype_iff`, `isAssignable_iff`: the two relations are what is computed
* `Below.trans`, `Assigns.refl`, `Assigns.trans`: how they compose
* `Registry.assignability`: all of it, for the types in a registry
-/

namespace DefaultArgs

namespace Primitive

variable {a b c : Primitive}

/-- Widening goes up the ranks, and never to a `char`. -/
theorem widensTo_iff : a.widensTo b ↔ a = b ∨ b ≠ .char ∧
    ∃ m n, a.wideningRank? = some m ∧ b.wideningRank? = some n ∧ m < n := by
  unfold widensTo
  cases a.wideningRank? with
  | none => simp
  | some m =>
    cases b.wideningRank? with
    | none => simp
    | some n => simp

theorem widensTo_refl (a : Primitive) : a.widensTo a :=
  widensTo_iff.2 (.inl rfl)

theorem widensTo_trans (ab : a.widensTo b) (bc : b.widensTo c) : a.widensTo c := by
  rcases widensTo_iff.1 ab with rfl | ⟨-, m, n, rank_a, rank_b, lt⟩
  · exact bc
  · rcases widensTo_iff.1 bc with rfl | ⟨other, n', k, rank_b', rank_c, lt'⟩
    · exact ab
    · obtain rfl : n = n' := Option.some.inj (rank_b.symm.trans rank_b')
      exact widensTo_iff.2 (.inr ⟨other, m, k, rank_a, rank_c, lt.trans lt'⟩)

end Primitive

namespace Hierarchy

/-- **The first reference type stands for the second**, which is the root, the same type, or one
that steps to direct supertypes lead to. -/
inductive Below (h : Hierarchy QualifiedName) (a : QualifiedName) : QualifiedName → Prop
  | root : Below h a ValueType.objectName
  | same : Below h a a
  | above {b : QualifiedName} (chain : Relation.TransGen h.Above a b) : Below h a b

/-- **The reasons why a value of one type stands where another is expected.** -/
inductive Assigns (h : Hierarchy QualifiedName) : ValueType → ValueType → Prop
  | widening {a b : Primitive} (widens : a.widensTo b) : Assigns h (.primitive a) (.primitive b)
  | boxing {kind : Primitive} {t : ValueType} {b : QualifiedName}
      (expected : t.referenceName? = some b) (below : h.Below (.parse kind.boxedName) b) :
      Assigns h (.primitive kind) t
  | reference {s t : ValueType} {a b : QualifiedName} (found : s.referenceName? = some a)
      (expected : t.referenceName? = some b) (below : h.Below a b) : Assigns h s t

variable {h : Hierarchy QualifiedName} {a b c : QualifiedName} {s t u : ValueType}
  {kind : Primitive}

section References

theorem below_iff :
    h.Below a b ↔ b = ValueType.objectName ∨ b = a ∨ Relation.TransGen h.Above a b := by
  constructor
  · intro below
    cases below with
    | root => exact .inl rfl
    | same => exact .inr (.inl rfl)
    | above chain => exact .inr (.inr chain)
  · rintro (rfl | rfl | chain)
    · exact .root
    · exact .same
    · exact .above chain

/-- The search leaves out the name that it starts from, which is a subtype of itself. -/
theorem isSubtype_iff : h.isSubtype a b ↔ h.Below a b := by
  rw [below_iff, isSubtype]
  simp only [Bool.or_eq_true, decide_eq_true_eq, mem_closure_iff]
  constructor
  · rintro ((rfl | root) | ⟨-, chain⟩)
    · exact .inr (.inl rfl)
    · exact .inl root
    · exact .inr (.inr chain)
  · rintro (root | rfl | chain)
    · exact .inl (.inr root)
    · exact .inl (.inl rfl)
    · by_cases same : b = a
      · exact .inl (.inl same.symm)
      · exact .inr ⟨same, chain⟩

/-- Nothing but the root stands above a root without supertypes. -/
theorem Below.eq_of_root (top : h.direct ValueType.objectName = [])
    (below : h.Below ValueType.objectName b) : b = ValueType.objectName := by
  cases below with
  | root => rfl
  | same => rfl
  | above chain =>
    obtain ⟨c, step, -⟩ := Relation.TransGen.head'_iff.1 chain
    rw [Above, top] at step
    cases step

theorem Below.trans (top : h.direct ValueType.objectName = []) (ab : h.Below a b)
    (bc : h.Below b c) : h.Below a c := by
  cases ab with
  | root =>
    obtain rfl := bc.eq_of_root top
    exact .root
  | same => exact bc
  | above chain =>
    cases bc with
    | root => exact .root
    | same => exact .above chain
    | above chain' => exact .above (chain.trans chain')

end References

section Types

theorem assigns_references_iff (found : s.referenceName? = some a)
    (expected : t.referenceName? = some b) : h.Assigns s t ↔ h.Below a b := by
  constructor
  · intro assigns
    cases assigns with
    | widening => cases found
    | boxing => cases found
    | reference found' expected' below =>
      obtain rfl : _ = a := Option.some.inj (found'.symm.trans found)
      obtain rfl : _ = b := Option.some.inj (expected'.symm.trans expected)
      exact below
  · exact .reference found expected

theorem isAssignable_iff : h.isAssignable s t ↔ h.Assigns s t := by
  constructor
  · intro holds
    cases s with
    | primitive kind =>
      cases t with
      | primitive kind' => exact .widening holds
      | string => exact .boxing rfl (isSubtype_iff.1 holds)
      | nominal name => exact .boxing rfl (isSubtype_iff.1 holds)
      | void => cases holds
    | string | nominal name =>
      cases t with
      | primitive kind' => cases holds
      | string | nominal name' => exact .reference rfl rfl (isSubtype_iff.1 holds)
      | void => cases holds
    | void => cases holds
  · intro assigns
    cases assigns with
    | widening widens => exact widens
    | @boxing kind t b expected below =>
      have sub := isSubtype_iff.2 below
      cases t with
      | primitive | void => cases expected
      | string | nominal name =>
        cases expected
        exact sub
    | @reference s t a b found expected below =>
      have sub := isSubtype_iff.2 below
      cases s with
      | primitive | void => cases found
      | string | nominal name =>
        cases found
        cases t with
        | primitive | void => cases expected
        | string | nominal name' =>
          cases expected
          exact sub

/-- Every value stands for itself. -/
theorem Assigns.refl (value : t ≠ .void) : h.Assigns t t := by
  cases t with
  | primitive kind => exact .widening kind.widensTo_refl
  | string | nominal name => exact .reference rfl rfl .same
  | void => exact absurd rfl value

/-- No value of a reference type stands for a primitive one. -/
theorem not_assigns_primitive (reference : s.isReference) : ¬h.Assigns s (.primitive kind) := by
  intro assigns
  cases assigns with
  | widening => cases reference
  | boxing expected => cases expected
  | reference _ expected => cases expected

/-- The absence of a value stands for nothing, and nothing stands for it. -/
theorem not_assigns_void : ¬h.Assigns .void t ∧ ¬h.Assigns t .void := by
  constructor
  · intro assigns
    cases assigns with
    | reference found => cases found
  · intro assigns
    cases assigns with
    | boxing expected => cases expected
    | reference _ expected => cases expected

/-- **Assignability composes**, except for a widening that is followed by boxing. Only a value of
the very type that is boxed stands for the box. -/
theorem Assigns.trans (top : h.direct ValueType.objectName = []) (st : h.Assigns s t)
    (tu : h.Assigns t u) (plain : ¬(s.isPrimitive ∧ t.isPrimitive ∧ s ≠ t ∧ u.isReference)) :
    h.Assigns s u := by
  cases st with
  | @widening a b widens =>
    cases tu with
    | widening widens' => exact .widening (Primitive.widensTo_trans widens widens')
    | boxing expected below =>
      have same : ValueType.primitive a = .primitive b := by
        by_contra other
        exact plain ⟨rfl, rfl, other, by rw [ValueType.isReference, expected]; rfl⟩
      cases same
      exact .boxing expected below
    | reference found => cases found
  | @boxing kind t b expected below =>
    cases tu with
    | widening => cases expected
    | boxing => cases expected
    | reference found expected' below' =>
      obtain rfl := Option.some.inj (found.symm.trans expected)
      exact .boxing expected' (below.trans top below')
  | reference found expected below =>
    cases tu with
    | widening => cases expected
    | boxing => cases expected
    | reference found' expected' below' =>
      obtain rfl := Option.some.inj (found'.symm.trans expected)
      exact .reference found expected' (below.trans top below')

/-- The exception: an `int` widens to a `long`, but does not stand for the box of one. -/
example : builtin.isAssignable (.primitive .int) (.primitive .long) = true ∧
    builtin.isAssignable (.primitive .long) (.nominal ⟨"Long", ["java", "lang"]⟩) = true ∧
    builtin.isAssignable (.primitive .int) (.nominal ⟨"Long", ["java", "lang"]⟩) = false := by
  cbv

end Types

end Hierarchy

namespace Registry

/-- **Assignability in a registry** whose root has no supertypes. A reference type stands for the
root, for itself, and for what steps to direct supertypes lead to. Every type with values stands for
itself. Assignability composes, unless a primitive type is widened first and boxed then. The absence
of a value stands for nothing, nothing stands for it, and no reference stands for a primitive. -/
theorem assignability (r : Registry) (top : r.directSupertypes ValueType.objectName = []) :
    (∀ s t a b, s.referenceName? = some a → t.referenceName? = some b →
        (r.symbolTable.isAssignable s t ↔ b = ValueType.objectName ∨ b = a ∨
          Relation.TransGen (fun a b => b ∈ r.directSupertypes a) a b)) ∧
      (∀ t, t ≠ .void → r.symbolTable.isAssignable t t) ∧
      (∀ s t u, r.symbolTable.isAssignable s t → r.symbolTable.isAssignable t u →
        ¬(s.isPrimitive ∧ t.isPrimitive ∧ s ≠ t ∧ u.isReference) →
        r.symbolTable.isAssignable s u) ∧
      (∀ t, ¬r.symbolTable.isAssignable .void t ∧ ¬r.symbolTable.isAssignable t .void) ∧
      ∀ s kind, s.isReference → ¬r.symbolTable.isAssignable s (.primitive kind) := by
  have computed : ∀ s t, r.symbolTable.isAssignable s t ↔ r.hierarchy.Assigns s t :=
    fun s t => Hierarchy.isAssignable_iff
  simp only [computed]
  refine ⟨?references, ?reflexive, ?composes, ?void, ?primitive⟩
  case references =>
    intro s t a b found expected
    exact (Hierarchy.assigns_references_iff found expected).trans Hierarchy.below_iff
  case reflexive => exact fun t value => .refl value
  case composes => exact fun s t u st tu plain => st.trans top tu plain
  case void => exact fun t => Hierarchy.not_assigns_void
  case primitive => exact fun s kind reference => Hierarchy.not_assigns_primitive reference

section Samples

/-- The name of a type of labels. -/
def labelName : QualifiedName := ⟨"Label", ["acme"]⟩

/-- The name of a type of texts. -/
def textName : QualifiedName := ⟨"Text", ["acme"]⟩

/-- Strings are declared to be labels only, and labels and texts are supertypes of each other. -/
def labelledStrings : Registry :=
  ((empty.declareScope ⟨ValueType.stringName, .class, [labelName]⟩).1.declareScope
    ⟨labelName, .interface, [textName]⟩).1.declareScope ⟨textName, .interface, [labelName]⟩ |>.1

end Samples

/-- A string is a text, since it is a label and labels are texts. It is no sequence of characters,
as it would be without the declaration. -/
theorem assignability_labelledStrings :
    labelledStrings.directSupertypes ValueType.objectName = [] ∧
      labelledStrings.symbolTable.isAssignable .string (.nominal labelName) ∧
      labelledStrings.symbolTable.isAssignable (.nominal labelName) (.nominal textName) ∧
      labelledStrings.symbolTable.isAssignable .string (.nominal textName) ∧
      ¬labelledStrings.symbolTable.isAssignable .string
        (.nominal ⟨"CharSequence", ["java", "lang"]⟩) := by
  have top : labelledStrings.directSupertypes ValueType.objectName = [] := rfl
  obtain ⟨references, -, composes, -, -⟩ := assignability labelledStrings top
  have string_label := (references .string (.nominal labelName) _ _ rfl rfl).2
    (.inr (.inr (.single (by decide))))
  have label_text := (references (.nominal labelName) (.nominal textName) _ _ rfl rfl).2
    (.inr (.inr (.single (by decide))))
  have string_text := composes .string (.nominal labelName) (.nominal textName) string_label
    label_text (by decide)
  refine ⟨top, string_label, label_text, string_text, ?_⟩
  have stays : ∀ q, Relation.TransGen (fun a b => b ∈ labelledStrings.directSupertypes a)
      ValueType.stringName q → q = labelName ∨ q = textName := by
    intro q chain
    induction chain with
    | single above => exact .inl (List.mem_singleton.1 above)
    | tail _ above ih =>
      rcases ih with rfl | rfl
      · exact .inr (List.mem_singleton.1 above)
      · exact .inl (List.mem_singleton.1 above)
  intro string_sequence
  rcases (references .string _ _ _ rfl rfl).1 string_sequence with root | same | chain
  · exact absurd root (by decide)
  · exact absurd same (by decide)
  · exact absurd (stays _ chain) (by decide)

end Registry

end DefaultArgs
