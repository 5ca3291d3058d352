import DefaultArgs.Companion

/-!
# Conventional names

A member of a companion serves as a default by its name: a static field whose name is `DEFAULT_` in
any case and something more, or a static factory method whose name is `default` and something more.

The name of a field is tested by its first eight bytes, and a name may have characters of several
bytes. The test cuts the name only where a character begins: if the eighth byte is inside of
a character, there is no cut before it, and the test ends.

## Main definitions

* `Member.Serves m companion key d`: a member serves as a default for a key
* `cutAtByte? text byte`: the two parts of a text, if it can be cut at a byte
* `fieldStemByBytes? name`: the test of a field's name by its bytes

## Main results

* `fieldStem?_eq_some_iff`, `factoryStem?_eq_some_iff`: the conventional names
* `toDefault?_eq_some_iff`: the members that serve as defaults
* `fieldStemByBytes?_eq`: no cut is inside of a character
-/

namespace DefaultArgs

variable {name stem lead rest : String} {m : Member} {companion : QualifiedName} {key : String}
  {d : CompanionDefault} {byte : Nat}

section Members

/-- **A member serves as a default for a key**: a static field named `DEFAULT_…` in any case, or
a static method without parameters that returns a value, named `default…`. The key is that of the
rest of the name. The default is the path of the member below the companion, of its kind and with
its type. -/
inductive Member.Serves (m : Member) (companion : QualifiedName) (key : String) :
    CompanionDefault → Prop
  | field {lead stem : String} (field : m.kind = .field) (static : m.isStatic)
      (named : m.name = lead ++ stem) (conventional : lead.map Char.toLower = "default_")
      (more : stem ≠ "") (keyed : defaultKey stem = key) :
      Serves m companion key
        ⟨key, .field (companion.child m.name), m.name, .field, m.valueType⟩
  | factory {stem : String} (method : m.kind = .method) (static : m.isStatic)
      (bare : m.parameterCount = 0) (returns : m.valueType ≠ .void)
      (named : m.name = "default" ++ stem) (more : stem ≠ "") (keyed : defaultKey stem = key) :
      Serves m companion key
        ⟨key, .factory (companion.child m.name), m.name, .factory, m.valueType⟩

theorem fieldStem?_eq_some_iff : fieldStem? name = some stem ↔
    ∃ lead, name = lead ++ stem ∧ lead.map Char.toLower = "default_" ∧ stem ≠ "" := by
  unfold fieldStem?
  rw [List.splitAt_eq]
  dsimp only
  constructor
  · intro tested
    split at tested
    · next conventional =>
      obtain rfl := Option.some.inj tested
      refine ⟨String.ofList (name.toList.take 8), ?_, ?_, ?_⟩
      · rw [← String.ofList_append, List.take_append_drop, String.ofList_toList]
      · rw [← String.toList_inj, String.toList_map, String.toList_ofList]
        exact conventional.1
      · rw [ne_eq, String.ofList_eq_empty_iff]
        exact conventional.2
    · cases tested
  · rintro ⟨lead, rfl, conventional, more⟩
    have lowered : lead.toList.map Char.toLower = "default_".toList := by
      rw [← String.toList_map, conventional]
    have length : lead.toList.length = 8 := by
      rw [← List.length_map (f := Char.toLower), lowered]
      rfl
    rw [String.toList_append, List.take_left' length, List.drop_left' length,
      if_pos ⟨lowered, fun empty => more (String.toList_eq_nil_iff.1 empty)⟩,
      String.ofList_toList]

theorem factoryStem?_eq_some_iff :
    factoryStem? name = some stem ↔ name = "default" ++ stem ∧ stem ≠ "" := by
  have split : name = "default" ++ stem ↔
      Text.after? "default".toList name.toList = some stem.toList := by
    rw [Text.after?_eq_some_iff, ← String.toList_append, String.toList_inj]
  rw [split, ne_eq, ← String.toList_eq_nil_iff]
  unfold factoryStem?
  constructor
  · intro tested
    split at tested
    · cases tested
    · cases tested
    · next rest more found =>
      obtain rfl := Option.some.inj tested
      have same : (String.ofList rest).toList = rest := String.toList_ofList
      rw [same]
      exact ⟨found, more⟩
  · rintro ⟨found, more⟩
    rw [found]
    split
    · next none => cases none
    · next empty => exact absurd (Option.some.inj empty) more
    · next same => rw [← Option.some.inj same, String.ofList_toList]

theorem Member.conventional?_eq_some_iff {kind : ReferenceKind} :
    m.conventional? = some (kind, stem) ↔
      kind = .field ∧ m.isStaticField ∧ fieldStem? m.name = some stem ∨
      kind = .factory ∧ m.isStaticFactory ∧ factoryStem? m.name = some stem := by
  have tagged {kind' : ReferenceKind} {stem? : Option String} :
      stem?.map (kind', ·) = some (kind, stem) ↔ kind = kind' ∧ stem? = some stem := by
    cases stem? <;> simp [eq_comm]
  unfold conventional?
  split
  · next static =>
    have other : m.isStaticFactory = false := by
      simp_all [isStaticField, isField, isStaticFactory, isMethod]
    simp [tagged, static, other]
  · next other =>
    split
    · next static => simp [tagged, static, other]
    · next neither => simp [neither, other]

/-- **The members that serve as defaults** are those with conventional names. -/
theorem Member.toDefault?_eq_some_iff :
    m.toDefault? companion = some d ∧ d.key = key ↔ m.Serves companion key d := by
  rw [toDefault?, Option.map_eq_some_iff]
  constructor
  · rintro ⟨⟨⟨kind, stem⟩, conventional, rfl⟩, rfl⟩
    rcases conventional?_eq_some_iff.1 conventional with
      ⟨rfl, static, tested⟩ | ⟨rfl, static, tested⟩
    · obtain ⟨lead, named, lowered, more⟩ := fieldStem?_eq_some_iff.1 tested
      simp only [isStaticField, isField, Bool.and_eq_true, decide_eq_true_eq] at static
      exact .field static.1 static.2 named lowered more rfl
    · obtain ⟨named, more⟩ := factoryStem?_eq_some_iff.1 tested
      simp only [isStaticFactory, isMethod, Bool.and_eq_true, decide_eq_true_eq] at static
      obtain ⟨⟨⟨method, static⟩, bare⟩, returns⟩ := static
      exact .factory method static bare returns named more rfl
  · intro serves
    cases serves with
    | @field lead stem field static named lowered more keyed =>
      refine ⟨⟨(.field, stem), conventional?_eq_some_iff.2 (.inl ⟨rfl, ?_, ?_⟩), ?_⟩, rfl⟩
      · simp [isStaticField, isField, field, static]
      · exact fieldStem?_eq_some_iff.2 ⟨_, named, lowered, more⟩
      · subst keyed
        rfl
    | @factory stem method static bare returns named more keyed =>
      refine ⟨⟨(.factory, stem), conventional?_eq_some_iff.2 (.inr ⟨rfl, ?_, ?_⟩), ?_⟩, rfl⟩
      · simp [isStaticFactory, isMethod, method, static, bare, returns]
      · exact factoryStem?_eq_some_iff.2 ⟨named, more⟩
      · subst keyed
        rfl

end Members

section Cuts

/-- The texts before a byte and from this byte on; none if the byte is inside of a character or
behind the end. -/
def cutAtByte? (text : String) (byte : Nat) : Option (String × String) :=
  if between : String.Pos.Raw.IsValid text ⟨byte⟩ then
    let place : text.Pos := ⟨⟨byte⟩, between⟩
    some ((text.sliceTo place).copy, (text.sliceFrom place).copy)
  else none

/-- The rest of a field's name, tested by the bytes of the name. The lead is cut out first, and
a name that has no cut behind its eighth byte is not conventional. Then the rest is cut out; the
result is none if this second cut is inside of a character. -/
def fieldStemByBytes? (name : String) : Option (Option String) :=
  match (cutAtByte? name 8).map Prod.fst with
  | none => some none
  | some lead => do
    let stem ← (cutAtByte? name 8).map Prod.snd
    some (if lead.map Char.toLower = "default_" ∧ stem ≠ "" then some stem else none)

/-- A text is cut where some characters of it end. -/
theorem cutAtByte?_eq_some_iff : cutAtByte? name byte = some (lead, rest) ↔
    name = lead ++ rest ∧ lead.utf8ByteSize = byte := by
  unfold cutAtByte?
  constructor
  · intro cut
    split at cut
    · next between =>
      cases cut
      have splits := String.Pos.splits ⟨⟨byte⟩, between⟩
      exact ⟨splits.eq_append, (congrArg String.Pos.Raw.byteIdx splits.offset_eq_rawEndPos).symm⟩
    · cases cut
  · rintro ⟨rfl, rfl⟩
    have between : String.Pos.Raw.IsValid (lead ++ rest) ⟨lead.utf8ByteSize⟩ :=
      String.Pos.Raw.isValid_iff_exists_append.2 ⟨lead, rest, rfl, rfl⟩
    have splits : String.Pos.Splits ⟨⟨lead.utf8ByteSize⟩, between⟩ lead rest := ⟨rfl, rfl⟩
    rw [dif_pos between]
    simp only [splits.copy_sliceTo_eq, splits.copy_sliceFrom_eq]

/-- A character and its lowercase form have the same size, if only the capital letters from `A` to
`Z` have a lowercase form. Both are single bytes then. -/
theorem utf8Size_toLower (c : Char) : c.toLower.utf8Size = c.utf8Size := by
  unfold Char.toLower
  split
  · next capital =>
    have range : 65 ≤ c.val.toNat ∧ c.val.toNat ≤ 90 := by
      simp only [ge_iff_le, UInt32.le_iff_toNat_le] at capital
      exact capital
    have single : c.utf8Size = 1 := by
      rw [Char.utf8Size_eq_one_iff, UInt32.le_iff_toNat_le]
      exact Nat.le_trans range.2 (by decide)
    have shift : ('a'.val - 'A'.val).toNat = 32 := by decide
    have last : (127 : UInt32).toNat = 127 := by decide
    rw [single, Char.utf8Size_eq_one_iff, UInt32.le_iff_toNat_le, UInt32.toNat_add]
    omega
  · rfl

theorem utf8ByteSize_map_toLower (text : String) :
    (text.map Char.toLower).utf8ByteSize = text.utf8ByteSize := by
  suffices sizes : ∀ cs : List Char, (String.ofList (cs.map Char.toLower)).utf8ByteSize =
      (String.ofList cs).utf8ByteSize by
    rw [← String.ofList_toList (s := text.map Char.toLower), String.toList_map, sizes,
      String.ofList_toList]
  intro cs
  induction cs with
  | nil => rfl
  | cons c rest ih =>
    rw [List.map_cons, String.ofList_cons, String.ofList_cons, String.utf8ByteSize_append,
      String.utf8ByteSize_append, String.utf8ByteSize_singleton, String.utf8ByteSize_singleton,
      utf8Size_toLower, ih]

/-- The conventional lead of a name has eight bytes. -/
theorem utf8ByteSize_lead (lowered : lead.map Char.toLower = "default_") :
    lead.utf8ByteSize = 8 := by
  rw [← utf8ByteSize_map_toLower, lowered]
  rfl

/-- **No cut is inside of a character**, and the test by bytes is the test by characters. A text has
only one cut behind eight bytes, and a conventional name can be cut behind its lead. -/
theorem fieldStemByBytes?_eq (name : String) :
    fieldStemByBytes? name = some (fieldStem? name) := by
  unfold fieldStemByBytes?
  cases cut : cutAtByte? name 8 with
  | none =>
    cases tested : fieldStem? name with
    | none => rfl
    | some stem =>
      obtain ⟨lead, rfl, lowered, -⟩ := fieldStem?_eq_some_iff.1 tested
      rw [cutAtByte?_eq_some_iff.2 ⟨rfl, utf8ByteSize_lead lowered⟩] at cut
      cases cut
  | some parts =>
    obtain ⟨lead, rest⟩ := parts
    simp only [Option.map_some, Option.bind_eq_bind, Option.bind_some, Option.some.injEq]
    refine Option.ext fun stem => ?_
    rw [fieldStem?_eq_some_iff]
    constructor
    · intro tested
      split at tested
      · next conventional =>
        cases tested
        exact ⟨lead, (cutAtByte?_eq_some_iff.1 cut).1, conventional⟩
      · cases tested
    · rintro ⟨lead', rfl, lowered, more⟩
      rw [cutAtByte?_eq_some_iff.2 ⟨rfl, utf8ByteSize_lead lowered⟩] at cut
      cases cut
      rw [if_pos ⟨lowered, more⟩]

/-- The eighth byte of a name can be inside of a character. -/
example : fieldStemByBytes? "DEFAULTÉ_PORT" = some none := by
  rw [fieldStemByBytes?_eq]
  decide

end Cuts

end DefaultArgs
