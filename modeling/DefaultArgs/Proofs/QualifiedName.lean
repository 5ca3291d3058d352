import DefaultArgs.QualifiedName
import DefaultArgs.Registry.Table
import Mathlib.Logic.ExistsUnique

/-!
# Names and their dotted forms

A name is written with full stops between its segments, and read from such a text.

## Main definitions

* `QualifiedName.IsSpellable q`: the dotted form spells the name
* `Text.CutInto text parts`: the parts between the full stops of a text

## Main results

* `splitDots_joinDots`: segments without full stops are read back
* `QualifiedName.pathOf_display`, `QualifiedName.parse_display`: a spellable name is read back
* `Text.existsUnique_cutInto`: a text is cut in one way
* `QualifiedName.parse_display_eq_iff`: the names that are read back
* `QualifiedName.parse_display_child_iff`: the paths of members that are read back
* `Registry.absolute?_display`: absolute look-up by a dotted form finds the scope of the name
* `QualifiedName.dottedForm_exact`: names and dotted forms correspond exactly
-/

namespace DefaultArgs

/-! ## Names that their dotted form spells

A dotted text is cut at every full stop, and empty segments are dropped. A name is read back from
its dotted form if neither can happen to its own segments: none of them is empty or has a full stop
in it.
-/

namespace Text

theorem cut_eq_splitOn (text : List Char) : cut text = text.splitOn '.' := by
  unfold List.splitOn
  induction text with
  | nil => rfl
  | cons c rest ih =>
    rw [cut, List.splitOnP_cons_eq_if_modifyHead, ih]
    by_cases dot : c = '.'
    · simp [dot]
    · simp [dot]

/-- Segments without full stops are read back. -/
theorem splitDots_joinDots {parts : List String} (nonempty : parts ≠ [])
    (dotFree : ∀ s ∈ parts, '.' ∉ s.toList) : splitDots (joinDots parts) = parts := by
  have joined : (joinDots parts).toList = ['.'].intercalate (parts.map String.toList) :=
    String.toList_intercalate
  have segments : cut (joinDots parts).toList = parts.map String.toList := by
    rw [joined, cut_eq_splitOn]
    apply List.splitOn_intercalate
    · exact List.forall_mem_map.2 dotFree
    · simpa using nonempty
  rw [splitDots, segments, List.map_map]
  simp [Function.comp_def]

end Text

namespace QualifiedName

/-- Every segment of the name is non-empty and free of full stops. -/
def IsSpellable (q : QualifiedName) : Prop :=
  ∀ s ∈ q.segments, s ≠ "" ∧ '.' ∉ s.toList

instance (q : QualifiedName) : Decidable q.IsSpellable :=
  inferInstanceAs (Decidable (∀ s ∈ q.segments, s ≠ "" ∧ '.' ∉ s.toList))

/-- The dotted form of a name that was read joins the segments that were kept. -/
theorem display_parse (text : String) : (parse text).display = Text.joinDots (pathOf text) := by
  rw [parse]
  by_cases nothing : pathOf text = []
  · rw [nothing]
    rfl
  · rw [display_eq, segments_ofSegments nothing]

variable {q : QualifiedName}

theorem IsSpellable.name_ne (spellable : q.IsSpellable) : q.name ≠ "" := by
  have last : q.name ∈ q.segments := by simp [segments]
  exact (spellable _ last).1

variable (spellable : q.IsSpellable)

include spellable

/-- **The segments of a spellable name are read back.** -/
theorem pathOf_display : pathOf q.display = q.segments := by
  have nonempty : q.segments ≠ [] := by simp [segments]
  rw [pathOf, display_eq, Text.splitDots_joinDots nonempty fun s mem => (spellable s mem).2]
  exact List.filter_eq_self.2 fun s mem => by simpa using (spellable s mem).1

theorem parse_display : parse q.display = q := by
  rw [parse, pathOf_display spellable, ofSegments_segments]

/-- The dotted form of a spellable name is not empty: the empty text has no segments. -/
theorem display_ne_empty : q.display ≠ "" := by
  intro empty
  have segments := pathOf_display spellable
  rw [empty] at segments
  have none : pathOf "" = [] := by decide
  simp [none, QualifiedName.segments] at segments

end QualifiedName

/-! ## Reading a dotted form

A text can be cut at its full stops in one way only, and a name is read from the parts that are not
empty. So what is read is spellable, or it is the empty name if no part is left, and these are also
the names that their dotted forms bring back. Such a name is therefore known from its dotted form.
Nothing else is given to what finds a type by its name: the identity of a type and absolute look-up
start from the dotted form, and two names that were read give them the same text only if they are
equal.

Names can also be put together without being read. A full stop within a segment then looks like one
between segments, and an empty segment is dropped, so another name is read back.
-/

namespace Text

/-- The parts are what stands between the full stops of the text. -/
structure CutInto (text : String) (parts : List String) : Prop where
  nonempty : parts ≠ []
  dotFree : ∀ part ∈ parts, '.' ∉ part.toList
  joined : joinDots parts = text

theorem not_dot_mem_of_mem_cut {text part : List Char} (mem : part ∈ cut text) : '.' ∉ part := by
  induction text generalizing part with
  | nil =>
    obtain rfl := List.mem_singleton.1 mem
    exact List.not_mem_nil
  | cons c rest ih =>
    rw [cut] at mem
    split at mem
    · obtain rfl | mem := List.mem_cons.1 mem
      · exact List.not_mem_nil
      · exact ih mem
    · next other =>
      obtain ⟨first, more, cutRest⟩ := List.exists_cons_of_ne_nil (cut_ne_nil rest)
      rw [cutRest] at ih
      rw [cutRest, List.modifyHead_cons] at mem
      obtain rfl | mem := List.mem_cons.1 mem
      · exact List.not_mem_cons_of_ne_of_not_mem (Ne.symm other) (ih List.mem_cons_self)
      · exact ih (List.mem_cons_of_mem first mem)

theorem cutInto_splitDots (text : String) : CutInto text (splitDots text) where
  nonempty := splitDots_ne_nil text
  dotFree := by
    rw [splitDots]
    refine List.forall_mem_map.2 fun part mem => ?_
    rw [String.toList_ofList]
    exact not_dot_mem_of_mem_cut mem
  joined := joinDots_splitDots text

variable {text : String} {parts : List String}

theorem CutInto.splitDots_eq (h : CutInto text parts) : splitDots text = parts := by
  rw [← h.joined, splitDots_joinDots h.nonempty h.dotFree]

/-- **A text is cut in one way.** -/
theorem existsUnique_cutInto (text : String) : ∃! parts, CutInto text parts :=
  ⟨splitDots text, cutInto_splitDots text, fun _ h => h.splitDots_eq.symm⟩

end Text

namespace QualifiedName

variable {q : QualifiedName} {text text' name : String} {parts : List String}

/-- The dotted form of a name that was read is the text without its empty parts. -/
theorem display_parse_of_cutInto (h : Text.CutInto text parts) :
    (parse text).display = Text.joinDots (parts.filter (· ≠ "")) := by
  rw [display_parse, pathOf, h.splitDots_eq]

/-- What is read from a text is the empty name or a spellable one. The parts that are kept are not
empty, and cutting leaves no full stop in any of them. -/
theorem parse_eq_or_isSpellable (text : String) :
    parse text = global "" ∨ (parse text).IsSpellable := by
  by_cases nothing : pathOf text = []
  · left
    rw [parse, nothing]
    rfl
  · right
    intro s mem
    rw [parse, segments_ofSegments nothing] at mem
    obtain ⟨part, kept⟩ := List.mem_filter.1 mem
    exact ⟨of_decide_eq_true kept, (Text.cutInto_splitDots text).dotFree s part⟩

/-- **The names that are read back** from their dotted forms are the empty name and the spellable
ones, the same that can be read at all. -/
theorem parse_display_eq_iff : parse q.display = q ↔ q = global "" ∨ q.IsSpellable := by
  constructor
  · intro same
    have read := parse_eq_or_isSpellable q.display
    rwa [same] at read
  · rintro (rfl | spellable)
    · decide
    · exact parse_display spellable

/-- The form `com.acme.Server` also belongs to a name with a full stop in a segment. -/
example : parse (display ⟨"acme.Server", ["com"]⟩) = ⟨"Server", ["com", "acme"]⟩ := by decide

theorem parse_display_parse (text : String) : parse (parse text).display = parse text :=
  parse_display_eq_iff.2 (parse_eq_or_isSpellable text)

theorem parse_eq_of_display_eq (same : (parse text).display = (parse text').display) :
    parse text = parse text' := by
  rw [← parse_display_parse text, same, parse_display_parse text']

theorem isSpellable_iff : q.IsSpellable ↔ parse q.display = q ∧ q ≠ global "" := by
  constructor
  · intro spellable
    refine ⟨parse_display spellable, fun empty => ?_⟩
    exact spellable.name_ne (congrArg QualifiedName.name empty)
  · rintro ⟨same, nonempty⟩
    exact (parse_display_eq_iff.1 same).resolve_left nonempty

theorem isSpellable_child_iff :
    (q.child name).IsSpellable ↔ q.IsSpellable ∧ name ≠ "" ∧ '.' ∉ name.toList := by
  simp only [IsSpellable, segments_child, List.forall_mem_append, List.forall_mem_singleton]

/-- **The path of a member is read back** if the path of its scope is, without being empty, and the
member's own name is non-empty and free of full stops, and only then. -/
theorem parse_display_child_iff : parse (q.child name).display = q.child name ↔
    (parse q.display = q ∧ q ≠ global "") ∧ name ≠ "" ∧ '.' ∉ name.toList := by
  have inside : q.child name ≠ global "" := by
    intro empty
    have path : q.segments = [] := congrArg enclosing empty
    simp [segments] at path
  rw [parse_display_eq_iff, or_iff_right inside, isSpellable_child_iff, isSpellable_iff]

end QualifiedName

namespace Registry

variable (r : Registry) {q : QualifiedName}

/-- **Absolute look-up by a dotted form finds the scope of the name**, if the form spells it. -/
theorem absolute?_display (spellable : q.IsSpellable) : r.absolute? q.display = r.entry? q := by
  rw [absolute?, QualifiedName.parse_display spellable]
  exact if_neg spellable.name_ne

theorem absolute?_display_parse (text : String) :
    r.absolute? (QualifiedName.parse text).display =
      if QualifiedName.parse text = .global "" then none
      else r.entry? (QualifiedName.parse text) := by
  split
  · next empty =>
    rw [empty]
    rfl
  · next nonempty =>
    have spellable := (QualifiedName.parse_eq_or_isSpellable text).resolve_left nonempty
    exact r.absolute?_display spellable

end Registry

namespace QualifiedName

/-- **Names and dotted forms correspond exactly.** A name is read back from its dotted form if it is
the empty name or all its segments are non-empty and free of full stops, and only then. A text has
one sequence of parts between its full stops, and the name that is read from it has the non-empty
parts as its dotted form, from which the same name is read again. So two names that were read are
equal if they have one dotted form. This form is all that the identity of a type is made from, and
absolute look-up by it finds the scope of the very name. The path of a member is read back if that
of its scope is, without being empty, and the member's name is non-empty and free of full stops, and
only then. -/
theorem dottedForm_exact :
    (∀ q : QualifiedName, parse q.display = q ↔
        q = global "" ∨ ∀ s ∈ q.enclosing ++ [q.name], s ≠ "" ∧ '.' ∉ s.toList) ∧
      (∀ text, (∃! parts, Text.CutInto text parts) ∧
        (∀ parts, Text.CutInto text parts →
          (parse text).display = Text.joinDots (parts.filter (· ≠ ""))) ∧
        parse (parse text).display = parse text) ∧
      (∀ text text', (parse text).display = (parse text').display → parse text = parse text') ∧
      (∀ q : QualifiedName, q.identity = Identity.ofName q.display) ∧
      (∀ (r : Registry) text, r.absolute? (parse text).display =
        if parse text = global "" then none else r.entry? (parse text)) ∧
      ∀ (q : QualifiedName) name, parse (q.child name).display = q.child name ↔
        (parse q.display = q ∧ q ≠ global "") ∧ name ≠ "" ∧ '.' ∉ name.toList := by
  refine ⟨fun q => parse_display_eq_iff, fun text => ⟨Text.existsUnique_cutInto text, ?_, ?_⟩,
    ?_, fun q => rfl, fun r => r.absolute?_display_parse, fun q name => parse_display_child_iff⟩
  · exact fun parts => display_parse_of_cutInto
  · exact parse_display_parse text
  · exact fun text text' => parse_eq_of_display_eq

/-- Full stops in front, behind and next to each other leave no trace in the name that is read. -/
theorem dottedForm_exact_strayStops :
    Text.CutInto ".com..acme.Server." ["", "com", "", "acme", "Server", ""] ∧
      (parse ".com..acme.Server.").display = "com.acme.Server" ∧
      parse ".com..acme.Server." = parse "com.acme.Server" := by
  have parts : Text.CutInto ".com..acme.Server." ["", "com", "", "acme", "Server", ""] :=
    ⟨by decide, by decide, by decide⟩
  obtain ⟨-, removed, equal, -⟩ := dottedForm_exact
  have form : (parse ".com..acme.Server.").display = "com.acme.Server" := by
    rw [(removed ".com..acme.Server.").2.1 _ parts]
    decide
  have plain : (parse "com.acme.Server").display = "com.acme.Server" := by decide
  exact ⟨parts, form, equal _ _ (form.trans plain.symm)⟩

end QualifiedName

end DefaultArgs
