import DefaultArgs.Identity
import DefaultArgs.Text.Segments

/-!
# Qualified names

A qualified name is a simple name inside a namespace, which is a list of segments from the root
outwards. Its dotted form joins the namespace and the simple name with full stops. Reading a dotted
form drops empty segments, so not every name is read back from its dotted form: the segments have
to be non-empty and free of full stops.

## Main definitions

* `QualifiedName`: a simple name and its namespace
* `QualifiedName.parse text`: the name that a dotted text spells
* `QualifiedName.display q`: the dotted form
* `QualifiedName.child q name`: the name of a member of `q`
* `QualifiedName.sortDistinct names`: names in ascending order without repetitions

## Main results

* `display_eq`: the dotted form joins all segments
-/

namespace DefaultArgs

/-- A simple name and the namespace that encloses it. -/
structure QualifiedName where
  /-- The simple name, the last segment. -/
  name : String
  /-- The segments of the namespace, from the root outwards. -/
  enclosing : List String
deriving DecidableEq, Repr, Inhabited

namespace QualifiedName

/-- A name outside every namespace. -/
def global (name : String) : QualifiedName :=
  ⟨name, []⟩

/-- All segments of a name, the simple name last. -/
def segments (q : QualifiedName) : List String :=
  q.enclosing ++ [q.name]

/-- The name whose segments are given; no segments give the empty name. -/
def ofSegments (segments : List String) : QualifiedName :=
  match segments.getLast? with
  | some name => ⟨name, segments.dropLast⟩
  | none => global ""

/-- The segments of a dotted text that are not empty. -/
def pathOf (text : String) : List String :=
  (Text.splitDots text).filter (· ≠ "")

/-- The name that a dotted text spells; its empty segments are dropped. -/
def parse (text : String) : QualifiedName :=
  ofSegments (pathOf text)

/-- The dotted form of the namespace. -/
def namespaceString (q : QualifiedName) : String :=
  Text.joinDots q.enclosing

/-- The dotted form of the whole name. -/
def display (q : QualifiedName) : String :=
  if q.enclosing = [] then q.name else q.namespaceString ++ "." ++ q.name

instance : ToString QualifiedName := ⟨display⟩

/-- The name of a member of `q`. -/
def child (q : QualifiedName) (name : String) : QualifiedName :=
  ⟨name, q.segments⟩

/-- The identity of the type of this name. -/
def identity (q : QualifiedName) : Identity :=
  Identity.ofName q.display

/-- Names are ordered by their simple names first and by their namespaces second. -/
def precedes (a b : QualifiedName) : Bool :=
  a.name < b.name || (a.name = b.name && !b.enclosing.lex a.enclosing)

/-- The names in ascending order, each of them once. -/
def sortDistinct (names : List QualifiedName) : List QualifiedName :=
  (names.mergeSort precedes).eraseReps

@[simp] theorem segments_ofSegments {segments : List String} (h : segments ≠ []) :
    (ofSegments segments).segments = segments := by
  rw [ofSegments, List.getLast?_eq_some_getLast h]
  exact List.dropLast_concat_getLast h

@[simp] theorem ofSegments_segments (q : QualifiedName) : ofSegments q.segments = q := by
  simp [ofSegments, segments]

@[simp] theorem segments_child (q : QualifiedName) (name : String) :
    (q.child name).segments = q.segments ++ [name] := rfl

/-- The dotted form joins all segments. -/
theorem display_eq (q : QualifiedName) : q.display = Text.joinDots q.segments := by
  unfold display segments namespaceString Text.joinDots
  split
  · next h => simp [h]
  · next h => simp [String.intercalate_append_of_ne_nil h]

end QualifiedName

end DefaultArgs
