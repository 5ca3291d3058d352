import DefaultArgs.Diagnostic
import DefaultArgs.Spelling
import DefaultArgs.Symbol

/-!
# References

A reference is read from its text and resolved to the member that it means.

## Main definitions

* `Reference`: a member's name and its qualifier
* `splitLastDot text`: the text cut at its last full stop
* `Reference.parse text`: the reference that a text spells
* `SymbolTable.defect? s m`: the first condition that a member fails
* `SymbolTable.targetScope`: the scope that a reference is resolved in
* `SymbolTable.verdict? s members`: whether some member of the right name passes
* `SymbolTable.resolve`: the expression that a reference stands for
-/

namespace DefaultArgs

/-! ## Reading references

A reference is a member's name, preceded by the dotted name of its scope if the member belongs to
another scope than the one that the reference stands in. It is cut at its last full stop.
-/

/-- A member's name and the scope it is qualified with. -/
structure Reference where
  /-- The dotted name of the scope, if it is given. -/
  qualifier : Option String
  member : String
deriving DecidableEq, Repr

/-- The text before the last full stop, if there is one, and the text after it. -/
def splitLastDot (text : List Char) : Option (List Char) × List Char :=
  match text with
  | [] => (none, [])
  | c :: rest =>
    match splitLastDot rest with
    | (some before, after) => (some (c :: before), after)
    | (none, after) => if c = '.' then (some [], after) else (none, c :: after)

/-- The reference that a text spells. A qualifier without any character counts as none. -/
def Reference.parse (text : String) : Except ReferenceError Reference :=
  if text = "" then .error .emptyReference
  else
    match splitLastDot text.toList with
    | (none, _) => .ok ⟨none, text⟩
    | (some _, []) => .error (.emptyMemberName text)
    | (some [], member) => .ok ⟨none, String.ofList member⟩
    | (some qualifier, member) => .ok ⟨some (String.ofList qualifier), String.ofList member⟩

/-! ## Resolving references

A reference is resolved in the scope that its qualifier names, or in the scope it stands in if it
has none. The member has to be static, a method has to take no arguments and to return a value, and
the value has to fit the type that is expected. Private members of other scopes do not exist for a
reference. A field is the first one of its name; of several methods of one name, any that passes
will do.
-/

/-- What a reference is expected to mean: the member that it names, its kind and its type. -/
structure Sought where
  use : MemberUse
  kind : ReferenceKind
  expected : ValueType
deriving DecidableEq, Repr

namespace SymbolTable

variable (table : SymbolTable)

/-- The first condition that a member of the right kind and name fails. -/
def defect? (s : Sought) (m : Member) : Option ReferenceError :=
  if ¬m.isStatic then some (.notStatic s.use s.kind)
  else if s.kind = .factory ∧ m.parameterCount ≠ 0 then
    some (.takesArguments s.use m.parameterCount)
  else if s.kind = .factory ∧ m.valueType = .void then some (.voidReturn s.use)
  else if ¬table.isAssignable m.valueType s.expected then
    some (.typeMismatch s.use s.kind m.valueType s.expected)
  else none

/-- The member fails no condition. -/
def passes (s : Sought) (m : Member) : Bool :=
  (table.defect? s m).isNone

/-- The scope that a reference is resolved in, seen from the scope that it stands in. A qualifier
is an absolute name, or else a name relative to the namespace of that scope. -/
def targetScope (owner : QualifiedName) (text : String) (reference : Reference) :
    Except ReferenceError QualifiedName :=
  match reference.qualifier with
  | none => .ok owner
  | some qualifier =>
    match (table.scopeAt? qualifier).or (table.scopeFrom? owner.enclosing qualifier) with
    | some scope => .ok scope.name
    | none => .error (.unknownScope text qualifier owner.name)

/-- The members of a scope that a reference in another scope can mean. -/
def visibleMembers (owner scope : QualifiedName) : List Member :=
  (table.membersOf scope).filter fun m => scope = owner || !m.isPrivate

/-- The member whose defect is reported if no member passes: the first one, but of methods the
first that takes no arguments if there is any. -/
def reported? (kind : ReferenceKind) (named : List Member) : Option Member :=
  match kind with
  | .field => named.head?
  | .factory => (named.find? (·.parameterCount = 0)).or named.head?

/-- Whether a member of the right kind and name passes, or the defect that is reported. There is no
verdict if no member has the kind and the name. -/
def verdict? (s : Sought) (members : List Member) : Option (Except ReferenceError Unit) :=
  let named := members.filter fun m => s.kind.fits m && m.name = s.use.member
  (reported? s.kind named).map fun m =>
    if s.kind = .factory ∧ named.any (table.passes s) then .ok ()
    else
      match table.defect? s m with
      | some defect => .error defect
      | none => .ok ()

/-- The names that a reference of a kind could have meant, each of them once. -/
def candidates (kind : ReferenceKind) (members : List Member) : List String :=
  ((members.filter kind.usable).map Member.name).eraseDups

/-- The error for a member that the scope does not have. -/
def missing (s : Sought) (members : List Member) : ReferenceError :=
  let names := candidates s.kind members
  .notFound s.use s.kind (likelySpelling? s.use.member names) names

/-- A member of the scope that a reference without qualifier stands in is tried directly. -/
def ownMemberPasses (s : Sought) (owner : QualifiedName) (reference : Reference) : Bool :=
  reference.qualifier.isNone &&
    (table.memberOf? owner s.use.member).any fun m => s.kind.fits m && table.passes s m

/-- The expression that a reference stands for in the scope of the given owner. -/
def resolve (kind : ReferenceKind) (expected : ValueType) (owner : QualifiedName) (text : String) :
    Except ReferenceError Expression := do
  let reference ← Reference.parse text
  let scope ← table.targetScope owner text reference
  let s : Sought := ⟨⟨text, reference.member, scope.name⟩, kind, expected⟩
  let path := scope.child reference.member
  if table.ownMemberPasses s owner reference then
    .ok (kind.expression path)
  else
    let members := table.visibleMembers owner scope
    match table.verdict? s members with
    | some (.ok ()) => .ok (kind.expression path)
    | some (.error defect) => .error defect
    | none => .error (missing s members)

end SymbolTable

end DefaultArgs
