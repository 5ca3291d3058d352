import DefaultArgs.Callable
import DefaultArgs.Default.Declared
import DefaultArgs.Symbol
import DefaultArgs.Text.Case
import DefaultArgs.Text.Segments

/-!
# Companions

Defaults for a type that cannot be annotated are members of a companion scope. They are collected by
their names, they decide which constructor is used, and they fill its parameters.

## Main definitions

* `defaultKey name`: the key of a name
* `CompanionDefault`: a member of a companion that serves as a default
* `CompanionDefaults`: the defaults of a companion, grouped by their keys
* `insert`, `keys`, `contributors`, `get?`: the operations on them
* `fieldStem?`, `factoryStem?`: the rest of a conventional name
* `Member.toDefault? companion m`: the default that a member serves as
* `SymbolTable.companionDefaults companion`: the defaults of a companion
* `CompanionDefaults.matched ds c`: how many parameters have a companion default
* `CompanionDefaults.choose? ds candidates`: the chosen constructor
* `SymbolTable.fillParameter`: a parameter with its default, and what is reported of it
* `CompanionDefaults.unmatched`: the warnings for defaults that belong to no parameter
* `SymbolTable.fill`: all parameters, and everything that is reported
-/

namespace DefaultArgs

/-! ## Companion defaults

Defaults for types that cannot be annotated are found by the names of the members of a companion
scope. A name is reduced to a key, without underscores and in lowercase, and defaults are collected
by their keys. Every contribution to a key is kept; the last one is bound, and a key with several is
ambiguous.
-/

/-- The key of a name: its characters without underscores, each in lowercase. -/
def defaultKey (name : String) : String :=
  String.ofList ((name.toList.filter (· ≠ '_')).flatMap Text.lower)

/-- A member of a companion that serves as a default. -/
structure CompanionDefault where
  key : String
  expression : Expression
  /-- The member's name as declared. -/
  memberName : String
  kind : ReferenceKind
  /-- The type of a field, or the result type of a method. -/
  valueType : ValueType
deriving DecidableEq

/-- The defaults of a companion scope. -/
structure CompanionDefaults where
  companion : QualifiedName
  /-- The defaults of every key in the order of their insertion; the keys in the order of their
  first one. -/
  groups : List (String × List CompanionDefault)
deriving DecidableEq

namespace CompanionDefaults

/-- No defaults of a companion. -/
def empty (companion : QualifiedName) : CompanionDefaults :=
  ⟨companion, []⟩

/-- Add a default to the group of its key, or in a new group behind all others. -/
def insertInto (d : CompanionDefault) :
    List (String × List CompanionDefault) → List (String × List CompanionDefault)
  | [] => [(d.key, [d])]
  | (key, group) :: rest =>
    if key = d.key then (key, group ++ [d]) :: rest else (key, group) :: insertInto d rest

/-- Add a default. -/
def insert (ds : CompanionDefaults) (d : CompanionDefault) : CompanionDefaults :=
  { ds with groups := insertInto d ds.groups }

/-- The defaults of a companion, inserted in order. -/
def ofList (companion : QualifiedName) (defaults : List CompanionDefault) : CompanionDefaults :=
  defaults.foldl insert (empty companion)

variable (ds : CompanionDefaults)

/-- The keys in the order of their first contribution. -/
def keys : List String :=
  ds.groups.map Prod.fst

/-- All contributions to a key. -/
def contributors (key : String) : List CompanionDefault :=
  (ds.groups.lookup key).getD []

/-- The key has a contribution. -/
def contains (key : String) : Bool :=
  (ds.groups.lookup key).isSome

/-- The default that is bound to a key: the last contribution. -/
def get? (key : String) : Option CompanionDefault :=
  (ds.contributors key).getLast?

/-- The key has several contributions. -/
def isAmbiguous (key : String) : Bool :=
  1 < (ds.contributors key).length

/-- The bound defaults in the order of their keys. -/
def bound : List CompanionDefault :=
  ds.keys.filterMap ds.get?

/-- The count of keys. -/
def size : Nat :=
  ds.keys.length

end CompanionDefaults

/-! ## Scanning a companion

The members of a companion scope that serve as defaults are its static fields named `DEFAULT_…`, in
any case, and its static factory methods named `default…`. Private members are skipped.
-/

/-- The rest of a field's name after `DEFAULT_` in any case, if there is a rest. -/
def fieldStem? (name : String) : Option String :=
  let (lead, stem) := name.toList.splitAt 8
  if lead.map Char.toLower = "default_".toList ∧ stem ≠ [] then some (String.ofList stem) else none

/-- The rest of a method's name after `default`, if there is a rest. -/
def factoryStem? (name : String) : Option String :=
  match Text.after? "default".toList name.toList with
  | none | some [] => none
  | some stem => some (String.ofList stem)

/-- The kind of default that a member can serve as, and the rest of its conventional name. -/
def Member.conventional? (m : Member) : Option (ReferenceKind × String) :=
  if m.isStaticField then (fieldStem? m.name).map (.field, ·)
  else if m.isStaticFactory then (factoryStem? m.name).map (.factory, ·)
  else none

/-- The default that a member of a companion serves as. -/
def Member.toDefault? (companion : QualifiedName) (m : Member) : Option CompanionDefault :=
  m.conventional?.map fun (kind, stem) =>
    ⟨defaultKey stem, kind.expression (companion.child m.name), m.name, kind, m.valueType⟩

/-- The defaults of a companion, in the order of its members. -/
def SymbolTable.companionDefaults (table : SymbolTable) (companion : QualifiedName) :
    CompanionDefaults :=
  let visible := (table.membersOf companion).filter (!·.isPrivate)
  .ofList companion (visible.filterMap (·.toDefault? companion))

/-! ## Choosing a constructor

Of the constructors of a type the one with the most parameters that have a companion default is
chosen. Of several such constructors the one with the most parameters is taken, and of several of
these the first. A constructor without any such parameter is never chosen.
-/

namespace CompanionDefaults

variable (ds : CompanionDefaults)

/-- How many parameters of a constructor have a companion default. -/
def matched (c : SourcedCallable) : Nat :=
  c.parameters.countP fun p => ds.contains (defaultKey p.name)

/-- The first constructor is to be preferred to the second, whatever their order. -/
def outranks (a b : SourcedCallable) : Bool :=
  ds.matched b < ds.matched a ||
    (ds.matched a = ds.matched b && b.parameters.length < a.parameters.length)

/-- The first of the constructors that no other one outranks. -/
def best? : List SourcedCallable → Option SourcedCallable
  | [] => none
  | candidate :: rest =>
    match best? rest with
    | some other => if ds.outranks other candidate then some other else some candidate
    | none => some candidate

/-- The chosen constructor; none if no parameter of any constructor has a companion default. -/
def choose? (candidates : List SourcedCallable) : Option SourcedCallable :=
  (ds.best? candidates).filter fun c => 0 < ds.matched c

end CompanionDefaults

/-! ## Filling parameters from a companion

Each parameter of the chosen constructor gets the companion default of its key. A parameter whose
key is unknown stays required. A default that does not fit the type of its parameter is an error.
Ambiguous keys and defaults that belong to no parameter are warned of.
-/

namespace CompanionDefaults

variable (ds : CompanionDefaults)

/-- The warning for a parameter whose key has several contributions, of which one is chosen. -/
def ambiguity (target : String) (p : SourcedParameter) (chosen : CompanionDefault) :
    List Diagnostic :=
  let key := defaultKey p.name
  if ds.isAmbiguous key then
    let names := (ds.contributors key).map CompanionDefault.memberName
    let warning : CompanionWarning :=
      .ambiguousDefault p.name ds.companion.name names chosen.memberName
    [.warningAt target p.name (.companion warning)]
  else []

/-- The error for a default that does not fit the type of its parameter. -/
def mismatch (target : String) (p : SourcedParameter) (d : CompanionDefault) : Diagnostic :=
  let use : MemberUse := ⟨d.memberName, d.memberName, ds.companion.name⟩
  let error : ReferenceError := .typeMismatch use d.kind d.valueType p.valueType
  .errorAt target p.name p.span (.reference error)

/-- The warnings for the defaults whose keys belong to none of the parameters. -/
def unmatched (target : String) (params : List SourcedParameter) : List Diagnostic :=
  let used := params.map fun p => defaultKey p.name
  (ds.bound.filter (·.key ∉ used)).map fun d =>
    let warning : CompanionWarning := .unmatchedDefault d.memberName ds.companion.name target
    .warning target (.companion warning)

end CompanionDefaults

namespace SymbolTable

variable (table : SymbolTable) (ds : CompanionDefaults)

/-- A parameter with the default of its key, and what is reported of it. -/
def fillParameter (target : String) (p : SourcedParameter) :
    ResolvedParameter × List Diagnostic :=
  match ds.get? (defaultKey p.name) with
  | none => ({ p.toParameter with default? := none }, [])
  | some d =>
    let warnings := ds.ambiguity target p d
    if table.isAssignable d.valueType p.valueType then
      ({ p.toParameter with default? := some d.expression }, warnings)
    else ({ p.toParameter with default? := none }, warnings ++ [ds.mismatch target p d])

/-- The parameters of a constructor with the companion defaults, and everything that is reported.
Defaults that belong to no parameter are reported only if `warnUnmatched` holds. -/
def fill (c : SourcedCallable) (warnUnmatched : Bool) :
    List ResolvedParameter × List Diagnostic :=
  let target := c.toTarget.display
  let filled := c.parameters.map (table.fillParameter ds target)
  (filled.map Prod.fst,
    filled.flatMap Prod.snd ++ if warnUnmatched then ds.unmatched target c.parameters else [])

end SymbolTable

end DefaultArgs
