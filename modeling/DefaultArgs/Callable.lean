import DefaultArgs.Diagnostic

/-!
# Callables

Methods and constructors come with parameters, whose defaults are sorted out before anything else.

## Main definitions

* `Parameter`: a name and a type
* `DeclaredParameter`, `SourcedParameter`, `ResolvedParameter`: the three forms
* `Callable`: a method or constructor without its parameters
* `Callable.target c params`: the target with the given parameters
* `Target.display t`: the written form of a target
* `DeclaredCallable`, `SourcedCallable`: a callable before and after its defaults are sorted out
* `DeclaredCallable.duplicates c`: the diagnostics for sites with several defaults
* `DeclaredCallable.toSourced c`: the callable with at most one default for each parameter
-/

namespace DefaultArgs

/-! ## Parameters

A parameter passes through three forms. As declared it may have several defaults at two sites; then
it has at most one, still as text; and in the end it has at most one, as an expression.
-/

/-- A name and a type. -/
structure Parameter where
  name : String
  valueType : ValueType
deriving DecidableEq, Repr

/-- A parameter with the defaults that are declared for it. -/
structure DeclaredParameter extends Parameter where
  /-- The defaults on the parameter itself. -/
  ownDefaults : List DeclaredDefault
  /-- The defaults on the record component that the parameter belongs to. -/
  componentDefaults : List DeclaredDefault
  span : Span
deriving DecidableEq, Repr

/-- A parameter with at most one default, as text. -/
structure SourcedParameter extends Parameter where
  source? : Option DeclaredDefault
  span : Span
deriving DecidableEq, Repr

/-- A parameter with at most one default, as an expression. -/
structure ResolvedParameter extends Parameter where
  default? : Option Expression
deriving DecidableEq

/-- The parameter has no default. -/
def SourcedParameter.isRequired (p : SourcedParameter) : Bool :=
  p.source?.isNone

/-- The parameter has no default. -/
def ResolvedParameter.isRequired (p : ResolvedParameter) : Bool :=
  p.default?.isNone

/-! ## Targets

A target is the method or constructor that generated code calls in the end. Its identity comes from
its owner, its name and the types of its parameters.
-/

/-- Method or constructor. -/
inductive CallableKind
  | method
  | constructor
deriving DecidableEq, Repr

/-- The kind of callable in words. -/
def CallableKind.display : CallableKind → String
  | method => "method"
  | constructor => "constructor"

/-- How arguments can be left out. -/
inductive GenerationMode
  /-- By overloads with fewer and fewer parameters. -/
  | overloaded
  /-- By a builder with a field for every parameter. -/
  | named
deriving DecidableEq, Repr

/-- The mode in words. -/
def GenerationMode.display : GenerationMode → String
  | overloaded => "overloaded"
  | named => "named"

/-- A method or constructor without its parameters. -/
structure Callable where
  /-- The name of a method; the simple name of the owner for a constructor. -/
  name : String
  owner : QualifiedName
  kind : CallableKind
  isStatic : Bool
  returnType : ValueType
  mode : GenerationMode
  /-- The method that starts a builder, unless the configured one does. -/
  entryPoint : Option String
deriving DecidableEq, Repr

/-- A constructor of a type, to be expanded into overloads. -/
def Callable.ofOwner (owner : QualifiedName) : Callable :=
  ⟨owner.name, owner, .constructor, true, .nominal owner, .overloaded, none⟩

/-- An instance method, to be expanded into overloads. -/
def Callable.method (owner : QualifiedName) (name : String) (result : ValueType) : Callable :=
  ⟨name, owner, .method, false, result, .overloaded, none⟩

/-- What generated code calls in the end. -/
structure Target where
  owner : QualifiedName
  name : String
  kind : CallableKind
  isStatic : Bool
  returnType : ValueType
  hash : Identity
deriving DecidableEq, Repr

/-- The identity of a callable with the given parameters. -/
def Callable.hash (c : Callable) (params : List Parameter) : Identity :=
  let types := params.map fun p => p.valueType.identity
  match c.kind with
  | .constructor => .ofConstructor c.owner.identity types
  | .method => .ofMethod c.owner.identity c.name types

/-- The target that a callable with the given parameters is. -/
def Callable.target (c : Callable) (params : List Parameter) : Target :=
  ⟨c.owner, c.name, c.kind, c.isStatic, c.returnType, c.hash params⟩

/-- The written form of a target: the owner, followed by the name of a method. -/
def Target.display (t : Target) : String :=
  match t.kind with
  | .constructor => t.owner.display
  | .method => t.owner.display ++ "." ++ t.name

/-! ## Declared callables

The defaults of a declared callable are sorted out before they are resolved, so that every parameter
keeps at most one. Several defaults at one site are an error, which is reported for each such site.
Of defaults at both sites the one on the record component counts if the owner is a record; on any
other owner the component site is ignored.
-/

/-- A callable with the defaults that are declared for its parameters. -/
structure DeclaredCallable extends Callable where
  ownerKind : ScopeKind
  parameters : List DeclaredParameter
deriving DecidableEq, Repr

/-- A callable with at most one default for each of its parameters. -/
structure SourcedCallable extends Callable where
  parameters : List SourcedParameter
deriving DecidableEq, Repr

/-- The target that the callable is. -/
def SourcedCallable.toTarget (c : SourcedCallable) : Target :=
  c.target (c.parameters.map (·.toParameter))

/-- The error of a site with several defaults. -/
def DeclaredParameter.duplicateAt? (p : DeclaredParameter) (site : DeclarationSite) :
    Option StructuralError :=
  let sources :=
    match site with
    | .parameter => p.ownDefaults
    | .owner => p.componentDefaults
  if 1 < sources.length then
    some (.duplicateDefaultSource p.name site (sources.map DeclaredDefault.display))
  else none

/-- The errors of both sites. -/
def DeclaredParameter.duplicates (p : DeclaredParameter) : List StructuralError :=
  [DeclarationSite.parameter, .owner].filterMap p.duplicateAt?

/-- The default that counts on an owner of the given kind. -/
def DeclaredParameter.effectiveSource? (p : DeclaredParameter) (ownerKind : ScopeKind) :
    Option DeclaredDefault :=
  if ownerKind = .record then p.componentDefaults.head?.or p.ownDefaults.head?
  else p.ownDefaults.head?

namespace DeclaredCallable

variable (c : DeclaredCallable)

/-- The target that the callable is. -/
def toTarget : Target :=
  c.target (c.parameters.map (·.toParameter))

/-- One error for every site with several defaults, in the order of the parameters. -/
def duplicates : List Diagnostic :=
  c.parameters.flatMap fun p =>
    p.duplicates.map fun error =>
      .errorAt c.toTarget.display p.name p.span (.structural error)

/-- The callable with the defaults that count. -/
def effective : SourcedCallable :=
  { c.toCallable with
    parameters := c.parameters.map fun p =>
      { p.toParameter with source? := p.effectiveSource? c.ownerKind, span := p.span } }

/-- The callable with at most one default for each parameter, or the errors of all its sites. -/
def toSourced : Except (List Diagnostic) SourcedCallable :=
  if c.duplicates = [] then .ok c.effective else .error c.duplicates

end DeclaredCallable

end DefaultArgs
