import DefaultArgs.Callable
import DefaultArgs.Config
import DefaultArgs.Text.Case

/-!
# Plans

A plan says what is generated for one target, its overloads or its builder, and where. Builders of
different targets can be in conflict.

## Main definitions

* `Overload`: a generated signature and the call that it makes
* `defaultsFrom params`: where the defaults begin
* `overloadsOf target params`: all overloads of a target
* `Target.builderName target suffix`: the name of the builder of a target
* `BuilderField`, `Builder`: a field, and the whole builder
* `Builder.ofCallable`: the builder of a callable
* `Builder.check`: the check before the target is called
* `Placement`: where generated code lives
* `Plan`: what is generated for a target
* `NamedTarget`: a target that gets a builder, and where
* `NamedTarget.key suffix t`: the namespace and the name of the builder
* `NamedTarget.conflict? suffix all t`: the conflict of a target with the others
* `NamedTarget.conflicts suffix all`: all conflicts with the indices of their targets
-/

namespace DefaultArgs

/-! ## Overloads

Arguments at the end of the list can be left out by overloads. There is one overload for every count
of arguments from all of them down to the ones without a default, and each calls the target with
the arguments it is given and with the defaults of the others. So all parameters behind the first
one with a default need a default as well.
-/

/-- An argument of the call that an overload makes. -/
inductive CallArgument
  /-- A parameter of the overload. -/
  | parameter (name : String)
  /-- The default of a parameter that is left out. -/
  | default (expression : Expression)
deriving DecidableEq

/-- The written form of an argument. -/
def CallArgument.render : CallArgument → String
  | parameter name => name
  | default expression => expression.render

/-- A generated signature and the call that it makes. -/
structure Overload where
  /-- How many arguments are given. -/
  provided : Nat
  signature : List Parameter
  /-- The arguments of the call, one for every parameter of the target. -/
  arguments : List CallArgument
deriving DecidableEq

namespace Overload

/-- The overload that is given the first `provided` arguments. -/
def ofProvided (params : List ResolvedParameter) (provided : Nat) : Overload :=
  let given := params.take provided
  let omitted := params.drop provided
  { provided
    signature := given.map (·.toParameter)
    arguments :=
      given.map (.parameter ·.name) ++ (omitted.filterMap (·.default?)).map .default }

/-- The overload is given all arguments. -/
def isPassThrough (o : Overload) : Bool :=
  o.provided = o.arguments.length

/-- The written form of the arguments of the call. -/
def call (o : Overload) : String :=
  commaList (o.arguments.map CallArgument.render)

end Overload

/-- The index of the first parameter with a default, if there is any. The error is the first index
behind it whose parameter has none. -/
def defaultsFrom (params : List ResolvedParameter) : Except Nat (Option Nat) :=
  match params.findIdx? (!·.isRequired) with
  | none => .ok none
  | some first =>
    match (params.drop first).findIdx? (·.isRequired) with
    | some behind => .error (first + behind)
    | none => .ok (some first)

/-- The counts from `most` down to `least`. -/
def countsDown (most least : Nat) : List Nat :=
  (List.range' least (most + 1 - least)).reverse

/-- All overloads of a target, the one with the most parameters first. -/
def overloadsOf (target : Target) (params : List ResolvedParameter) :
    Except StructuralError (List Overload) :=
  match defaultsFrom params with
  | .error index =>
    let name := (params[index]?.map (·.name)).getD ""
    .error (.nonConsecutiveDefault target.display index name)
  | .ok first =>
    let least := first.getD params.length
    .ok ((countsDown params.length least).map (Overload.ofProvided params))

/-! ## Builders

Any argument can be left out with a builder, which has a field and a setter for every parameter and
calls the target in the end. Fields start with the defaults of their parameters. A field without a
default has to be set, which is checked before the target is called; fields of primitive types
always hold a value and are not checked.
-/

/-- The name of the builder of a target: the simple name of the owner, the capitalized name of a
method, and a suffix. -/
def Target.builderName (target : Target) (suffix : String) : String :=
  match target.kind with
  | .constructor => target.owner.name ++ suffix
  | .method => target.owner.name ++ Text.capitalize target.name ++ suffix

/-- How a builder calls its target: it builds an object, or it calls a method. -/
inductive Terminal
  | build
  | call
deriving DecidableEq, Repr

/-- The name of the method that calls the target. -/
def Terminal.methodName : Terminal → String
  | build => "build"
  | call => "call"

/-- The terminal for a target of the kind. -/
def CallableKind.terminal : CallableKind → Terminal
  | constructor => .build
  | method => .call

/-- A field of a builder. -/
structure BuilderField where
  name : String
  valueType : ValueType
  /-- The field has to be set. -/
  required : Bool
  /-- The value that a field starts with if it need not be set. -/
  initializer : Option Expression
  setter : String
deriving DecidableEq

/-- The field for a parameter. -/
def BuilderField.ofParameter (p : ResolvedParameter) : BuilderField :=
  ⟨p.name, p.valueType, p.isRequired, p.default?, p.name⟩

/-- It is checked that the field is set. -/
def BuilderField.isChecked (f : BuilderField) : Bool :=
  f.required && !f.valueType.isPrimitive

/-- A builder for the arguments of a target. -/
structure Builder where
  name : String
  /-- The static method that starts the builder. -/
  entryPoint : String
  /-- The fields in the order of the parameters. -/
  fields : List BuilderField
  terminal : Terminal
deriving DecidableEq

namespace Builder

/-- The builder of a callable with resolved parameters. -/
def ofCallable (c : SourcedCallable) (params : List ResolvedParameter) (config : Config) :
    Builder where
  name := c.toTarget.builderName config.builderSuffix
  entryPoint := c.entryPoint.getD config.entryPoint
  fields := params.map .ofParameter
  terminal := c.kind.terminal

variable (b : Builder)

/-- The fields that are checked before the target is called. -/
def checkedFields : List BuilderField :=
  b.fields.filter BuilderField.isChecked

/-- The check before the target is called: it fails at the first checked field that is not set. -/
def check (isSet : String → Bool) : Except BuilderError Unit :=
  match b.checkedFields.find? (!isSet ·.name) with
  | some f => .error (.requiredFieldUnset f.name)
  | none => .ok ()

/-- The field with a name. -/
def field? (name : String) : Option BuilderField :=
  b.fields.find? (·.name = name)

end Builder

/-! ## Plans -/

/-- Where generated code lives. -/
inductive Placement
  /-- In the type that declares the target. -/
  | owner
  /-- In a scope of its own. -/
  | utility (scope : QualifiedName)
deriving DecidableEq, Repr

/-- The generated code: overloads, the one with the most parameters first, or a builder. -/
inductive Generated
  | overloads (overloads : List Overload)
  | builder (builder : Builder)
deriving DecidableEq

/-- What is generated for one target, and where. -/
structure Plan where
  target : Target
  placement : Placement
  generated : Generated
deriving DecidableEq

/-! ## Conflicting builders

Builders of one name in one namespace are one builder, so their targets have to be the same.
Targets of different identity that would get builders of one name are in conflict, and each of them
is told of all.
-/

/-- A target that gets a builder, and where. -/
structure NamedTarget where
  target : Target
  placement : Placement
deriving DecidableEq, Repr

namespace NamedTarget

/-- The namespace that the builder is declared in. -/
def home (t : NamedTarget) : String :=
  match t.placement with
  | .owner => t.target.owner.namespaceString
  | .utility scope => scope.display

/-- The namespace and the name of the builder. -/
def key (suffix : String) (t : NamedTarget) : String × String :=
  (t.home, t.target.builderName suffix)

/-- The targets, each identity once. -/
def distinctTargets (all : List NamedTarget) : List Target :=
  (all.map target).eraseDupsBy fun a b => a.hash = b.hash

/-- The conflict of a target with those of all that have the same key. -/
def conflict? (suffix : String) (all : List NamedTarget) (t : NamedTarget) :
    Option StructuralError :=
  let (home, name) := t.key suffix
  let targets := distinctTargets (all.filter (·.key suffix = (home, name)))
  if targets.length < 2 then none
  else some (.builderNameConflict name home (targets.map Target.display))

/-- All conflicts, each with the index of its target. -/
def conflicts (suffix : String) (all : List NamedTarget) : List (Nat × StructuralError) :=
  all.zipIdx.filterMap fun (t, index) => (t.conflict? suffix all).map (index, ·)

end NamedTarget

end DefaultArgs
