import DefaultArgs.Callable
import DefaultArgs.Companion
import DefaultArgs.Config
import DefaultArgs.Default.Reading
import DefaultArgs.Plan
import DefaultArgs.Reference

/-!
# Generation

A run takes every target of a request through three steps. Preparation sorts out the defaults of a
declared callable, or finds the constructor and the defaults of a type that cannot be annotated.
Then the names of all builders are compared, which is the only step that looks at several targets.
Last, the defaults are resolved and the overloads or the builder are made. A failure ends the way of
its own target and of no other.

## Main definitions

* `ForeignType`: a type that cannot be annotated
* `Request`: all targets of a run
* `Request.inputs`: the targets in the order in which they are reported
* `Outcome`: the outcome of one target
* `Report`: the outcomes of a run
* `PreparedTarget`, `Preparation`: a target after its preparation, and a preparation that may fail
* `Generator`: a symbol table and the settings
* `Generator.prepare`, `Generator.settle`, `Generator.complete`: the three steps
* `Generator.run`: the report on a request
* `Generator.runWithOptions`: the report with settings from options
-/

namespace DefaultArgs

/-! ## Requests

A request lists the targets of a run: callables that declare their defaults, and types that cannot
be annotated and get their defaults from a companion scope.
-/

/-- A type that cannot be annotated, whose defaults are found in a companion scope. -/
structure ForeignType where
  owner : QualifiedName
  companion : QualifiedName
  /-- The constructors of the type. -/
  constructors : List SourcedCallable
  mode : GenerationMode
  entryPoint : Option String
deriving DecidableEq, Repr

/-- The targets of a run. -/
structure Request where
  callables : List DeclaredCallable
  foreignTypes : List ForeignType
deriving DecidableEq, Repr

/-- A target of a request. -/
inductive Input
  | declared (callable : DeclaredCallable)
  | foreignType (type : ForeignType)
deriving DecidableEq, Repr

/-- The targets of a request, the declared callables first. -/
def Request.inputs (request : Request) : List Input :=
  request.callables.map .declared ++ request.foreignTypes.map .foreignType

/-! ## Reports

A run reports one outcome for every target: what is generated for it, unless an error prevents it,
and the diagnostics.
-/

/-- The outcome of one target. -/
structure Outcome where
  /-- The written form of the target. -/
  target : String
  plan : Option Plan
  diagnostics : List Diagnostic
deriving DecidableEq

/-- An outcome without a plan. -/
def Outcome.failed (target : String) (diagnostics : List Diagnostic) : Outcome :=
  ⟨target, none, diagnostics⟩

/-- The target has a plan. -/
def Outcome.isSuccess (o : Outcome) : Bool :=
  o.plan.isSome

/-- The outcomes of a run, in the order of the request. -/
structure Report where
  outcomes : List Outcome
deriving DecidableEq

namespace Report

variable (r : Report)

/-- All plans. -/
def plans : List Plan :=
  r.outcomes.filterMap Outcome.plan

/-- All diagnostics. -/
def diagnostics : List Diagnostic :=
  r.outcomes.flatMap Outcome.diagnostics

/-- Some diagnostic is an error. -/
def hasErrors : Bool :=
  Diagnostic.hasErrors r.diagnostics

/-- The count of errors. -/
def errorCount : Nat :=
  r.diagnostics.countP Diagnostic.isError

/-- The count of warnings. -/
def warningCount : Nat :=
  r.diagnostics.countP (!·.isError)

/-- The index of the first outcome of a target. -/
def indexOf? (target : String) : Option Nat :=
  r.outcomes.findIdx? (·.target = target)

/-- The first outcome of a target. -/
def outcome? (target : String) : Option Outcome :=
  r.outcomes.find? (·.target = target)

end Report

/-! ## Runs -/

/-- The parameters of a prepared target. -/
inductive PreparedParameters
  /-- The defaults are still to be resolved. -/
  | sourced
  /-- The defaults come from a companion. -/
  | filled (params : List ResolvedParameter)
deriving DecidableEq

/-- A target after its preparation. -/
structure PreparedTarget where
  callable : SourcedCallable
  placement : Placement
  parameters : PreparedParameters
  diagnostics : List Diagnostic
deriving DecidableEq

namespace PreparedTarget

variable (p : PreparedTarget)

/-- The target itself. -/
def target : Target :=
  p.callable.toTarget

/-- The outcome of a target that fails with further diagnostics. -/
def failed (further : List Diagnostic) : Outcome :=
  .failed p.target.display (p.diagnostics ++ further)

/-- The target as one that gets a builder, if it gets one. -/
def named? : Option NamedTarget :=
  if p.callable.mode = .named then some ⟨p.target, p.placement⟩ else none

end PreparedTarget

/-- A prepared target, or the outcome of a target that failed already. -/
abbrev Preparation := Except Outcome PreparedTarget

/-- The prepared targets that get a builder. -/
def namedTargets (prepared : List Preparation) : List NamedTarget :=
  prepared.filterMap fun item => item.toOption.bind PreparedTarget.named?

/-- A symbol table and the settings of a run. -/
structure Generator where
  symbols : SymbolTable
  config : Config

namespace Generator

variable (g : Generator)

section Prepare

/-- Sort out the defaults of a declared callable. -/
def prepareCallable (c : DeclaredCallable) : Preparation :=
  match c.toSourced with
  | .ok callable => .ok ⟨callable, .owner, .sourced, []⟩
  | .error diagnostics => .error (.failed c.toTarget.display diagnostics)

/-- The outcome of a type none of whose constructors has a companion default. -/
def nothingFound (e : ForeignType) : Outcome :=
  let owner := e.owner.display
  let warning : CompanionWarning := .noDefaultsFound owner e.companion.name
  .failed owner [.warning owner (.companion warning)]

/-- Choose the constructor of a type that cannot be annotated, and fill its parameters. The mode and
the entry point are those of the type and not of the constructor. -/
def prepareForeignType (e : ForeignType) : Preparation :=
  let defaults := g.symbols.companionDefaults e.companion
  match defaults.choose? e.constructors with
  | none => .error (nothingFound e)
  | some chosen =>
    let callable := { chosen with mode := e.mode, entryPoint := e.entryPoint }
    let (params, diagnostics) := g.symbols.fill defaults callable g.config.warnUnmatched
    if Diagnostic.hasErrors diagnostics then
      .error (.failed callable.toTarget.display diagnostics)
    else .ok ⟨callable, .utility g.config.utilityScope, .filled params, diagnostics⟩

/-- Prepare a target. -/
def prepare : Input → Preparation
  | .declared callable => prepareCallable callable
  | .foreignType type => g.prepareForeignType type

end Prepare

/-- Fail a prepared target whose builder is in conflict with that of another target. -/
def settle (named : List NamedTarget) (item : Preparation) : Preparation :=
  item.bind fun p =>
    match p.named?.bind (NamedTarget.conflict? g.config.builderSuffix named) with
    | some conflict => .error (p.failed [.error p.target.display (.structural conflict)])
    | none => .ok p

section Complete

/-- The expression that a declared default stands for. -/
def resolveDefault (owner : QualifiedName) (ty : ValueType) (source : DeclaredDefault) :
    Except Problem Expression :=
  match source.referenceKind? with
  | none => ((Literal.read ty source.text).map .literal).mapError .literal
  | some kind => (g.symbols.resolve kind ty owner source.text).mapError .reference

/-- A parameter with its default resolved, and the error if it cannot be. -/
def resolveParameter (c : SourcedCallable) (p : SourcedParameter) :
    ResolvedParameter × List Diagnostic :=
  match p.source?.map (g.resolveDefault c.owner p.valueType) with
  | none => ({ p.toParameter with default? := none }, [])
  | some (.ok expression) => ({ p.toParameter with default? := some expression }, [])
  | some (.error problem) =>
    ({ p.toParameter with default? := none },
      [.errorAt c.toTarget.display p.name p.span problem])

/-- The parameters of a prepared target with their defaults, and the errors in resolving them. -/
def resolvedParameters (p : PreparedTarget) : List ResolvedParameter × List Diagnostic :=
  match p.parameters with
  | .filled params => (params, [])
  | .sourced =>
    let resolved := p.callable.parameters.map (g.resolveParameter p.callable)
    (resolved.map Prod.fst, resolved.flatMap Prod.snd)

/-- What is generated for a callable with resolved parameters. -/
def generate (c : SourcedCallable) (params : List ResolvedParameter) :
    Except StructuralError Generated :=
  match c.mode with
  | .overloaded => (overloadsOf c.toTarget params).map .overloads
  | .named => .ok (.builder (.ofCallable c params g.config))

/-- Resolve the defaults of a prepared target and make its plan. -/
def complete (p : PreparedTarget) : Outcome :=
  let (params, errors) := g.resolvedParameters p
  if Diagnostic.hasErrors (p.diagnostics ++ errors) then p.failed errors
  else
    match g.generate p.callable params with
    | .ok generated =>
      { target := p.target.display
        plan := some ⟨p.target, p.placement, generated⟩
        diagnostics := p.diagnostics ++ errors }
    | .error error => p.failed (errors ++ [.error p.target.display (.structural error)])

/-- The outcome of a target after the builders were compared. -/
def conclude : Preparation → Outcome
  | .ok p => g.complete p
  | .error outcome => outcome

end Complete

/-- The report on a request. -/
def run (request : Request) : Report :=
  let prepared := request.inputs.map g.prepare
  let named := namedTargets prepared
  ⟨prepared.map fun item => g.conclude (g.settle named item)⟩

/-- The report on a request with settings from options. -/
def runWithOptions (symbols : SymbolTable) (options : List (String × String))
    (request : Request) : Except ConfigError Report :=
  (Config.ofOptions options).map fun config => run ⟨symbols, config⟩ request

end Generator

end DefaultArgs
