import DefaultArgs.Proofs.Diagnostic.Grading
import DefaultArgs.Proofs.Generation.ForeignTypes
import DefaultArgs.Proofs.Generation.Modes
import DefaultArgs.Proofs.Generation.SharedBuilder

/-!
# What the settings change

Apart from the utility scope, the settings say how builders are named and started, and whether
defaults that belong to no parameter are warned of. They change this and nothing else. A warning
aborts no target, so the same targets fail with and without the warnings. And the names of all
builders end alike, so two of them that are equal with one ending are equal with any other, and the
same targets are in conflict.

Outcomes are compared by their essence, in which nothing is left of the names and of the warnings.
Two runs are then compared step by step: from preparations that are alike every step makes
preparations that are alike.

## Main definitions

* `Plan.nameless`, `Problem.nameless`: a plan or a problem without the names that settings choose
* `Diagnostic.essence ds`, `Outcome.essence o`: what no setting but the utility scope changes
* `PreparedTarget.Alike p p'`, `Preparation.Alike item item'`: the essence is the same so far
* `Input.entryPoint x`, `Outcome.entryPoint? o`: the method that starts a builder, as asked for and
  as planned

## Main results

* `NamedTarget.told_congr_suffix`: conflicts do not depend on the ending of the names
* `alike_prepare`, `alike_settle`, `essence_conclude`: the steps
* `essence_run`: the essence of a report does not depend on the settings
-/

namespace DefaultArgs

section Essence

/-- A builder without its name and the name of the method that starts it. -/
def Builder.nameless (b : Builder) : Builder :=
  { b with name := "", entryPoint := "" }

/-- Generated code without the names of a builder. -/
def Generated.nameless : Generated → Generated
  | overloads all => overloads all
  | builder b => builder b.nameless

/-- A plan without the names of a builder. -/
def Plan.nameless (plan : Plan) : Plan :=
  { plan with generated := plan.generated.nameless }

/-- A structural error without the name of a builder. -/
def StructuralError.nameless : StructuralError → StructuralError
  | builderNameConflict _ home targets => builderNameConflict "" home targets
  | other => other

/-- A problem without the name of a builder. -/
def Problem.nameless : Problem → Problem
  | structural error => structural error.nameless
  | other => other

namespace Diagnostic

/-- A diagnostic without the name of a builder. -/
def nameless (d : Diagnostic) : Diagnostic :=
  { d with problem := d.problem.nameless }

/-- The diagnostic warns of a companion default that belongs to no parameter. -/
def isUnmatched (d : Diagnostic) : Bool :=
  match d.severity, d.problem with
  | .warning, .companion (.unmatchedDefault ..) => true
  | _, _ => false

/-- **The essence of diagnostics**: no warnings of defaults that belong to no parameter, and no
names of builders. -/
def essence (ds : List Diagnostic) : List Diagnostic :=
  (ds.filter (!·.isUnmatched)).map nameless

variable {ds ds' : List Diagnostic}

@[simp] theorem essence_append : essence (ds ++ ds') = essence ds ++ essence ds' := by
  simp [essence]

theorem essence_eq_nil (unmatched : ∀ d ∈ ds, d.isUnmatched) : essence ds = [] := by
  rw [essence, List.map_eq_nil_iff, List.filter_eq_nil_iff]
  intro d mem
  simp [unmatched d mem]

theorem essence_structural (target : String) (error : StructuralError) :
    essence [.error target (.structural error)] = [.error target (.structural error.nameless)] :=
  rfl

/-- Nothing that aborts a target is lost. -/
theorem hasErrors_essence (ds : List Diagnostic) : hasErrors (essence ds) = hasErrors ds := by
  have kept (d : Diagnostic) : (!d.isUnmatched && d.nameless.isError) = d.isError := by
    unfold isUnmatched
    split
    · next severity _ => simp [isError, severity]
    · rfl
  simp only [hasErrors, essence, List.any_map, List.any_filter, Function.comp_apply, kept]

theorem hasErrors_congr (same : essence ds = essence ds') : hasErrors ds = hasErrors ds' := by
  rw [← hasErrors_essence ds, same, hasErrors_essence]

end Diagnostic

/-- **The essence of an outcome**, which no setting but the utility scope changes. -/
def Outcome.essence (o : Outcome) : Outcome where
  target := o.target
  plan := o.plan.map Plan.nameless
  diagnostics := Diagnostic.essence o.diagnostics

end Essence

section EntryPoints

/-- The method that a target wants its builder to be started with. -/
def Input.entryPoint : Input → Option String
  | .declared c => c.entryPoint
  | .foreignType e => e.entryPoint

/-- The method that starts the builder of an outcome, if there is a builder. -/
def Outcome.entryPoint? (o : Outcome) : Option String :=
  o.plan.bind fun plan =>
    match plan.generated with
    | .builder b => some b.entryPoint
    | .overloads _ => none

/-- The essence still shows whether there is a builder. -/
theorem Outcome.entryPoint?_essence (o : Outcome) :
    o.essence.entryPoint? = o.entryPoint?.map fun _ => "" := by
  obtain ⟨target, _ | ⟨target', place, generated⟩, diagnostics⟩ := o
  · rfl
  · cases generated <;> rfl

end EntryPoints

section Conflicts

variable {t u : NamedTarget}

/-- The name of a builder up to its ending. -/
def Target.builderStem (a : Target) : String :=
  a.builderName ""

theorem Target.builderName_eq (a : Target) (suffix : String) :
    a.builderName suffix = a.builderStem ++ suffix := by
  unfold builderStem builderName
  split <;> simp

namespace NamedTarget

/-- Two builders have the same name and namespace whatever the ending of their names is. -/
theorem key_eq_key_iff (suffix : String) :
    u.key suffix = t.key suffix ↔ u.home = t.home ∧
      u.target.builderStem = t.target.builderStem := by
  rw [key, key, Prod.mk.injEq, Target.builderName_eq, Target.builderName_eq,
    String.append_left_inj]

/-- **Conflicts do not depend on the ending of the names.** -/
theorem told_congr_suffix (suffix suffix' : String) (all : List NamedTarget) (t : NamedTarget) :
    told suffix all t = told suffix' all t := by
  simp only [told, key_eq_key_iff]

theorem nameless_conflict? (suffix suffix' : String) (all : List NamedTarget) (t : NamedTarget) :
    (t.conflict? suffix all).map StructuralError.nameless =
      (t.conflict? suffix' all).map StructuralError.nameless := by
  rw [conflict?_eq, conflict?_eq, told_congr_suffix suffix suffix']
  split <;> rfl

end NamedTarget

end Conflicts

section Alike

/-- **Two prepared targets are alike** if they differ at most in names and in warnings. -/
structure PreparedTarget.Alike (p p' : PreparedTarget) : Prop where
  callable_eq : p.callable = p'.callable
  placement_eq : p.placement = p'.placement
  parameters_eq : p.parameters = p'.parameters
  essence_eq : Diagnostic.essence p.diagnostics = Diagnostic.essence p'.diagnostics

/-- **Two preparations are alike** if both succeed or both fail, and what comes of them differs at
most in names and in warnings. -/
inductive Preparation.Alike : Preparation → Preparation → Prop
  | ok {p p' : PreparedTarget} (alike : p.Alike p') : Alike (.ok p) (.ok p')
  | error {o o' : Outcome} (same : o.essence = o'.essence) : Alike (.error o) (.error o')

namespace PreparedTarget.Alike

variable {p p' : PreparedTarget} {ds ds' : List Diagnostic} (alike : p.Alike p')

include alike

theorem target_eq : p.target = p'.target :=
  congrArg SourcedCallable.toTarget alike.callable_eq

theorem named?_eq : p.named? = p'.named? := by
  rw [named?, named?, alike.target_eq, alike.callable_eq, alike.placement_eq]

theorem essence_failed (same : Diagnostic.essence ds = Diagnostic.essence ds') :
    (p.failed ds).essence = (p'.failed ds').essence := by
  simp [PreparedTarget.failed, Outcome.failed, Outcome.essence, alike.target_eq, alike.essence_eq,
    same]

end PreparedTarget.Alike

/-- Preparations that are alike ask for the same builder. -/
theorem Preparation.Alike.named_eq {item item' : Preparation} (alike : Alike item item') :
    item.toOption.bind PreparedTarget.named? = item'.toOption.bind PreparedTarget.named? := by
  cases alike with
  | ok alike => exact alike.named?_eq
  | error _ => rfl

namespace Generator

variable {table : SymbolTable} {config config' : Config} {x : Input} {request : Request}
  {all : List NamedTarget} {item item' : Preparation}

section Preparation

/-- Whether defaults that belong to no parameter are reported decides about warnings only. Nothing
is left of them in the essence. -/
theorem essence_fill (table : SymbolTable) (ds : CompanionDefaults) (c : SourcedCallable)
    (warn warn' : Bool) :
    Diagnostic.essence (table.fill ds c warn).2 = Diagnostic.essence (table.fill ds c warn').2 := by
  have unmatched (warn : Bool) : Diagnostic.essence
      (if warn then ds.unmatched c.toTarget.display c.parameters else []) = [] := by
    apply Diagnostic.essence_eq_nil
    intro d mem
    split at mem
    · obtain ⟨unused, -, rfl⟩ := List.mem_map.1 mem
      rfl
    · cases mem
  simp only [SymbolTable.fill, Diagnostic.essence_append, unmatched]

/-- **Preparations are alike**, since what the settings switch on and off is a warning. -/
theorem alike_prepare (same : config.utilityScope = config'.utilityScope) (x : Input) :
    Preparation.Alike (prepare ⟨table, config⟩ x) (prepare ⟨table, config'⟩ x) := by
  cases x with
  | declared c =>
    by_cases single : c.duplicates = []
    · rw [prepare_declared_of_unique single, prepare_declared_of_unique single]
      exact .ok ⟨rfl, rfl, rfl, rfl⟩
    · rw [prepare_declared_of_several single, prepare_declared_of_several single]
      exact .error rfl
  | foreignType e =>
    cases chosen : (defaultsFor ⟨table, config⟩ e).choose? e.constructors with
    | none =>
      have chosen' : (defaultsFor ⟨table, config'⟩ e).choose? e.constructors = none := chosen
      rw [prepare_foreignType_of_none chosen, prepare_foreignType_of_none chosen']
      exact .error rfl
    | some c =>
      have chosen' : (defaultsFor ⟨table, config'⟩ e).choose? e.constructors = some c := chosen
      have essence : Diagnostic.essence (filled ⟨table, config⟩ e c).2 =
          Diagnostic.essence (filled ⟨table, config'⟩ e c).2 :=
        essence_fill table (table.companionDefaults e.companion) (e.callable c) _ _
      rw [prepare_foreignType_of_some chosen, prepare_foreignType_of_some chosen']
      by_cases aborts : Diagnostic.hasErrors (filled ⟨table, config⟩ e c).2
      · rw [if_pos aborts, if_pos (Diagnostic.hasErrors_congr essence ▸ aborts)]
        apply Preparation.Alike.error
        rw [Outcome.failed, Outcome.failed, Outcome.essence, Outcome.essence, essence]
      · rw [if_neg aborts, if_neg (Diagnostic.hasErrors_congr essence ▸ aborts)]
        exact .ok ⟨rfl, congrArg Placement.utility same, rfl, essence⟩

/-- The same builders are asked for. -/
theorem builders_congr (same : config.utilityScope = config'.utilityScope) (request : Request) :
    builders ⟨table, config⟩ request = builders ⟨table, config'⟩ request := by
  have builder (x : Input) : builder? ⟨table, config⟩ x = builder? ⟨table, config'⟩ x :=
    (alike_prepare same x).named_eq
  rw [builders, builders, funext builder]

end Preparation

section Steps

variable {g g' : Generator}

/-- Targets that are alike are in conflict with the same builders. -/
theorem alike_settle (alike : Preparation.Alike item item') :
    Preparation.Alike (g.settle all item) (g'.settle all item') := by
  cases alike with
  | error same => exact .error same
  | @ok p p' alike =>
    have conflicts : (p.named?.bind (NamedTarget.conflict? g.config.builderSuffix all)).map
          StructuralError.nameless =
        (p'.named?.bind (NamedTarget.conflict? g'.config.builderSuffix all)).map
          StructuralError.nameless := by
      rw [alike.named?_eq]
      cases p'.named? with
      | none => rfl
      | some t => exact NamedTarget.nameless_conflict? _ _ all t
    unfold settle
    simp only [Except.bind]
    split
    · next conflict found =>
      rw [found, Option.map_some] at conflicts
      obtain ⟨conflict', found', nameless⟩ := Option.map_eq_some_iff.1 conflicts.symm
      rw [found']
      apply Preparation.Alike.error
      apply alike.essence_failed
      rw [Diagnostic.essence_structural, Diagnostic.essence_structural, alike.target_eq, nameless]
    · next free =>
      rw [free, Option.map_none] at conflicts
      rw [Option.map_eq_none_iff.1 conflicts.symm]
      exact .ok alike

/-- What is generated is the same but for the names, and so are the reasons if nothing is. -/
theorem generate_alike (g g' : Generator) (c : SourcedCallable) (params : List ResolvedParameter) :
    (∃ generated generated', g.generate c params = .ok generated ∧
      g'.generate c params = .ok generated' ∧ generated.nameless = generated'.nameless) ∨
    ∃ error, g.generate c params = .error error ∧ g'.generate c params = .error error := by
  unfold generate
  cases c.mode with
  | overloaded =>
    cases overloadsOf c.toTarget params with
    | ok all => exact .inl ⟨_, _, rfl, rfl, rfl⟩
    | error error => exact .inr ⟨error, rfl, rfl⟩
  | named => exact .inl ⟨_, _, rfl, rfl, rfl⟩

/-- Targets that are alike have the same defaults. -/
theorem resolvedParameters_congr {p p' : PreparedTarget} (alike : p.Alike p') :
    resolvedParameters ⟨table, config⟩ p = resolvedParameters ⟨table, config'⟩ p' := by
  unfold resolvedParameters
  rw [alike.parameters_eq, alike.callable_eq]
  rfl

/-- Targets that are alike are completed alike. -/
theorem essence_complete {p p' : PreparedTarget} (alike : p.Alike p') :
    (complete ⟨table, config⟩ p).essence = (complete ⟨table, config'⟩ p').essence := by
  unfold complete
  rw [resolvedParameters_congr alike, alike.callable_eq, alike.target_eq, alike.placement_eq]
  obtain ⟨params, errors⟩ := resolvedParameters ⟨table, config'⟩ p'
  have reported : Diagnostic.essence (p.diagnostics ++ errors) =
      Diagnostic.essence (p'.diagnostics ++ errors) := by
    rw [Diagnostic.essence_append, Diagnostic.essence_append, alike.essence_eq]
  dsimp only
  by_cases aborts : Diagnostic.hasErrors (p.diagnostics ++ errors)
  · rw [if_pos aborts, if_pos (Diagnostic.hasErrors_congr reported ▸ aborts)]
    exact alike.essence_failed rfl
  · rw [if_neg aborts, if_neg (Diagnostic.hasErrors_congr reported ▸ aborts)]
    rcases generate_alike ⟨table, config⟩ ⟨table, config'⟩ p'.callable params with
      ⟨generated, generated', made, made', nameless⟩ | ⟨error, failed, failed'⟩
    · simp only [made, made', Outcome.essence, Option.map_some, Plan.nameless, nameless, reported]
    · rw [failed, failed']
      exact alike.essence_failed rfl

/-- Preparations that are alike lead to the same outcome. -/
theorem essence_conclude (alike : Preparation.Alike item item') :
    (conclude ⟨table, config⟩ item).essence = (conclude ⟨table, config'⟩ item').essence := by
  cases alike with
  | error same => exact same
  | ok alike => exact essence_complete alike

end Steps

section Runs

/-- The essence of an outcome does not depend on the settings. -/
theorem essence_outcomeAmong (table : SymbolTable)
    (same : config.utilityScope = config'.utilityScope) (all : List NamedTarget) (x : Input) :
    (outcomeAmong ⟨table, config⟩ all x).essence =
      (outcomeAmong ⟨table, config'⟩ all x).essence :=
  essence_conclude (alike_settle (alike_prepare same x))

/-- A builder is started by the method that its target names, or else by the configured one. -/
theorem eq_of_entryPoint? {g : Generator} {name : String}
    (starts : (g.outcomeAmong all x).entryPoint? = some name) :
    name = x.entryPoint.getD g.config.entryPoint := by
  obtain ⟨⟨target, place, generated⟩, planned, starts⟩ := Option.bind_eq_some_iff.1 starts
  cases generated with
  | overloads all => cases starts
  | builder b =>
    cases starts
    obtain ⟨p, prepared, -, -, rfl, -⟩ := exists_prepared_of_builder planned
    have kept : p.callable.entryPoint = x.entryPoint := by
      have mem := (prepare_cases prepared).1
      cases x with
      | declared c =>
        rw [List.mem_singleton.1 mem]
        rfl
      | foreignType e =>
        obtain ⟨c, -, same⟩ := List.mem_map.1 mem
        rw [← same]
        rfl
    rw [← kept]
    rfl

/-- An entry point that a target names itself does not depend on the settings. -/
theorem entryPoint?_outcomeAmong (same : config.utilityScope = config'.utilityScope)
    (all : List NamedTarget) (names : x.entryPoint.isSome) :
    (outcomeAmong ⟨table, config⟩ all x).entryPoint? =
      (outcomeAmong ⟨table, config'⟩ all x).entryPoint? := by
  obtain ⟨name, names⟩ := Option.isSome_iff_exists.1 names
  have started := congrArg Outcome.entryPoint? (essence_outcomeAmong table same all x)
  rw [Outcome.entryPoint?_essence, Outcome.entryPoint?_essence] at started
  cases first : (outcomeAmong ⟨table, config⟩ all x).entryPoint? with
  | none =>
    rw [first, Option.map_none, eq_comm, Option.map_eq_none_iff] at started
    exact started.symm
  | some start =>
    rw [first, Option.map_some] at started
    obtain ⟨start', second, -⟩ := Option.map_eq_some_iff.1 started.symm
    rw [second, eq_of_entryPoint? first, eq_of_entryPoint? second, names]
    rfl

/-- **The settings do not change what is generated.** Take two settings with the same utility scope.
In any request every target has outcomes of the same essence with both of them: there is a plan with
both or with neither, the plans differ at most in how a builder is named and started, and the same
is reported but for the names of builders in conflict and the warnings of defaults that belong to no
parameter. If a target names the method that starts its builder, this is also the same. -/
theorem essence_run (table : SymbolTable) (request : Request) {config config' : Config}
    (same : config.utilityScope = config'.utilityScope) :
    (run ⟨table, config⟩ request).outcomes.map Outcome.essence =
        (run ⟨table, config'⟩ request).outcomes.map Outcome.essence ∧
      ∀ (i : Nat) x, request.inputs[i]? = some x → x.entryPoint.isSome →
        (run ⟨table, config⟩ request).outcomes[i]?.bind Outcome.entryPoint? =
          (run ⟨table, config'⟩ request).outcomes[i]?.bind Outcome.entryPoint? := by
  constructor
  · rw [outcomes_run, outcomes_run, builders_congr same, List.map_map, List.map_map]
    exact List.map_congr_left fun x _ => essence_outcomeAmong table same _ x
  · intro i x at_i names
    rw [getElem?_outcomes_run, getElem?_outcomes_run, at_i, builders_congr same]
    exact entryPoint?_outcomeAmong same _ names

section Samples

/-- Settings for builders called makers. -/
def makerConfig : Config :=
  { entryPoint := "make", builderSuffix := "Maker", warnUnmatched := false, parallel := true }

/-- A request for two builders, of a declared constructor that names its entry point and of a type
with companion defaults. -/
def builderRequest : Request :=
  ⟨[{ portServer.inMode .named with entryPoint := some "start" }],
    [{ poolType with mode := .named }]⟩

end Samples

/-- The builders are named differently, but otherwise the reports are the same, and the first
builder is started by the method that its target names. -/
theorem essence_run_makers :
    ({} : Config).utilityScope = makerConfig.utilityScope ∧
      run poolGenerator builderRequest ≠ run ⟨poolGenerator.symbols, makerConfig⟩ builderRequest ∧
      (run poolGenerator builderRequest).outcomes.map Outcome.essence =
        (run ⟨poolGenerator.symbols, makerConfig⟩ builderRequest).outcomes.map Outcome.essence ∧
      (run ⟨poolGenerator.symbols, makerConfig⟩ builderRequest).outcomes[0]?.bind
        Outcome.entryPoint? = some "start" := by
  have same : ({} : Config).utilityScope = makerConfig.utilityScope := rfl
  obtain ⟨essence, entryPoints⟩ := essence_run poolGenerator.symbols builderRequest same
  exact ⟨same, by decide, essence, (entryPoints 0 _ rfl rfl).symm.trans rfl⟩

end Runs

end Generator

end Alike

end DefaultArgs
