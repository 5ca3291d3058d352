import DefaultArgs.Proofs.Companion.Agreement
import DefaultArgs.Proofs.Companion.Choice
import DefaultArgs.Proofs.Companion.Filling
import DefaultArgs.Proofs.Generation.Admission
import DefaultArgs.Proofs.Plan.Agreement

/-!
# What becomes of a type that cannot be annotated

Of the constructors of such a type one is chosen, and the others do not matter any more. If none has
a parameter with a companion default, all that is reported is that no defaults were found. Otherwise
the first constructor of highest rank is filled. Should a plan come of it, then the plan leaves out
exactly the parameters whose keys are known to the companion. There is at least one, since the
constructor was chosen for it, so an expansion is never empty.

## Main definitions

* `ForeignType.callable e c`: a constructor in the mode and with the entry point of the type
* `ForeignType.only e c`: the type with a single constructor
* `Generator.defaultsFor g e`: the companion defaults of a type
* `Generator.filled g e c`: a constructor with the companion defaults of a type
* `Generator.PlansFor g e c plan`: the plan for a type, made from the constructor `c`

## Main results

* `prepare_only`: the constructors that are not chosen do not matter
* `plansFor_of_generate`: what the plan for a type looks like
* `outcome_foreignType`: the outcome of a type in any request
-/

namespace DefaultArgs

/-- A constructor in the mode and with the entry point of the type. -/
def ForeignType.callable (e : ForeignType) (c : SourcedCallable) : SourcedCallable :=
  { c with mode := e.mode, entryPoint := e.entryPoint }

/-- The type with a single constructor. -/
def ForeignType.only (e : ForeignType) (c : SourcedCallable) : ForeignType :=
  { e with constructors := [c] }

namespace Generator

variable (g : Generator) (e : ForeignType)

/-- The companion defaults of a type. -/
def defaultsFor : CompanionDefaults :=
  g.symbols.companionDefaults e.companion

/-- A constructor of a type with its companion defaults, and what is reported in filling it. -/
def filled (c : SourcedCallable) : List ResolvedParameter × List Diagnostic :=
  g.symbols.fill (g.defaultsFor e) (e.callable c) g.config.warnUnmatched

/-- **The plan for a type, made from the constructor `c`.** The plan is for this constructor, with
its parameters, but it lies in the utility scope and follows the mode and the entry point of the
type. It inserts a default exactly for the parameters whose keys are known to the companion. There
is one overload more than there are such parameters, or as many fields of the builder need not be
set. -/
structure PlansFor (c : SourcedCallable) (plan : Plan) : Prop where
  target_eq : plan.target = c.toTarget
  placement_eq : plan.placement = .utility g.config.utilityScope
  parameters_eq : plan.generated.parameters = c.parameters.map (·.toParameter)
  inserts_iff : ∀ k p, c.parameters[k]? = some p →
    ((∃ x, plan.generated.Inserts k x) ↔ defaultKey p.name ∈ (g.defaultsFor e).keys)
  overloaded : e.mode = .overloaded → ∃ all, plan.generated = .overloads all ∧
    all.length = (g.defaultsFor e).matched c + 1 ∧ 2 ≤ all.length
  named : e.mode = .named → ∃ b, plan.generated = .builder b ∧
    b.entryPoint = e.entryPoint.getD g.config.entryPoint ∧
    b.fields.countP (fun f => !f.required) = (g.defaultsFor e).matched c ∧
    ∃ f ∈ b.fields, f.required = false

variable {g} {e} {c : SourcedCallable} {p : PreparedTarget} {request request' : Request}
  {generated : Generated}

section Preparation

theorem prepare_foreignType_of_none (none : (g.defaultsFor e).choose? e.constructors = none) :
    g.prepare (.foreignType e) = .error (nothingFound e) := by
  rw [defaultsFor] at none
  rw [prepare, prepareForeignType]
  simp only [none]

/-- The chosen constructor is filled, and the target is prepared unless this reports errors. -/
theorem prepare_foreignType_of_some (chosen : (g.defaultsFor e).choose? e.constructors = some c) :
    g.prepare (.foreignType e) =
      if Diagnostic.hasErrors (g.filled e c).2 then
        .error (.failed c.toTarget.display (g.filled e c).2)
      else .ok ⟨e.callable c, .utility g.config.utilityScope, .filled (g.filled e c).1,
        (g.filled e c).2⟩ := by
  rw [defaultsFor] at chosen
  rw [prepare, prepareForeignType]
  simp only [chosen]
  rfl

/-- The chosen constructor would be chosen alone. -/
theorem choose?_singleton (some_matched : 0 < (g.defaultsFor e).matched c) :
    (g.defaultsFor (e.only c)).choose? (e.only c).constructors = some c := by
  show ((some c).filter fun c => 0 < (g.defaultsFor e).matched c) = some c
  rw [Option.filter_eq_some_iff]
  exact ⟨rfl, decide_eq_true some_matched⟩

/-- **The constructors that are not chosen do not matter.** -/
theorem prepare_only (chosen : (g.defaultsFor e).choose? e.constructors = some c) :
    g.prepare (.foreignType (e.only c)) = g.prepare (.foreignType e) := by
  have some_matched := (CompanionDefaults.firstBest_of_choose? chosen).2
  rw [prepare_foreignType_of_some chosen,
    prepare_foreignType_of_some (choose?_singleton some_matched)]
  rfl

/-- A report depends on how the targets are prepared and on nothing else of them. -/
theorem run_congr (same : request.inputs.map g.prepare = request'.inputs.map g.prepare) :
    g.run request = g.run request' := by
  simp only [run, same]

end Preparation

section Planned

theorem exists_inserts_iff {params : List ResolvedParameter} {k : Nat}
    (made : g.generate c params = .ok generated) :
    (∃ x, generated.Inserts k x) ↔ ∃ q, params[k]? = some q ∧ q.default?.isSome := by
  rcases generate_cases made with ⟨-, all, expanded, rfl⟩ | ⟨-, rfl⟩
  · exact exists_inserts_overloads_iff expanded
  · exact exists_inserts_builder_iff

/-- What is generated for a constructor that was filled without errors. -/
theorem plansFor_of_generate (some_matched : 0 < (g.defaultsFor e).matched c)
    (fine : Diagnostic.hasErrors (g.filled e c).2 = false)
    (made : g.generate (e.callable c) (g.filled e c).1 = .ok generated) :
    g.PlansFor e c ⟨c.toTarget, .utility g.config.utilityScope, generated⟩ := by
  have filled : (g.filled e c).1.countP (fun q => q.default?.isSome) =
      (g.defaultsFor e).matched c :=
    SymbolTable.countP_default?_fill fine
  constructor
  case target_eq => rfl
  case placement_eq => rfl
  case parameters_eq =>
    rw [parameters_of_generate made, Generator.filled, SymbolTable.toParameter_fill]
    rfl
  case inserts_iff =>
    intro k p at_k
    rw [exists_inserts_iff made]
    exact SymbolTable.isSome_default?_fill_iff (c := e.callable c) fine at_k
  case overloaded =>
    intro mode
    rcases generate_cases made with ⟨-, all, expanded, rfl⟩ | ⟨other, -⟩
    · have count := length_overloadsOf expanded
      rw [filled] at count
      exact ⟨all, rfl, count, by omega⟩
    · have : e.mode = .named := other
      rw [mode] at this
      cases this
  case named =>
    intro mode
    rcases generate_cases made with ⟨other, -⟩ | ⟨-, rfl⟩
    · have : e.mode = .overloaded := other
      rw [mode] at this
      cases this
    · have count := countP_optional_ofCallable (e.callable c) (g.filled e c).1 g.config
      rw [filled] at count
      refine ⟨_, rfl, rfl, count, ?_⟩
      obtain ⟨f, field, optional⟩ := List.countP_pos_iff.1 (count ▸ some_matched)
      exact ⟨f, field, by simpa using optional⟩

/-- The outcome of a type one of whose constructors was chosen is about this constructor, and if it
has a plan, this is the plan of the constructor. There is none if filling the constructor reports
errors. -/
theorem outcomeAmong_of_choose? {all : List NamedTarget}
    (chosen : (g.defaultsFor e).choose? e.constructors = some c) :
    (g.outcomeAmong all (.foreignType e)).target = c.toTarget.display ∧
      ∀ plan, (g.outcomeAmong all (.foreignType e)).plan = some plan → g.PlansFor e c plan := by
  have some_matched := (CompanionDefaults.firstBest_of_choose? chosen).2
  have prepared := prepare_foreignType_of_some chosen
  split at prepared
  · rw [outcomeAmong_of_error prepared]
    exact ⟨rfl, fun plan planned => by cases planned⟩
  · next fine =>
    refine ⟨target_outcomeAmong prepared, fun plan planned => ?_⟩
    obtain ⟨p, generated, prepared', -, made, rfl⟩ := exists_generate_of_plan planned
    obtain rfl := Except.ok.inj (prepared.symm.trans prepared')
    exact plansFor_of_generate some_matched (Bool.eq_false_of_not_eq_true fine) made

/-- **What becomes of a type that cannot be annotated**, in any request. If no parameter of any
constructor has a companion default, there is no plan, and the one thing that is reported is that no
defaults were found. Otherwise the first constructor of highest rank is used: the report is the same
if the type has no other constructor, and if there is a plan, it is a plan for this one. -/
theorem outcome_foreignType (g : Generator) (callables : List DeclaredCallable)
    (before behind : List ForeignType) (e : ForeignType) :
    ∃ outcome, (g.run ⟨callables, before ++ e :: behind⟩).outcomes[callables.length +
        before.length]? = some outcome ∧
      ((∀ c ∈ e.constructors, (g.defaultsFor e).matched c = 0) →
        outcome.plan = none ∧ outcome.diagnostics = [
          { severity := .warning
            target := e.owner.display
            parameter := none
            span := ⟨0, 0, 0⟩
            problem := .companion (.noDefaultsFound e.owner.display e.companion.name) }]) ∧
      ((∃ c ∈ e.constructors, (g.defaultsFor e).matched c ≠ 0) →
        ∃ c, (g.defaultsFor e).FirstBest e.constructors c ∧
          g.run ⟨callables, before ++ e.only c :: behind⟩ =
            g.run ⟨callables, before ++ e :: behind⟩ ∧
          outcome.target = c.toTarget.display ∧
          ∀ plan, outcome.plan = some plan → g.PlansFor e c plan) := by
  have at_place : (Request.mk callables (before ++ e :: behind)).inputs[callables.length +
      before.length]? = some (.foreignType e) := by
    simp [Request.inputs]
  refine ⟨_, by rw [getElem?_outcomes_run, at_place, Option.map_some], ?_, ?_⟩
  · intro unmatched
    have none := CompanionDefaults.choose?_eq_none_iff.2 unmatched
    rw [outcomeAmong_of_error (prepare_foreignType_of_none none)]
    exact ⟨rfl, rfl⟩
  · intro some_matched
    have chosen : ((g.defaultsFor e).choose? e.constructors).isSome := by
      rw [Option.isSome_iff_ne_none, ne_eq, CompanionDefaults.choose?_eq_none_iff]
      push Not
      exact some_matched
    obtain ⟨c, chosen⟩ := Option.isSome_iff_exists.1 chosen
    obtain ⟨target, planned⟩ := outcomeAmong_of_choose? chosen
    refine ⟨c, (CompanionDefaults.firstBest_of_choose? chosen).1, run_congr ?_, target, planned⟩
    simp only [Request.inputs, List.map_append, List.map_cons, prepare_only chosen]

section Samples

/-- A generator that knows of a default port. -/
def poolGenerator : Generator :=
  ⟨Registry.poolRegistry.symbolTable, {}⟩

/-- A constructor that takes a name and a port. -/
def namedPoolConstructor : SourcedCallable :=
  { Registry.poolConstructor with
    parameters := ⟨⟨"name", .string⟩, none, .unknown⟩ :: Registry.poolConstructor.parameters }

/-- A type with two constructors that take a port. -/
def poolType : ForeignType where
  owner := ⟨"Pool", ["acme"]⟩
  companion := Registry.poolDefaultsName
  constructors := [Registry.poolConstructor, namedPoolConstructor]
  mode := .overloaded
  entryPoint := none

end Samples

/-- Of two constructors with one companion default each, the one with more parameters is used, and
it has two overloads. -/
theorem outcome_foreignType_pool :
    ∃ plan all, (poolGenerator.run ⟨[], [poolType]⟩).plans = [plan] ∧
      (poolGenerator.defaultsFor poolType).FirstBest poolType.constructors namedPoolConstructor ∧
      poolGenerator.PlansFor poolType namedPoolConstructor plan ∧
      plan.generated = .overloads all ∧ all.length = 2 := by
  obtain ⟨outcome, reported, -, used⟩ := outcome_foreignType poolGenerator [] [] [] poolType
  obtain rfl := Option.some.inj reported
  obtain ⟨c, best, -, -, planned⟩ :=
    used ⟨namedPoolConstructor, List.mem_cons_of_mem _ List.mem_cons_self, by decide⟩
  have plans := planned _ rfl
  obtain rfl : c = namedPoolConstructor := by
    obtain ⟨before, behind, split, -⟩ := best
    have mem : c ∈ poolType.constructors := split ▸ List.mem_append_right _ List.mem_cons_self
    have two := congrArg List.length plans.parameters_eq
    rcases List.mem_cons.1 mem with rfl | mem
    · exact absurd two (by decide)
    · exact List.mem_singleton.1 mem
  obtain ⟨all, made, count, -⟩ := plans.overloaded rfl
  exact ⟨_, all, rfl, best, plans, made, count⟩

end Planned

end Generator

end DefaultArgs
