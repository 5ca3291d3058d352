import DefaultArgs.Proofs.Generation.Admission
import DefaultArgs.Proofs.Plan.Agreement

/-!
# The two modes agree

A declared callable is prepared alike in both modes, and its defaults are resolved alike. What is
wrong with them is reported in both modes, in the same words. The modes part only when the code is
made: a builder can always be made, and overloads if the parameters with defaults are the last ones.
If there are overloads, they do what the builder does.

## Main definitions

* `DeclaredCallable.inMode c mode`: the same declaration in another mode
* `DeclaredCallable.HasUniqueSources c`, `DeclaredCallable.DefaultsTrail c`,
  `Generator.ResolvesAll g c`: the three conditions for plans
* `Generator.defaultErrors g c`, `Generator.resolved g c`: what is wrong with the defaults of
  a declaration, and its parameters with their defaults

## Main results

* `Generator.defaultErrors_eq_nil_iff`: when nothing is wrong with the defaults
* `Generator.outcomeAlone_of_defaultErrors`, `Generator.outcomeAlone_of_resolved`: the outcome of
  a declaration alone
* `Generator.modes_agree`: the outcomes in both modes, compared
-/

namespace DefaultArgs

namespace DeclaredCallable

variable (c : DeclaredCallable)

/-- The same declaration in another mode. -/
def inMode (mode : GenerationMode) : DeclaredCallable :=
  { c with mode }

/-- No parameter has several defaults at one site. -/
def HasUniqueSources : Prop :=
  ∀ p ∈ c.parameters, p.ownDefaults.length ≤ 1 ∧ p.componentDefaults.length ≤ 1

/-- The parameters with defaults are the last ones. -/
def DefaultsTrail : Prop :=
  IsTrailing (fun p => (p.effectiveSource? c.ownerKind).isSome) c.parameters

theorem toTarget_effective : c.effective.toTarget = c.toTarget := by
  have params : c.effective.parameters.map (·.toParameter) =
      c.parameters.map (·.toParameter) := by
    simp only [effective, List.map_map]
    rfl
  show c.target (c.effective.parameters.map (·.toParameter)) = c.toTarget
  rw [params]
  rfl

variable {c}

/-- Sites with several defaults are the only thing that is reported before the defaults are
resolved. -/
theorem duplicates_eq_nil_iff : c.duplicates = [] ↔ c.HasUniqueSources := by
  have single (p : DeclaredParameter) : p.duplicates = [] ↔
      p.ownDefaults.length ≤ 1 ∧ p.componentDefaults.length ≤ 1 := by
    simp [DeclaredParameter.duplicates, DeclaredParameter.duplicateAt?]
  simp only [duplicates, List.flatMap_eq_nil_iff, List.map_eq_nil_iff, single]
  rfl

end DeclaredCallable

/-- A list of errors aborts a target as soon as it is not empty. -/
theorem Diagnostic.hasErrors_eq_false_iff {ds : List Diagnostic}
    (errors : ∀ d ∈ ds, d.isError = true) : hasErrors ds = false ↔ ds = [] := by
  cases ds with
  | nil => simp [hasErrors]
  | cons d rest => simp [hasErrors, errors d List.mem_cons_self]

namespace Generator

variable (g : Generator) (c : DeclaredCallable)

/-- Every default that counts resolves for the type of its parameter. -/
def ResolvesAll : Prop :=
  ∀ p ∈ c.parameters, ∀ source, p.effectiveSource? c.ownerKind = some source →
    ∃ e, g.resolveDefault c.owner p.valueType source = .ok e

/-- The errors in resolving the defaults. -/
def resolutionErrors : List Diagnostic :=
  c.effective.parameters.flatMap fun q => (g.resolveParameter c.effective q).2

/-- What is wrong with the defaults of a declaration: sites with several of them, or else the
defaults that cannot be resolved. -/
def defaultErrors : List Diagnostic :=
  if c.duplicates = [] then g.resolutionErrors c else c.duplicates

/-- The parameters of a declaration with their defaults. -/
def resolved : List ResolvedParameter :=
  c.effective.parameters.map fun q => (g.resolveParameter c.effective q).1

variable {g c} {s : SourcedCallable} {q : SourcedParameter} {d : Diagnostic}

section Resolving

theorem resolveParameter_of_none (undefaulted : q.source? = none) :
    g.resolveParameter s q = ({ q.toParameter with default? := none }, []) := by
  rw [resolveParameter, undefaulted, Option.map_none]

theorem isError_of_mem_resolveParameter (mem : d ∈ (g.resolveParameter s q).2) :
    d.isError = true := by
  unfold resolveParameter at mem
  split at mem
  · cases mem
  · cases mem
  · obtain rfl := List.mem_singleton.1 mem
    rfl

/-- Nothing is reported of a parameter whose default resolves, or that has none. -/
theorem resolveParameter_eq_nil_iff : (g.resolveParameter s q).2 = [] ↔
    ∀ source, q.source? = some source →
      ∃ e, g.resolveDefault s.owner q.valueType source = .ok e := by
  cases given : q.source? with
  | none => simp [resolveParameter_of_none given]
  | some source =>
    rw [resolveParameter, given, Option.map_some]
    cases found : g.resolveDefault s.owner q.valueType source with
    | ok e => simp [found]
    | error problem => simp [found]

/-- A parameter of which nothing is reported has a default if one was declared. -/
theorem isSome_default?_resolveParameter (fine : (g.resolveParameter s q).2 = []) :
    (g.resolveParameter s q).1.default?.isSome ↔ q.source?.isSome := by
  cases given : q.source? with
  | none => simp [resolveParameter_of_none given]
  | some source =>
    obtain ⟨e, found⟩ := resolveParameter_eq_nil_iff.1 fine source given
    simp [resolveParameter, given, found]

theorem resolutionErrors_eq_nil_iff : g.resolutionErrors c = [] ↔ g.ResolvesAll c := by
  simp only [resolutionErrors, List.flatMap_eq_nil_iff, resolveParameter_eq_nil_iff]
  exact List.forall_mem_map

/-- **When nothing is wrong with the defaults**: no site has several of them, and they all
resolve. -/
theorem defaultErrors_eq_nil_iff :
    g.defaultErrors c = [] ↔ c.HasUniqueSources ∧ g.ResolvesAll c := by
  rw [← DeclaredCallable.duplicates_eq_nil_iff, ← resolutionErrors_eq_nil_iff]
  unfold defaultErrors
  split
  · next single => simp [single]
  · next several => simp [several]

/-- The parameters that get a default are those for which one is declared. -/
theorem isTrailing_resolved_iff (all : g.ResolvesAll c) :
    IsTrailing (fun p => p.default?.isSome) (g.resolved c) ↔ c.DefaultsTrail := by
  have fine := List.flatMap_eq_nil_iff.1 (resolutionErrors_eq_nil_iff.2 all)
  rw [resolved, isTrailing_map_iff,
    isTrailing_congr fun q mem => isSome_default?_resolveParameter (fine q mem)]
  exact isTrailing_map_iff _

/-- Parameters keep their places and their names. -/
theorem exists_declared_of_resolved {k : Nat} {p : ResolvedParameter}
    (at_k : (g.resolved c)[k]? = some p) :
    ∃ declared, c.parameters[k]? = some declared ∧ declared.name = p.name := by
  rw [resolved, List.getElem?_map] at at_k
  obtain ⟨q, sourced, rfl⟩ := Option.map_eq_some_iff.1 at_k
  rw [DeclaredCallable.effective, List.getElem?_map] at sourced
  obtain ⟨declared, found, rfl⟩ := Option.map_eq_some_iff.1 sourced
  exact ⟨declared, found, by rw [toParameter_resolveParameter]⟩

end Resolving

section Outcomes

variable {generated : Generated} {error : StructuralError} {all : List Overload}

theorem outcomeAlone_of_unique (single : c.duplicates = []) :
    g.outcomeAlone (.declared c) = g.complete ⟨c.effective, .owner, .sourced, []⟩ := by
  rw [outcomeAlone, prepare_declared_of_unique single]
  rfl

theorem resolvedParameters_effective :
    g.resolvedParameters ⟨c.effective, .owner, .sourced, []⟩ =
      (g.resolved c, g.resolutionErrors c) := by
  simp only [resolvedParameters, resolved, resolutionErrors, List.map_map, List.flatMap_map]
  rfl

/-- **A declaration with wrong defaults** fails with what is wrong, and with nothing else. They are
found in its preparation, or else when the defaults of the prepared target are resolved. -/
theorem outcomeAlone_of_defaultErrors (wrong : g.defaultErrors c ≠ []) :
    g.outcomeAlone (.declared c) = .failed c.toTarget.display (g.defaultErrors c) := by
  unfold defaultErrors at wrong ⊢
  split at wrong
  · next single =>
    have errors : ∀ d ∈ g.resolutionErrors c, d.isError = true := by
      intro d mem
      obtain ⟨q, -, mem⟩ := List.mem_flatMap.1 mem
      exact isError_of_mem_resolveParameter mem
    have aborts : Diagnostic.hasErrors (g.resolutionErrors c) = true := by
      rw [← Bool.not_eq_false, Diagnostic.hasErrors_eq_false_iff errors]
      exact wrong
    rw [if_pos single, outcomeAlone_of_unique single, complete]
    simp only [resolvedParameters_effective, List.nil_append, aborts, if_true]
    rw [PreparedTarget.failed, PreparedTarget.target, c.toTarget_effective, List.nil_append]
  · next several =>
    rw [if_neg several, outcomeAlone, prepare_declared_of_several several]
    rfl

/-- A declaration whose defaults resolve is completed with its resolved parameters. -/
theorem outcomeAlone_of_resolved (fine : g.defaultErrors c = []) :
    g.outcomeAlone (.declared c) =
      match g.generate c.effective (g.resolved c) with
      | .ok generated => ⟨c.toTarget.display, some ⟨c.toTarget, .owner, generated⟩, []⟩
      | .error error =>
        .failed c.toTarget.display [.error c.toTarget.display (.structural error)] := by
  obtain ⟨unique, all⟩ := defaultErrors_eq_nil_iff.1 fine
  have single := DeclaredCallable.duplicates_eq_nil_iff.2 unique
  have none := resolutionErrors_eq_nil_iff.2 all
  rw [outcomeAlone_of_unique single, complete]
  simp only [resolvedParameters_effective, none, List.append_nil, PreparedTarget.failed,
    PreparedTarget.target, c.toTarget_effective, List.nil_append]
  rfl

/-- In named mode a declaration whose defaults resolve gets its builder. -/
theorem outcomeAlone_named (fine : g.defaultErrors c = []) (mode : c.mode = .named) :
    g.outcomeAlone (.declared c) =
      { target := c.toTarget.display
        plan := some ⟨c.toTarget, .owner,
          .builder (.ofCallable c.effective (g.resolved c) g.config)⟩
        diagnostics := [] } := by
  have made : g.generate c.effective (g.resolved c) =
      .ok (.builder (.ofCallable c.effective (g.resolved c) g.config)) := by
    have mode : c.effective.mode = .named := mode
    rw [generate, mode]
  rw [outcomeAlone_of_resolved fine, made]

/-- In overloaded mode a declaration whose defaults resolve gets its overloads, or it fails with the
error of the overloads. -/
theorem outcomeAlone_overloaded (fine : g.defaultErrors c = []) (mode : c.mode = .overloaded) :
    g.outcomeAlone (.declared c) =
      match overloadsOf c.toTarget (g.resolved c) with
      | .ok all => ⟨c.toTarget.display, some ⟨c.toTarget, .owner, .overloads all⟩, []⟩
      | .error error =>
        .failed c.toTarget.display [.error c.toTarget.display (.structural error)] := by
  have made : g.generate c.effective (g.resolved c) =
      (overloadsOf c.toTarget (g.resolved c)).map .overloads := by
    have mode : c.effective.mode = .overloaded := mode
    rw [generate, mode, c.toTarget_effective]
  rw [outcomeAlone_of_resolved fine, made]
  cases overloadsOf c.toTarget (g.resolved c) <;> rfl

end Outcomes

section Comparison

/-- What is wrong with the defaults does not depend on the mode. -/
theorem defaultErrors_inMode (g : Generator) (c : DeclaredCallable) (mode : GenerationMode) :
    g.defaultErrors (c.inMode mode) = g.defaultErrors c :=
  rfl

/-- Neither do the parameters with their defaults. -/
theorem resolved_inMode (g : Generator) (c : DeclaredCallable) (mode : GenerationMode) :
    g.resolved (c.inMode mode) = g.resolved c :=
  rfl

theorem toTarget_inMode (c : DeclaredCallable) (mode : GenerationMode) :
    (c.inMode mode).toTarget = c.toTarget :=
  rfl

/-- What is wrong with the defaults is reported alike in both modes. -/
theorem outcomeAlone_inMode_of_defaultErrors (wrong : g.defaultErrors c ≠ [])
    (mode : GenerationMode) : g.outcomeAlone (.declared (c.inMode mode)) =
      .failed c.toTarget.display (g.defaultErrors c) := by
  rw [← defaultErrors_inMode g c mode] at wrong
  exact outcomeAlone_of_defaultErrors wrong

/-- The plan that a declaration has in named mode. -/
theorem plan_named (fine : g.defaultErrors c = []) :
    (g.outcomeAlone (.declared (c.inMode .named))).plan = some ⟨c.toTarget, .owner,
      .builder (.ofCallable (c.inMode .named).effective (g.resolved c) g.config)⟩ := by
  rw [← defaultErrors_inMode g c .named] at fine
  rw [outcomeAlone_named fine rfl, toTarget_inMode, resolved_inMode]

/-- The plan that a declaration has in overloaded mode, if there are overloads. -/
theorem plan_overloaded (fine : g.defaultErrors c = []) {all : List Overload}
    (made : overloadsOf c.toTarget (g.resolved c) = .ok all) :
    (g.outcomeAlone (.declared (c.inMode .overloaded))).plan =
      some ⟨c.toTarget, .owner, .overloads all⟩ := by
  rw [← defaultErrors_inMode g c .overloaded] at fine
  rw [outcomeAlone_overloaded fine rfl, toTarget_inMode, resolved_inMode, made]

/-- Without overloads, a declaration whose defaults resolve fails because of a parameter without
a default that follows one with a default. -/
theorem exists_outcomeAlone_of_gap (fine : g.defaultErrors c = [])
    (gap : ¬ c.DefaultsTrail) : ∃ k p, c.parameters[k]? = some p ∧
      g.outcomeAlone (.declared (c.inMode .overloaded)) =
        .failed c.toTarget.display [.error c.toTarget.display
          (.structural (.nonConsecutiveDefault c.toTarget.display k p.name))] := by
  obtain ⟨-, all⟩ := defaultErrors_eq_nil_iff.1 fine
  rw [← isTrailing_resolved_iff all] at gap
  obtain ⟨k, p, at_k, made⟩ := exists_overloadsOf_eq_error c.toTarget gap
  obtain ⟨declared, found, same⟩ := exists_declared_of_resolved at_k
  refine ⟨k, declared, found, ?_⟩
  rw [← defaultErrors_inMode g c .overloaded] at fine
  rw [outcomeAlone_overloaded fine rfl, toTarget_inMode, resolved_inMode, made, same]

/-- **The two modes agree.** Take any declared callable, alone in named mode and alone in overloaded
mode. In named mode it has a plan if no site has several defaults and all defaults resolve, and only
then; in overloaded mode the parameters with defaults have to be the last ones as well. What fails
in named mode fails in overloaded mode with the same diagnostics. What fails in overloaded mode only
has one diagnostic: a parameter without a default follows one with a default. And if there are plans
in both modes, every overload does what the builder does with the same arguments, and there is an
overload for every count of arguments that the builder can do with. -/
theorem modes_agree (g : Generator) (c : DeclaredCallable) :
    ∃ named overloaded : Outcome,
      (g.run (.single (.declared (c.inMode .named)))).outcomes = [named] ∧
      (g.run (.single (.declared (c.inMode .overloaded)))).outcomes = [overloaded] ∧
      (named.plan.isSome ↔ c.HasUniqueSources ∧ g.ResolvesAll c) ∧
      (overloaded.plan.isSome ↔ (c.HasUniqueSources ∧ g.ResolvesAll c) ∧ c.DefaultsTrail) ∧
      (named.plan = none → overloaded.plan = none ∧ overloaded.diagnostics = named.diagnostics) ∧
      (named.plan.isSome → overloaded.plan = none → ∃ k p, c.parameters[k]? = some p ∧
        overloaded.diagnostics = [
          { severity := .error
            target := c.toTarget.display
            parameter := none
            span := ⟨0, 0, 0⟩
            problem := .structural (.nonConsecutiveDefault c.toTarget.display k p.name) }]) ∧
      ∀ plan plan', named.plan = some plan → overloaded.plan = some plan' →
        ∃ builder all, plan.generated = .builder builder ∧ plan'.generated = .overloads all ∧
          (∀ o ∈ all, o.AgreesWith builder) ∧
          ∀ count, (∃ o ∈ all, o.provided = count) ↔ builder.OptionalFrom count := by
  refine ⟨_, _, outcomes_single g _, outcomes_single g _, ?_⟩
  rw [← defaultErrors_eq_nil_iff]
  by_cases fine : g.defaultErrors c = []
  · have named := plan_named fine
    obtain ⟨-, resolves⟩ := defaultErrors_eq_nil_iff.1 fine
    by_cases trails : c.DefaultsTrail
    · -- Both modes succeed.
      obtain ⟨all, made⟩ := (exists_overloadsOf_iff c.toTarget).2
        ((isTrailing_resolved_iff resolves).2 trails)
      have overloaded := plan_overloaded fine made
      refine ⟨by simp [named, fine], by simp [overloaded, fine, trails], by simp [named],
        by simp [overloaded], ?_⟩
      intro plan plan' is_plan is_plan'
      obtain rfl := Option.some.inj (named.symm.trans is_plan)
      obtain rfl := Option.some.inj (overloaded.symm.trans is_plan')
      exact ⟨_, all, rfl, rfl, fun o mem => Overload.agreesWith_of_mem made mem _ _,
        fun count => exists_mem_overloadsOf_iff_optionalFrom made _ _⟩
    · -- Only the overloads fail.
      obtain ⟨k, p, at_k, failed⟩ := exists_outcomeAlone_of_gap fine trails
      refine ⟨by simp [named, fine], by simp [failed, trails, Outcome.failed], by simp [named], ?_,
        by simp [failed, Outcome.failed]⟩
      intro _ _
      exact ⟨k, p, at_k, congrArg Outcome.diagnostics failed⟩
  · -- Both modes fail alike.
    have named := outcomeAlone_inMode_of_defaultErrors fine .named
    have overloaded := outcomeAlone_inMode_of_defaultErrors fine .overloaded
    rw [named, overloaded]
    simp [Outcome.failed, fine]

section Samples

/-- A constructor that needs a host and has a default for its port. -/
def portServer : DeclaredCallable :=
  serverConstructor .overloaded
    [⟨⟨"host", .string⟩, [], [], .unknown⟩, defaulted "port" (.primitive .int) (.literal "80")]

end Samples

/-- The constructor has plans in both modes. The overload that is given the host only does what the
builder does with the host only. -/
theorem modes_agree_portServer :
    ∃ (plan plan' : Plan) (builder : Builder) (all : List Overload) (o : Overload),
      (bareGenerator.run (.single (.declared (portServer.inMode .named)))).plans = [plan] ∧
      (bareGenerator.run (.single (.declared (portServer.inMode .overloaded)))).plans = [plan'] ∧
      plan.generated = .builder builder ∧ plan'.generated = .overloads all ∧
      o ∈ all ∧ o.provided = 1 ∧ o.AgreesWith builder := by
  obtain ⟨named, overloaded, ran, ran', -, -, -, -, agree⟩ := modes_agree bareGenerator portServer
  have is_named := List.singleton_inj.1 (show [_] = [named] from ran)
  have is_overloaded := List.singleton_inj.1 (show [_] = [overloaded] from ran')
  subst is_named is_overloaded
  obtain ⟨builder, all, made, made', agrees, complete⟩ := agree _ _ rfl rfl
  have optional : builder.OptionalFrom 1 := by
    cases made
    exact ⟨by decide, by decide⟩
  obtain ⟨o, mem, one⟩ := (complete 1).2 optional
  exact ⟨_, _, builder, all, o, rfl, rfl, made, made', mem, one, agrees o mem⟩

end Comparison

end Generator

end DefaultArgs
