import DefaultArgs.Generation.Run
import DefaultArgs.Proofs.Plan.Conflict
import DefaultArgs.Registry.Table

/-!
# Outcomes, one by one

A run computes every outcome from the input at its place and from the list of builders that the
request asks for. Without a conflict the outcome is the one that the input has alone; with one, it
is the failure that the conflict makes of a prepared target.

## Main definitions

* `Request.single x`: the request for `x` alone
* `Generator.builder? g x`: the builder that `x` asks for, if its preparation succeeds
* `Generator.builders g request`: the builders that a request asks for
* `Generator.conflictOf? g all x`: the conflict of `x` with the builders in a list
* `Generator.outcomeAlone g x`, `Generator.outcomeAmong g all x`: the outcome of `x` alone, and
  beside the builders in a list
* `serverConstructor mode params`, `bareGenerator`: constructors of one type, and a generator, for
  examples

## Main results

* `outcomes_run`: the outcomes of a run, from the inputs
* `prepare_declared_of_unique`, `prepare_declared_of_several`: the preparation of a declaration
* `outcomeAmong_of_error`, `outcomeAmong_of_none`, `outcomeAmong_of_conflict`: the outcome of a
  failed preparation, and the outcome without and with a conflict
* `outcomes_single`: the outcome of a request for a single target
* `exists_generate_of_plan`: where a plan comes from
-/

namespace DefaultArgs

/-- The request for a single target. -/
def Request.single : Input → Request
  | .declared c => ⟨[c], []⟩
  | .foreignType e => ⟨[], [e]⟩

@[simp] theorem Request.inputs_single (x : Input) : (Request.single x).inputs = [x] := by
  cases x <;> rfl

section Samples

/-- The type whose constructors serve as examples. -/
def serverName : QualifiedName := ⟨"Server", ["acme"]⟩

/-- A constructor of the type. -/
def serverConstructor (mode : GenerationMode) (parameters : List DeclaredParameter) :
    DeclaredCallable :=
  { Callable.ofOwner serverName with mode, ownerKind := .class, parameters }

/-- A parameter with a default. -/
def defaulted (name : String) (ty : ValueType) (source : DeclaredDefault) : DeclaredParameter :=
  ⟨⟨name, ty⟩, [source], [], .unknown⟩

/-- A generator with the default settings that knows of no declared types. -/
def bareGenerator : Generator :=
  ⟨Registry.empty.symbolTable, {}⟩

end Samples

namespace Generator

variable (g : Generator)

/-- The builder that an input asks for: the input is in named mode and its preparation succeeds. -/
def builder? (x : Input) : Option NamedTarget :=
  (g.prepare x).toOption.bind PreparedTarget.named?

/-- The builders that the inputs of a request ask for, in order. -/
def builders (request : Request) : List NamedTarget :=
  request.inputs.filterMap g.builder?

/-- The conflict of the builder that an input asks for with the builders in a list. -/
def conflictOf? (all : List NamedTarget) (x : Input) : Option StructuralError :=
  (g.builder? x).bind (NamedTarget.conflict? g.config.builderSuffix all)

/-- The outcome of an input alone. -/
def outcomeAlone (x : Input) : Outcome :=
  g.conclude (g.prepare x)

/-- The outcome of an input beside the builders in a list. -/
def outcomeAmong (all : List NamedTarget) (x : Input) : Outcome :=
  g.conclude (g.settle all (g.prepare x))

variable {g} {request : Request} {all : List NamedTarget} {x : Input} {p : PreparedTarget}
  {plan : Plan}

section Runs

theorem namedTargets_inputs (g : Generator) (request : Request) :
    namedTargets (request.inputs.map g.prepare) = g.builders request := by
  rw [namedTargets, List.filterMap_map]
  rfl

theorem outcomes_run (g : Generator) (request : Request) :
    (g.run request).outcomes = request.inputs.map (g.outcomeAmong (g.builders request)) := by
  simp only [run, namedTargets_inputs, List.map_map]
  rfl

theorem getElem?_outcomes_run (g : Generator) (request : Request) (i : Nat) :
    (g.run request).outcomes[i]? =
      request.inputs[i]?.map (g.outcomeAmong (g.builders request)) := by
  rw [outcomes_run, List.getElem?_map]

theorem mem_builders_of_getElem? {i : Nat} {t : NamedTarget}
    (asked : request.inputs[i]?.bind g.builder? = some t) : t ∈ g.builders request := by
  obtain ⟨x, at_i, asks⟩ := Option.bind_eq_some_iff.1 asked
  exact List.mem_filterMap.2 ⟨x, List.mem_of_getElem? at_i, asks⟩

theorem exists_getElem?_of_mem_builders {t : NamedTarget} (mem : t ∈ g.builders request) :
    ∃ i : Nat, request.inputs[i]?.bind g.builder? = some t := by
  obtain ⟨x, mem, asks⟩ := List.mem_filterMap.1 mem
  obtain ⟨i, at_i⟩ := List.mem_iff_getElem?.1 mem
  exact ⟨i, by rw [at_i, Option.bind_some, asks]⟩

end Runs

section Declared

variable {c : DeclaredCallable}

/-- A declaration with at most one default at each site is prepared. -/
theorem prepare_declared_of_unique (single : c.duplicates = []) :
    g.prepare (.declared c) = .ok ⟨c.effective, .owner, .sourced, []⟩ := by
  simp only [prepare, prepareCallable, DeclaredCallable.toSourced, single, if_true]

/-- A declaration with several defaults at some site fails with what is reported of them. -/
theorem prepare_declared_of_several (several : c.duplicates ≠ []) :
    g.prepare (.declared c) = .error (.failed c.toTarget.display c.duplicates) := by
  simp only [prepare, prepareCallable, DeclaredCallable.toSourced, if_neg several]

end Declared

section Among

theorem builder?_of_ok (prepared : g.prepare x = .ok p) : g.builder? x = p.named? := by
  rw [builder?, prepared]
  rfl

/-- An input that asks for a builder was prepared in named mode. -/
theorem exists_prepared_of_builder? {t : NamedTarget} (asks : g.builder? x = some t) :
    ∃ p, g.prepare x = .ok p ∧ p.named? = some t := by
  cases prepared : g.prepare x with
  | error outcome =>
    rw [builder?, prepared] at asks
    cases asks
  | ok p => exact ⟨p, rfl, by rw [← builder?_of_ok prepared, asks]⟩

/-- The outcome of a preparation that failed is kept. -/
theorem outcomeAmong_of_error {outcome : Outcome} (failed : g.prepare x = .error outcome) :
    g.outcomeAmong all x = outcome := by
  simp only [outcomeAmong, failed, settle, Except.bind, conclude]

/-- **Without a conflict** the outcome of an input is the one that it has alone. -/
theorem outcomeAmong_of_none (none : g.conflictOf? all x = none) :
    g.outcomeAmong all x = g.outcomeAlone x := by
  unfold outcomeAmong outcomeAlone
  cases prepared : g.prepare x with
  | error outcome => rfl
  | ok p =>
    rw [conflictOf?, builder?_of_ok prepared] at none
    simp only [settle, Except.bind, none]

/-- **With a conflict** the outcome of an input is the failure of its prepared target: what its
preparation reported, and the conflict. -/
theorem outcomeAmong_of_conflict {conflict : StructuralError}
    (some : g.conflictOf? all x = some conflict) (prepared : g.prepare x = .ok p) :
    g.outcomeAmong all x = p.failed [.error p.target.display (.structural conflict)] := by
  rw [conflictOf?, builder?_of_ok prepared] at some
  simp only [outcomeAmong, prepared, settle, Except.bind, some, conclude]

theorem target_complete (p : PreparedTarget) : (g.complete p).target = p.target.display := by
  unfold complete
  dsimp only
  split
  · rfl
  · split <;> rfl

/-- The outcome of a prepared input is about its target. -/
theorem target_outcomeAmong (prepared : g.prepare x = .ok p) :
    (g.outcomeAmong all x).target = p.target.display := by
  cases conflict : g.conflictOf? all x with
  | some error =>
    rw [outcomeAmong_of_conflict conflict prepared]
    rfl
  | none =>
    rw [outcomeAmong_of_none conflict, outcomeAlone, prepared]
    exact target_complete p

theorem conflictOf?_builders_single (g : Generator) (x : Input) :
    g.conflictOf? (g.builders (.single x)) x = none := by
  unfold conflictOf? builders
  rw [Request.inputs_single]
  cases asks : g.builder? x with
  | none => rfl
  | some t =>
    rw [List.filterMap_cons_some asks, List.filterMap_nil, Option.bind_some]
    exact NamedTarget.conflict?_singleton _ t

/-- A request for a single target has the outcome of that target alone. -/
theorem outcomes_single (g : Generator) (x : Input) :
    (g.run (.single x)).outcomes = [g.outcomeAlone x] := by
  rw [outcomes_run, Request.inputs_single, List.map_singleton,
    outcomeAmong_of_none (conflictOf?_builders_single g x)]

end Among

section Plans

theorem plan_eq_none_of_prepare_error {outcome : Outcome} (failed : g.prepare x = .error outcome) :
    outcome.plan = none := by
  cases x with
  | declared c =>
    simp only [prepare, prepareCallable] at failed
    split at failed
    · cases failed
    · cases failed; rfl
  | foreignType e =>
    simp only [prepare, prepareForeignType] at failed
    split at failed
    · cases failed; rfl
    · split at failed
      · cases failed; rfl
      · cases failed

/-- A prepared target that gets a plan has no errors, and the plan is what is generated for it. -/
theorem exists_generate_of_complete (planned : (g.complete p).plan = some plan) :
    ∃ generated, g.generate p.callable (g.resolvedParameters p).1 = .ok generated ∧
      plan = ⟨p.target, p.placement, generated⟩ := by
  unfold complete at planned
  dsimp only at planned
  split at planned
  · cases planned
  · split at planned
    · next generated made =>
      cases planned
      exact ⟨generated, made, rfl⟩
    · cases planned

/-- **Where a plan comes from.** The input was prepared, it is in no conflict, and the plan is what
is generated for the prepared target. -/
theorem exists_generate_of_plan (planned : (g.outcomeAmong all x).plan = some plan) :
    ∃ p generated, g.prepare x = .ok p ∧ g.conflictOf? all x = none ∧
      g.generate p.callable (g.resolvedParameters p).1 = .ok generated ∧
      plan = ⟨p.target, p.placement, generated⟩ := by
  cases prepared : g.prepare x with
  | error outcome =>
    rw [outcomeAmong_of_error prepared, plan_eq_none_of_prepare_error prepared] at planned
    cases planned
  | ok p =>
    cases conflict : g.conflictOf? all x with
    | some error =>
      rw [outcomeAmong_of_conflict conflict prepared] at planned
      cases planned
    | none =>
      rw [outcomeAmong_of_none conflict, outcomeAlone, prepared] at planned
      obtain ⟨generated, made, rfl⟩ := exists_generate_of_complete planned
      exact ⟨p, generated, rfl, rfl, made, rfl⟩

end Plans

end Generator

end DefaultArgs
