import DefaultArgs.Proofs.Default.Admissible
import DefaultArgs.Proofs.Generation.Outcome
import DefaultArgs.Proofs.Plan.Insertion

/-!
# Plans insert admissible defaults only

Defaults reach a plan on two ways: declared sources are read or resolved after the builders were
compared, and companion defaults are filled in during preparation. On both ways every parameter
keeps its name and its type, and its default, if it gets one, is admissible for it. Overloads and
builders insert defaults at the places of their parameters, so whatever a plan inserts is admissible
at its place.

## Main definitions

* `Registry.AdmitsAll r owner params`: every default among the parameters is admissible
* `Input.callables x`: the callables that an input can be generated for

## Main results

* `admitsAll_resolvedParameters`: the parameters of a prepared target have admissible defaults
* `admits_of_run`: what the plans of a report insert is admissible
-/

namespace DefaultArgs

/-- Every default among the parameters is admissible for its parameter. -/
def Registry.AdmitsAll (r : Registry) (owner : QualifiedName) (params : List ResolvedParameter) :
    Prop :=
  ∀ q ∈ params, ∀ e, q.default? = some e → r.Admits owner q.valueType e

/-- The callables that an input can be generated for: the declared callable, or the constructors of
a type that cannot be annotated, in the mode and with the entry point of the type. -/
def Input.callables : Input → List SourcedCallable
  | .declared c => [c.effective]
  | .foreignType e =>
    e.constructors.map fun c => { c with mode := e.mode, entryPoint := e.entryPoint }

variable {r : Registry} {config : Config} {owner companion : QualifiedName} {ty : ValueType}
  {e : Expression}

section Filling

variable {table : SymbolTable} {ds : CompanionDefaults} {target : String} {c : SourcedCallable}

@[simp] theorem SymbolTable.toParameter_fillParameter (p : SourcedParameter) :
    (table.fillParameter ds target p).1.toParameter = p.toParameter := by
  unfold fillParameter
  split
  · rfl
  · dsimp only
    split <;> rfl

theorem SymbolTable.toParameter_fill (warnUnmatched : Bool) :
    (table.fill ds c warnUnmatched).1.map (·.toParameter) =
      c.parameters.map (·.toParameter) := by
  simp only [fill, List.map_map]
  exact List.map_congr_left fun p _ => toParameter_fillParameter p

theorem Registry.admits_of_fillParameter {p : SourcedParameter}
    (given : (r.symbolTable.fillParameter (r.symbolTable.companionDefaults companion) target
      p).1.default? = some e) : r.Admits owner p.valueType e := by
  obtain ⟨d, bound, assignable, rfl⟩ := SymbolTable.exists_get?_of_fillParameter given
  exact admits_of_get? owner bound assignable

theorem Registry.admitsAll_fill (r : Registry) (owner companion : QualifiedName)
    (c : SourcedCallable) (warnUnmatched : Bool) :
    r.AdmitsAll owner
      (r.symbolTable.fill (r.symbolTable.companionDefaults companion) c warnUnmatched).1 := by
  intro q mem e given
  simp only [SymbolTable.fill, List.map_map] at mem
  obtain ⟨p, -, rfl⟩ := List.mem_map.1 mem
  have admits : r.Admits owner p.valueType e := admits_of_fillParameter given
  simpa using admits

end Filling

namespace Generator

variable {g : Generator} {c : SourcedCallable} {p : PreparedTarget} {x : Input}

section Resolving

@[simp] theorem toParameter_resolveParameter (q : SourcedParameter) :
    (g.resolveParameter c q).1.toParameter = q.toParameter := by
  unfold resolveParameter
  split <;> rfl

theorem admits_of_resolveDefault {source : DeclaredDefault}
    (resolved : resolveDefault ⟨r.symbolTable, config⟩ owner ty source = .ok e) :
    r.Admits owner ty e := by
  unfold resolveDefault at resolved
  split at resolved
  · cases read : Literal.read ty source.text with
    | error defect => simp [read, Except.map, Except.mapError] at resolved
    | ok value =>
      simp only [read, Except.map, Except.mapError, Except.ok.injEq] at resolved
      subst resolved
      exact .literal (Literal.fits_of_read read)
  · next kind _ =>
    dsimp only at resolved
    cases found : r.symbolTable.resolve kind ty owner source.text with
    | error defect => simp [found, Except.mapError] at resolved
    | ok e' =>
      simp only [found, Except.mapError, Except.ok.injEq] at resolved
      subst resolved
      exact Registry.admits_of_resolve found

theorem admits_of_resolveParameter {q : SourcedParameter}
    (given : (resolveParameter ⟨r.symbolTable, config⟩ c q).1.default? = some e) :
    r.Admits c.owner q.valueType e := by
  unfold resolveParameter at given
  split at given
  · cases given
  · next resolved =>
    cases given
    obtain ⟨source, -, resolved⟩ := Option.map_eq_some_iff.1 resolved
    exact admits_of_resolveDefault resolved
  · cases given

end Resolving

section Prepared

/-- The best of the candidates is the first one or the best of the others. -/
theorem choose?_mem {ds : CompanionDefaults} {candidates : List SourcedCallable}
    (h : ds.choose? candidates = some c) : c ∈ candidates := by
  obtain ⟨best, -⟩ := Option.filter_eq_some_iff.1 h
  clear h
  induction candidates with
  | nil => cases best
  | cons candidate rest ih =>
    simp only [CompanionDefaults.best?] at best
    split at best
    · next other found =>
      split at best
      · cases best
        exact List.mem_cons_of_mem _ (ih found)
      · cases best
        exact List.mem_cons_self
    · cases best
      exact List.mem_cons_self

/-- A prepared target keeps the source texts of a declared callable, or it is a constructor of
a type that cannot be annotated with the defaults of the companion. -/
theorem prepare_cases (prepared : g.prepare x = .ok p) :
    p.callable ∈ x.callables ∧ (p.parameters = .sourced ∨ ∃ companion,
      p.parameters = .filled (g.symbols.fill (g.symbols.companionDefaults companion) p.callable
        g.config.warnUnmatched).1) := by
  cases x with
  | declared c =>
    simp only [prepare, prepareCallable, DeclaredCallable.toSourced] at prepared
    split at prepared
    · next sourced =>
      cases prepared
      split at sourced <;> cases sourced
      exact ⟨List.mem_singleton.2 rfl, .inl rfl⟩
    · cases prepared
  | foreignType e =>
    simp only [prepare, prepareForeignType] at prepared
    split at prepared
    · cases prepared
    · next chosen found =>
      split at prepared
      · cases prepared
      · cases prepared
        exact ⟨List.mem_map.2 ⟨chosen, choose?_mem found, rfl⟩, .inr ⟨e.companion, rfl⟩⟩

/-- Resolving the defaults keeps the names and the types of the parameters. -/
theorem toParameter_resolvedParameters (prepared : g.prepare x = .ok p) :
    (g.resolvedParameters p).1.map (·.toParameter) =
      p.callable.parameters.map (·.toParameter) := by
  obtain ⟨-, sourced | ⟨companion, filled⟩⟩ := prepare_cases prepared
  · simp only [resolvedParameters, sourced, List.map_map]
    exact List.map_congr_left fun q _ => toParameter_resolveParameter q
  · simp only [resolvedParameters, filled]
    exact SymbolTable.toParameter_fill _

/-- The parameters of a prepared target have admissible defaults. Declared sources are read or
resolved for the type of their parameter and the owner, and companion defaults are admissible for
any owner. -/
theorem admitsAll_resolvedParameters
    (prepared : prepare ⟨r.symbolTable, config⟩ x = .ok p) :
    r.AdmitsAll p.target.owner (resolvedParameters ⟨r.symbolTable, config⟩ p).1 := by
  obtain ⟨-, sourced | ⟨companion, filled⟩⟩ := prepare_cases prepared
  · intro q mem e given
    simp only [resolvedParameters, sourced, List.map_map] at mem
    obtain ⟨q, -, rfl⟩ := List.mem_map.1 mem
    have admits : r.Admits p.target.owner q.valueType e := admits_of_resolveParameter given
    simpa using admits
  · simp only [resolvedParameters, filled]
    exact r.admitsAll_fill _ companion p.callable _

end Prepared

section Plans

variable {params : List ResolvedParameter} {generated : Generated} {k : Nat}

/-- What is generated for a callable: the overloads of its parameters, if there are any, or its
builder. -/
theorem generate_cases (made : g.generate c params = .ok generated) :
    (c.mode = .overloaded ∧ ∃ all, overloadsOf c.toTarget params = .ok all ∧
      generated = .overloads all) ∨
    (c.mode = .named ∧ generated = .builder (.ofCallable c params g.config)) := by
  unfold generate at made
  split at made
  · next mode =>
    cases expanded : overloadsOf c.toTarget params with
    | error defect => simp [expanded, Except.map] at made
    | ok all =>
      simp only [expanded, Except.map, Except.ok.injEq] at made
      exact .inl ⟨mode, all, rfl, made.symm⟩
  · next mode =>
    cases made
    exact .inr ⟨mode, rfl⟩

theorem parameters_of_generate (made : g.generate c params = .ok generated) :
    generated.parameters = params.map (·.toParameter) := by
  rcases generate_cases made with ⟨-, all, expanded, rfl⟩ | ⟨-, rfl⟩
  · exact parameters_overloads expanded
  · exact parameters_builder

theorem exists_default_of_inserts (made : g.generate c params = .ok generated)
    (inserts : generated.Inserts k e) : ∃ q, params[k]? = some q ∧ q.default? = some e := by
  rcases generate_cases made with ⟨-, all, expanded, rfl⟩ | ⟨-, rfl⟩
  · exact exists_default_of_inserts_overloads expanded inserts
  · exact exists_default_of_inserts_builder inserts

/-- **Plans insert admissible defaults only.** A plan in a report is made for a callable of the
input at its place, and it shows the parameters of this callable. Whatever it inserts for one of
them, as an argument of an overload or as the value that a field starts with, is admissible for the
type of this parameter and the owner of the target. -/
theorem admits_of_run {request : Request} {i : Nat} {outcome : Outcome} {plan : Plan}
    (reported : (run ⟨r.symbolTable, config⟩ request).outcomes[i]? = some outcome)
    (planned : outcome.plan = some plan) :
    ∃ x c, request.inputs[i]? = some x ∧ c ∈ x.callables ∧ plan.target = c.toTarget ∧
      plan.generated.parameters = c.parameters.map (·.toParameter) ∧
      ∀ k e, plan.generated.Inserts k e →
        ∃ q, c.parameters[k]? = some q ∧ r.Admits plan.target.owner q.valueType e := by
  rw [getElem?_outcomes_run] at reported
  obtain ⟨x, at_i, rfl⟩ := Option.map_eq_some_iff.1 reported
  obtain ⟨p, generated, prepared, -, made, rfl⟩ := exists_generate_of_plan planned
  have kept := toParameter_resolvedParameters prepared
  refine ⟨x, p.callable, at_i, (prepare_cases prepared).1, rfl, ?_, ?_⟩
  · rw [← kept]
    exact parameters_of_generate made
  · intro k e inserts
    obtain ⟨q, at_k, given⟩ := exists_default_of_inserts made inserts
    have admits := admitsAll_resolvedParameters prepared q (List.mem_of_getElem? at_k) e given
    have same : p.callable.parameters[k]?.map (·.toParameter) = some q.toParameter := by
      rw [← List.getElem?_map, ← kept, List.getElem?_map, at_k, Option.map_some]
    obtain ⟨q', at_k', eq⟩ := Option.map_eq_some_iff.1 same
    refine ⟨q', at_k', ?_⟩
    rw [congrArg Parameter.valueType eq]
    exact admits

section Samples

/-- A registry whose only type has a private constant. -/
def serverRegistry : Registry :=
  (Registry.empty.declare ⟨serverName, .class, []⟩
    [(Member.constant "PORT" (.primitive .int)).withVisibility .private]).1

/-- A constructor of the type that refers to the constant. -/
def serverRequest : Request :=
  ⟨[serverConstructor .overloaded
    [defaulted "host" .string (.literal "null"),
      defaulted "port" (.primitive .int) (.field "PORT")]], []⟩

end Samples

/-- The private constant is inserted for the second parameter, in a target of its own type. -/
theorem admits_of_run_private_constant :
    ∃ (outcome : Outcome) (plan : Plan) (x : Input) (c : SourcedCallable) (q : SourcedParameter),
      (run ⟨serverRegistry.symbolTable, {}⟩ serverRequest).outcomes[0]? = some outcome ∧
      outcome.plan = some plan ∧ plan.generated.Inserts 1 (.field (serverName.child "PORT")) ∧
      serverRequest.inputs[0]? = some x ∧ c ∈ x.callables ∧ c.parameters[1]? = some q ∧
      serverRegistry.Admits plan.target.owner q.valueType (.field (serverName.child "PORT")) := by
  obtain ⟨outcome, plan, reported, planned, inserts⟩ : ∃ (outcome : Outcome) (plan : Plan),
      (run ⟨serverRegistry.symbolTable, {}⟩ serverRequest).outcomes[0]? = some outcome ∧
      outcome.plan = some plan ∧ plan.generated.Inserts 1 (.field (serverName.child "PORT")) :=
    ⟨_, _, rfl, rfl, .argument (List.mem_cons_of_mem _ List.mem_cons_self) rfl⟩
  obtain ⟨x, c, at_0, mem, -, -, admits⟩ := admits_of_run reported planned
  obtain ⟨q, at_1, admits⟩ := admits 1 _ inserts
  exact ⟨outcome, plan, x, c, q, reported, planned, inserts, at_0, mem, at_1, admits⟩

end Plans

end Generator

end DefaultArgs
