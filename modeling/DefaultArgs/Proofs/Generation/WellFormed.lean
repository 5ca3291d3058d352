import DefaultArgs.Proofs.Generation.ForeignTypes
import DefaultArgs.Proofs.Generation.Modes

/-!
# Reports are well formed

Every target of a request has one outcome, in the place of the target. The outcome is about this
target, as is everything in it, and it has either a plan without errors or a reason for not having
one.

A target can fail in each of the three steps. In every case but one it fails with errors, and with
whatever was reported before. The exception is a type for which no companion defaults are found:
this is a warning, and the only one.

## Main definitions

* `Input.display x`, `Input.mode x`, `Generator.placement g x`: what is known of a target before
  anything is done with it
* `Generator.Suits g x plan`: the plan is of the kind that the target asks for
* `Generator.WellFormed g x o`: the outcome is a proper outcome of the target
* `Generator.Prepares g x p`: the target was properly prepared
* `Generator.Proper g x item`: the target was properly prepared or has failed properly

## Main results

* `wellFormed_of_hasErrors`: a target that fails with errors
* `proper_prepare_declared`, `proper_prepare_foreignType`, `Proper.settle`,
  `Proper.wellFormed_conclude`: the steps
* `wellFormed_run`: all outcomes of a report
-/

namespace DefaultArgs

/-- All constructors are constructors of the type. -/
def ForeignType.HasOwnConstructors (e : ForeignType) : Prop :=
  ∀ c ∈ e.constructors, c.kind = .constructor ∧ c.owner = e.owner

namespace Input

/-- The written form of a target. -/
def display : Input → String
  | .declared c => c.toTarget.display
  | .foreignType e => e.owner.display

/-- The mode that a target asks for. -/
def mode : Input → GenerationMode
  | .declared c => c.mode
  | .foreignType e => e.mode

/-- The constructors of a type are its own. -/
def HasOwnConstructors : Input → Prop
  | .declared _ => True
  | .foreignType e => e.HasOwnConstructors

end Input

namespace Generator

variable (g : Generator)

/-- Where the code for a target is to live. -/
def placement : Input → Placement
  | .declared _ => .owner
  | .foreignType _ => .utility g.config.utilityScope

/-- **The plan is of the kind that the target asks for.** It is about the target, it has overloads
or a builder according to the mode, and it lies in the type that declares the target, or in the
utility scope if this type cannot be annotated. -/
structure Suits (x : Input) (plan : Plan) : Prop where
  target_eq : plan.target.display = x.display
  placement_eq : plan.placement = g.placement x
  overloads_iff : (∃ all, plan.generated = .overloads all) ↔ x.mode = .overloaded
  builder_iff : (∃ b, plan.generated = .builder b) ↔ x.mode = .named

/-- **A proper outcome of a target.** It is about the target and so is all that it reports, as grave
as the problem is. With a plan there is no error. Without a plan there is an error, or nothing but
the warning that no companion defaults were found. -/
structure WellFormed (x : Input) (o : Outcome) : Prop where
  target_eq : o.target = x.display
  reports : ∀ d ∈ o.diagnostics, d.ReportsOn x.display
  suits : ∀ plan, o.plan = some plan → g.Suits x plan
  planned : o.plan.isSome → Diagnostic.hasErrors o.diagnostics = false
  failed : o.plan = none → Diagnostic.hasErrors o.diagnostics ∨
    ∃ e, x = .foreignType e ∧ o.diagnostics = [
      { severity := .warning
        target := e.owner.display
        parameter := none
        span := ⟨0, 0, 0⟩
        problem := .companion (.noDefaultsFound e.owner.display e.companion.name) }]

/-- The target was properly prepared: nothing that the request says of it got lost, and no error was
reported of it yet. -/
structure Prepares (x : Input) (p : PreparedTarget) : Prop where
  target_eq : p.target.display = x.display
  mode_eq : p.callable.mode = x.mode
  placement_eq : p.placement = g.placement x
  reports : ∀ d ∈ p.diagnostics, d.ReportsOn x.display
  fine : Diagnostic.hasErrors p.diagnostics = false

/-- **A proper preparation**: the target is properly prepared, or it failed with a proper outcome.
-/
inductive Proper (x : Input) : Preparation → Prop
  | ok {p : PreparedTarget} (prepares : g.Prepares x p) : Proper x (.ok p)
  | error {o : Outcome} (wellFormed : g.WellFormed x o) : Proper x (.error o)

variable {g} {x : Input} {p : PreparedTarget} {d : Diagnostic} {ds : List Diagnostic}

section Failures

/-- **A target that fails with errors** has a proper outcome, if all that is reported is about it.
-/
theorem wellFormed_of_hasErrors (reports : ∀ d ∈ ds, d.ReportsOn x.display)
    (aborts : Diagnostic.hasErrors ds) : g.WellFormed x (.failed x.display ds) where
  target_eq := rfl
  reports := reports
  suits := fun _ planned => by cases planned
  planned := fun planned => by cases planned
  failed := fun _ => .inl aborts

/-- A prepared target that fails with further errors. -/
theorem Prepares.wellFormed_failed (prepares : g.Prepares x p)
    (reports : ∀ d ∈ ds, d.ReportsOn x.display) (aborts : Diagnostic.hasErrors ds) :
    g.WellFormed x (p.failed ds) := by
  rw [PreparedTarget.failed, prepares.target_eq]
  apply wellFormed_of_hasErrors
  · intro d mem
    rcases List.mem_append.1 mem with before | further
    · exact prepares.reports d before
    · exact reports d further
  · rw [Diagnostic.hasErrors_append, aborts, Bool.or_true]

/-- A prepared target that fails because of its shape in the end. -/
theorem Prepares.wellFormed_structural (prepares : g.Prepares x p)
    (reports : ∀ d ∈ ds, d.ReportsOn x.display) (error : StructuralError) :
    g.WellFormed x (p.failed (ds ++ [.error p.target.display (.structural error)])) := by
  apply prepares.wellFormed_failed
  · intro d mem
    rcases List.mem_append.1 mem with before | last
    · exact reports d before
    · obtain rfl := List.mem_singleton.1 last
      exact ⟨prepares.target_eq, rfl⟩
  · rw [Diagnostic.hasErrors_append, Bool.or_eq_true]
    exact .inr rfl

/-- What is reported of several defaults at one site is about the declaration. -/
theorem reportsOn_of_mem_duplicates {c : DeclaredCallable} (mem : d ∈ c.duplicates) :
    d.ReportsOn c.toTarget.display ∧ d.isError := by
  obtain ⟨q, -, mem⟩ := List.mem_flatMap.1 mem
  obtain ⟨error, -, rfl⟩ := List.mem_map.1 mem
  exact ⟨⟨rfl, rfl⟩, rfl⟩

end Failures

section Preparation

/-- A constructor of a type is written like the type. -/
theorem display_callable {e : ForeignType} {c : SourcedCallable} (own : e.HasOwnConstructors)
    (mem : c ∈ e.constructors) : c.toTarget.display = e.owner.display := by
  obtain ⟨kind, owner⟩ := own c mem
  simp only [SourcedCallable.toTarget, Callable.target, Target.display, kind, owner]

/-- A declaration is properly prepared, or it fails with errors. -/
theorem proper_prepare_declared (c : DeclaredCallable) :
    g.Proper (.declared c) (g.prepare (.declared c)) := by
  by_cases single : c.duplicates = []
  · rw [prepare_declared_of_unique single]
    exact .ok {
      target_eq := congrArg Target.display c.toTarget_effective
      mode_eq := rfl
      placement_eq := rfl
      reports := fun d mem => by cases mem
      fine := rfl }
  · rw [prepare_declared_of_several single]
    apply Proper.error
    apply wellFormed_of_hasErrors
    · exact fun d mem => (reportsOn_of_mem_duplicates mem).1
    · rw [← Bool.not_eq_false, Diagnostic.hasErrors_eq_false_iff
        fun d mem => (reportsOn_of_mem_duplicates mem).2]
      exact single

/-- No companion defaults are the one reason to fail without an error. -/
theorem wellFormed_nothingFound (e : ForeignType) :
    g.WellFormed (.foreignType e) (nothingFound e) where
  target_eq := rfl
  reports := fun d mem => by
    obtain rfl := List.mem_singleton.1 mem
    exact ⟨rfl, rfl⟩
  suits := fun _ planned => by cases planned
  planned := fun planned => by cases planned
  failed := fun _ => .inr ⟨e, rfl, rfl⟩

/-- A type that cannot be annotated is properly prepared, or it has a reason to fail. -/
theorem proper_prepare_foreignType {e : ForeignType} (own : e.HasOwnConstructors) :
    g.Proper (.foreignType e) (g.prepare (.foreignType e)) := by
  cases chosen : (g.defaultsFor e).choose? e.constructors with
  | none =>
    rw [prepare_foreignType_of_none chosen]
    exact .error (wellFormed_nothingFound e)
  | some c =>
    have display : c.toTarget.display = (Input.foreignType e).display :=
      display_callable own (choose?_mem chosen)
    have reports : ∀ d ∈ (g.filled e c).2, d.ReportsOn (Input.foreignType e).display := by
      intro d mem
      rw [← display]
      exact SymbolTable.reportsOn_of_mem_fill mem
    rw [prepare_foreignType_of_some chosen, display]
    split
    · next aborts => exact .error (wellFormed_of_hasErrors reports aborts)
    · next fine =>
      exact .ok {
        target_eq := display
        mode_eq := rfl
        placement_eq := rfl
        reports := reports
        fine := Bool.eq_false_of_not_eq_true fine }

end Preparation

section Settling

/-- A target keeps a proper preparation, or it fails with the error of a conflict. -/
theorem Proper.settle {item : Preparation} (proper : g.Proper x item) (all : List NamedTarget) :
    g.Proper x (g.settle all item) := by
  cases proper with
  | error wellFormed => exact .error wellFormed
  | ok prepares =>
    unfold Generator.settle
    simp only [Except.bind]
    split
    · next conflict _ =>
      have nothing : ∀ d ∈ ([] : List Diagnostic), d.ReportsOn x.display := by simp
      exact .error (prepares.wellFormed_structural nothing conflict)
    · exact .ok prepares

end Settling

section Completion

/-- What is wrong with a default is its literal or its reference. -/
theorem severity?_of_resolveDefault {owner : QualifiedName} {ty : ValueType}
    {source : DeclaredDefault} {problem : Problem}
    (failed : g.resolveDefault owner ty source = .error problem) :
    problem.severity? = some .error := by
  unfold resolveDefault at failed
  split at failed
  · cases read : Literal.read ty source.text with
    | error defect =>
      rw [read] at failed
      cases failed
      rfl
    | ok value =>
      rw [read] at failed
      cases failed
  · next kind _ =>
    cases found : g.symbols.resolve kind ty owner source.text with
    | error defect =>
      rw [found] at failed
      cases failed
      rfl
    | ok e =>
      rw [found] at failed
      cases failed

theorem reportsOn_of_mem_resolveParameter {c : SourcedCallable} {q : SourcedParameter}
    (mem : d ∈ (g.resolveParameter c q).2) : d.ReportsOn c.toTarget.display := by
  unfold resolveParameter at mem
  split at mem
  · cases mem
  · cases mem
  · next problem failed =>
    obtain rfl := List.mem_singleton.1 mem
    obtain ⟨source, -, failed⟩ := Option.map_eq_some_iff.1 failed
    exact ⟨rfl, severity?_of_resolveDefault failed⟩

/-- What is reported in resolving the defaults is about the target. -/
theorem reportsOn_of_mem_resolvedParameters (mem : d ∈ (g.resolvedParameters p).2) :
    d.ReportsOn p.target.display := by
  unfold resolvedParameters at mem
  split at mem
  · cases mem
  · obtain ⟨reports, of_parameter, mem⟩ := List.mem_flatMap.1 mem
    obtain ⟨q, -, rfl⟩ := List.mem_map.1 of_parameter
    exact reportsOn_of_mem_resolveParameter mem

/-- What is generated for a prepared target is of the kind that the target asks for. -/
theorem suits_of_generate {params : List ResolvedParameter} {generated : Generated}
    (prepares : g.Prepares x p) (made : g.generate p.callable params = .ok generated) :
    g.Suits x ⟨p.target, p.placement, generated⟩ := by
  have mode := prepares.mode_eq
  rcases generate_cases made with ⟨overloaded, all, -, rfl⟩ | ⟨named, rfl⟩
  · rw [overloaded] at mode
    exact ⟨prepares.target_eq, prepares.placement_eq, by simp [← mode], by simp [← mode]⟩
  · rw [named] at mode
    exact ⟨prepares.target_eq, prepares.placement_eq, by simp [← mode], by simp [← mode]⟩

/-- A properly prepared target is completed to a proper outcome. -/
theorem wellFormed_complete (prepares : g.Prepares x p) : g.WellFormed x (g.complete p) := by
  have resolving : ∀ d ∈ (g.resolvedParameters p).2, d.ReportsOn x.display := by
    intro d mem
    rw [← prepares.target_eq]
    exact reportsOn_of_mem_resolvedParameters mem
  unfold complete
  dsimp only
  split
  · next aborts =>
    rw [Diagnostic.hasErrors_append, prepares.fine, Bool.false_or] at aborts
    exact prepares.wellFormed_failed resolving aborts
  · next fine =>
    split
    · next generated made =>
      have suits := suits_of_generate prepares made
      exact {
        target_eq := prepares.target_eq
        reports := fun d mem => by
          rcases List.mem_append.1 mem with before | resolved
          · exact prepares.reports d before
          · exact resolving d resolved
        suits := fun plan planned => Option.some.inj planned ▸ suits
        planned := fun _ => Bool.eq_false_of_not_eq_true fine
        failed := fun none => by cases none }
    · next error _ => exact prepares.wellFormed_structural resolving error

/-- A proper preparation ends in a proper outcome. -/
theorem Proper.wellFormed_conclude {item : Preparation} (proper : g.Proper x item) :
    g.WellFormed x (g.conclude item) := by
  cases proper with
  | ok prepares => exact wellFormed_complete prepares
  | error wellFormed => exact wellFormed

end Completion

section Runs

/-- The outcome of a target beside any builders is a proper one. -/
theorem wellFormed_outcomeAmong (own : x.HasOwnConstructors) (all : List NamedTarget) :
    g.WellFormed x (g.outcomeAmong all x) := by
  have proper : g.Proper x (g.prepare x) := by
    cases x with
    | declared c => exact proper_prepare_declared c
    | foreignType e => exact proper_prepare_foreignType own
  exact (proper.settle all).wellFormed_conclude

/-- **Reports are well formed.** There is one outcome for every target of a request, first for the
declared callables and then for the types that cannot be annotated, in their order, and each is
a proper outcome of its target. -/
theorem wellFormed_run (g : Generator) (request : Request)
    (own : ∀ e ∈ request.foreignTypes, e.HasOwnConstructors) :
    List.Forall₂ g.WellFormed
      (request.callables.map .declared ++ request.foreignTypes.map .foreignType)
      (g.run request).outcomes := by
  show List.Forall₂ g.WellFormed request.inputs (g.run request).outcomes
  rw [outcomes_run, List.forall₂_map_right_iff, List.forall₂_same]
  intro x mem
  apply wellFormed_outcomeAmong
  rcases List.mem_append.1 mem with declared | foreign
  · obtain ⟨c, -, rfl⟩ := List.mem_map.1 declared
    trivial
  · obtain ⟨e, requested, rfl⟩ := List.mem_map.1 foreign
    exact own e requested

section Samples

/-- A request for a declared constructor, a type with companion defaults, and the same type without
constructors. -/
def mixedRequest : Request :=
  ⟨[portServer], [poolType, { poolType with constructors := [] }]⟩

end Samples

/-- The first two targets have plans, and for the third one no defaults are found. -/
theorem wellFormed_run_mixed :
    (∀ e ∈ mixedRequest.foreignTypes, e.HasOwnConstructors) ∧
      (poolGenerator.run mixedRequest).outcomes.map Outcome.isSuccess = [true, true, false] ∧
      List.Forall₂ poolGenerator.WellFormed
        [.declared portServer, .foreignType poolType,
          .foreignType { poolType with constructors := [] }]
        (poolGenerator.run mixedRequest).outcomes := by
  have own : ∀ e ∈ mixedRequest.foreignTypes, e.HasOwnConstructors := by
    unfold ForeignType.HasOwnConstructors
    decide
  exact ⟨own, rfl, wellFormed_run poolGenerator mixedRequest own⟩

end Runs

end Generator

end DefaultArgs
