import DefaultArgs.Proofs.Generation.Outcome
import Mathlib.Data.List.Basic

/-!
# Builders of one name

Two plans of a report with builders of one name in one namespace have targets of one identity, since
targets of different identity would be in conflict. An identity covers the owner, the name and the
types of the parameters, but neither their names nor their defaults. So the two builders are the
same exactly if the two inputs also agree on these. Inputs that differ only in their entry points
do, but two declarations of one callable with different defaults do not.

## Main definitions

* `Generator.shape? g x`: what the builder of an input depends on
* `Input.withEntryPoint x name`: an input with another entry point

## Main results

* `fields_terminal_eq_iff`: when two builders have the same fields and the same terminal
* `hash_eq_of_name_eq`: builders of one name have targets of one identity
* `fields_terminal_eq_withEntryPoint`: two entry points of one input share a builder
* `shared_builder_iff`: when two builders of one name are the same
-/

namespace DefaultArgs

/-- An input with another entry point. -/
def Input.withEntryPoint (x : Input) (name : Option String) : Input :=
  match x with
  | .declared c => .declared { c with entryPoint := name }
  | .foreignType e => .foreignType { e with entryPoint := name }

/-- A prepared target with another entry point. -/
def PreparedTarget.withEntryPoint (p : PreparedTarget) (name : Option String) : PreparedTarget :=
  { p with callable := { p.callable with entryPoint := name } }

theorem BuilderField.ofParameter_injective : Function.Injective BuilderField.ofParameter := by
  intro p q same
  obtain ⟨⟨name, ty⟩, default?⟩ := p
  obtain ⟨⟨name', ty'⟩, default?'⟩ := q
  simp only [ofParameter, BuilderField.mk.injEq] at same
  obtain ⟨rfl, rfl, -, rfl, -⟩ := same
  rfl

theorem CallableKind.terminal_injective : Function.Injective CallableKind.terminal := by
  intro k l same
  cases k <;> cases l <;> first | rfl | cases same

namespace Generator

variable (g : Generator)

/-- **The shape of an input**: whether it is a constructor, and its parameters with their names,
types and resolved defaults. There is none if the preparation fails. -/
def shape? (x : Input) : Option (CallableKind × List ResolvedParameter) :=
  (g.prepare x).toOption.map fun p => (p.callable.kind, (g.resolvedParameters p).1)

variable {g} {request : Request} {all : List NamedTarget} {x y : Input} {p : PreparedTarget}
  {t t' : Target} {place place' : Placement} {home : String} {b b' : Builder}

theorem shape?_of_ok (prepared : g.prepare x = .ok p) :
    g.shape? x = some (p.callable.kind, (g.resolvedParameters p).1) := by
  rw [shape?, prepared]
  rfl

section Plans

/-- **Where a builder comes from.** The input was prepared and is in no conflict, and the builder is
that of the prepared callable. -/
theorem exists_prepared_of_builder
    (planned : (g.outcomeAmong all x).plan = some ⟨t, place, .builder b⟩) :
    ∃ p, g.prepare x = .ok p ∧ g.builder? x = some ⟨t, place⟩ ∧ g.conflictOf? all x = none ∧
      b = .ofCallable p.callable (g.resolvedParameters p).1 g.config ∧ p.target = t := by
  obtain ⟨p, generated, prepared, free, made, same⟩ := exists_generate_of_plan planned
  cases same
  cases mode : p.callable.mode with
  | overloaded =>
    simp only [generate, mode] at made
    cases expanded : overloadsOf p.callable.toTarget (g.resolvedParameters p).1 <;>
      simp [expanded, Except.map] at made
  | named =>
    simp only [generate, mode, Except.ok.injEq, Generated.builder.injEq] at made
    refine ⟨p, prepared, ?_, free, made.symm, rfl⟩
    rw [builder?_of_ok prepared, PreparedTarget.named?, if_pos mode]

/-- Two builders have the same fields and the same terminal exactly if their inputs have the same
shape. -/
theorem fields_terminal_eq_iff
    (planned : (g.outcomeAmong all x).plan = some ⟨t, place, .builder b⟩)
    (planned' : (g.outcomeAmong all y).plan = some ⟨t', place', .builder b'⟩) :
    b.fields = b'.fields ∧ b.terminal = b'.terminal ↔ g.shape? x = g.shape? y := by
  obtain ⟨p, prepared, -, -, rfl, -⟩ := exists_prepared_of_builder planned
  obtain ⟨q, prepared', -, -, rfl, -⟩ := exists_prepared_of_builder planned'
  rw [shape?_of_ok prepared, shape?_of_ok prepared', Option.some.injEq, Prod.mk.injEq, and_comm]
  have fields : Function.Injective (List.map BuilderField.ofParameter) :=
    List.map_injective_iff.2 BuilderField.ofParameter_injective
  simp only [Builder.ofCallable]
  rw [CallableKind.terminal_injective.eq_iff, fields.eq_iff]

/-- Builders of one name in one namespace have targets of one identity. One of them is a rival of
the other, which is in no conflict. -/
theorem hash_eq_of_name_eq {i j : Nat} (at_i : request.inputs[i]? = some x)
    (at_j : request.inputs[j]? = some y)
    (planned : (g.outcomeAmong (g.builders request) x).plan = some ⟨t, place, .builder b⟩)
    (planned' : (g.outcomeAmong (g.builders request) y).plan = some ⟨t', place', .builder b'⟩)
    (lives : NamedTarget.LivesIn ⟨t, place⟩ home) (lives' : NamedTarget.LivesIn ⟨t', place'⟩ home)
    (name : b.name = b'.name) : t.hash = t'.hash := by
  obtain ⟨p, -, asks, -, rfl, rfl⟩ := exists_prepared_of_builder planned
  obtain ⟨q, -, asks', free, rfl, rfl⟩ := exists_prepared_of_builder planned'
  rw [conflictOf?, asks', Option.bind_some, NamedTarget.conflict?_eq_none_iff] at free
  · refine free ⟨p.target, place⟩ ?_ ?_
    · exact mem_builders_of_getElem? (by rw [at_i, Option.bind_some, asks])
    · exact NamedTarget.key_eq_key_iff_livesIn.2 ⟨⟨home, lives', lives⟩, name⟩
  · exact mem_builders_of_getElem? (by rw [at_j, Option.bind_some, asks'])

end Plans

section EntryPoints

/-- An entry point changes nothing else in a preparation. What is reported in filling the parameters
does not depend on it. -/
theorem prepare_withEntryPoint (g : Generator) (x : Input) (name : Option String) :
    g.prepare (x.withEntryPoint name) = (g.prepare x).map (·.withEntryPoint name) := by
  cases x with
  | declared c =>
    by_cases unique : c.duplicates = []
    · have unique' : ({ c with entryPoint := name } : DeclaredCallable).duplicates = [] := unique
      simp only [Input.withEntryPoint, prepare, prepareCallable, DeclaredCallable.toSourced,
        if_pos unique, if_pos unique']
      rfl
    · have unique' : ({ c with entryPoint := name } : DeclaredCallable).duplicates ≠ [] := unique
      simp only [Input.withEntryPoint, prepare, prepareCallable, DeclaredCallable.toSourced,
        if_neg unique, if_neg unique']
      rfl
  | foreignType e =>
    simp only [Input.withEntryPoint, prepare, prepareForeignType]
    split
    · rfl
    · split
      · next errors => exact (if_pos errors).symm ▸ rfl
      · next errors => exact (if_neg errors).symm ▸ rfl

theorem resolvedParameters_withEntryPoint (p : PreparedTarget) (name : Option String) :
    g.resolvedParameters (p.withEntryPoint name) = g.resolvedParameters p := by
  obtain ⟨c, place, params, diagnostics⟩ := p
  cases params <;> rfl

/-- The shape of an input does not depend on its entry point. -/
theorem shape?_withEntryPoint (g : Generator) (x : Input) (name : Option String) :
    g.shape? (x.withEntryPoint name) = g.shape? x := by
  rw [shape?, shape?, prepare_withEntryPoint]
  cases g.prepare x with
  | error outcome => rfl
  | ok p =>
    simp only [Except.map, Except.toOption, Option.map_some, resolvedParameters_withEntryPoint]
    rfl

/-- **Two entry points of one input share a builder.** -/
theorem fields_terminal_eq_withEntryPoint {name name' : Option String}
    (planned : (g.outcomeAmong all (x.withEntryPoint name)).plan = some ⟨t, place, .builder b⟩)
    (planned' : (g.outcomeAmong all (x.withEntryPoint name')).plan =
      some ⟨t', place', .builder b'⟩) :
    b.fields = b'.fields ∧ b.terminal = b'.terminal := by
  rw [fields_terminal_eq_iff planned planned', shape?_withEntryPoint, shape?_withEntryPoint]

end EntryPoints

/-- **When builders of one name are the same.** Two plans of a report with builders of one name in
one namespace have targets of one identity. Their builders have the same fields and the same
terminal exactly if the inputs have the same shape: they are both methods or both constructors, and
their parameters agree in their names, their types and their resolved defaults. -/
theorem shared_builder_iff {i j : Nat} {outcome outcome' : Outcome}
    (reported : (g.run request).outcomes[i]? = some outcome)
    (reported' : (g.run request).outcomes[j]? = some outcome')
    (planned : outcome.plan = some ⟨t, place, .builder b⟩)
    (planned' : outcome'.plan = some ⟨t', place', .builder b'⟩)
    (lives : NamedTarget.LivesIn ⟨t, place⟩ home) (lives' : NamedTarget.LivesIn ⟨t', place'⟩ home)
    (name : b.name = b'.name) :
    t.hash = t'.hash ∧ (b.fields = b'.fields ∧ b.terminal = b'.terminal ↔
      request.inputs[i]?.bind g.shape? = request.inputs[j]?.bind g.shape?) := by
  rw [getElem?_outcomes_run] at reported reported'
  obtain ⟨x, at_i, rfl⟩ := Option.map_eq_some_iff.1 reported
  obtain ⟨y, at_j, rfl⟩ := Option.map_eq_some_iff.1 reported'
  refine ⟨hash_eq_of_name_eq at_i at_j planned planned' lives lives' name, ?_⟩
  rw [at_i, at_j, Option.bind_some, Option.bind_some]
  exact fields_terminal_eq_iff planned planned'

section Samples

/-- Two declarations of one constructor, with defaults of their own. -/
def declaredTwice (first second : String) : Request :=
  ⟨[serverConstructor .named [defaulted "port" (.primitive .int) (.literal first)],
    { serverConstructor .named [defaulted "port" (.primitive .int) (.literal second)] with
      entryPoint := some "configure" }], []⟩

end Samples

/-- Two entry points of one constructor share its builder. -/
theorem shared_builder_declaredTwice :
    ∃ (t t' : Target) (b b' : Builder) (outcome outcome' : Outcome),
      (bareGenerator.run (declaredTwice "80" "80")).outcomes = [outcome, outcome'] ∧
      outcome.plan = some ⟨t, .owner, .builder b⟩ ∧
      outcome'.plan = some ⟨t', .owner, .builder b'⟩ ∧ b.entryPoint ≠ b'.entryPoint ∧
      t.hash = t'.hash ∧ b.fields = b'.fields ∧ b.terminal = b'.terminal := by
  have reported : (bareGenerator.run (declaredTwice "80" "80")).outcomes[0]? = some _ := rfl
  have reported' : (bareGenerator.run (declaredTwice "80" "80")).outcomes[1]? = some _ := rfl
  obtain ⟨hash, same⟩ := shared_builder_iff reported reported' rfl rfl (.owner _) (.owner _) rfl
  exact ⟨_, _, _, _, _, _, rfl, rfl, rfl, by decide, hash, same.2 rfl⟩

/-- Builders of one name can differ: the two declarations have one identity, so they are in no
conflict, and each builder starts its field with the default of its own declaration. -/
theorem shared_builder_differs_declaredTwice :
    ¬ ∀ (r : Registry) (config : Config) (request : Request) (i j : Nat)
      (outcome outcome' : Outcome) (t t' : Target) (place place' : Placement) (home : String)
      (b b' : Builder),
      (run ⟨r.symbolTable, config⟩ request).outcomes[i]? = some outcome →
      (run ⟨r.symbolTable, config⟩ request).outcomes[j]? = some outcome' →
      outcome.plan = some ⟨t, place, .builder b⟩ → outcome'.plan = some ⟨t', place', .builder b'⟩ →
      NamedTarget.LivesIn ⟨t, place⟩ home → NamedTarget.LivesIn ⟨t', place'⟩ home →
      b.name = b'.name →
      t.hash = t'.hash ∧ b.fields = b'.fields ∧ b.terminal = b'.terminal := by
  intro shared
  have same := shared .empty {} (declaredTwice "80" "8080") 0 1 _ _ _ _ _ _ _ _ _ rfl rfl rfl rfl
    (.owner _) (.owner _) rfl
  exact absurd same.2.1 (by decide)

end Generator

end DefaultArgs
