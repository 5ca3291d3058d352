import DefaultArgs.Proofs.Generation.Independence
import Mathlib.Data.List.InsertIdx

/-!
# Deleting a target from a request

The builders are compared before defaults are resolved, so a target that fails afterwards still
counts in the comparison. Deleting a target from a request can therefore change another outcome, but
only that of a target in conflict that asks for a builder of the same name in the same namespace,
and only if the conflict then tells of other targets or is gone.

## Main definitions

* `Request.erase request j`: the request without the target at `j`
* `placeWithout j i`: the place of the target at `i` when the one at `j` is deleted

## Main results

* `filter_builders_erase`: a target that asks for no builder of a name does not count for this name
* `outcome_erase_of_builder?_eq_none`: deleting a target that asks for no builder changes nothing
* `outcome_erase_iff`: when deleting a target leaves the outcome of another one as it was
-/

namespace DefaultArgs

/-- The request without the target at a place. -/
def Request.erase (request : Request) (j : Nat) : Request :=
  if j < request.callables.length then
    { request with callables := request.callables.eraseIdx j }
  else
    { request with foreignTypes := request.foreignTypes.eraseIdx (j - request.callables.length) }

/-- The place of the target at `i` in the request without the target at `j`. -/
def placeWithout (j i : Nat) : Nat :=
  if i < j then i else i - 1

section Requests

variable {request : Request} {i j : Nat}

theorem Request.inputs_erase (request : Request) (j : Nat) :
    (request.erase j).inputs = request.inputs.eraseIdx j := by
  by_cases declared : j < request.callables.length
  · rw [erase, if_pos declared]
    simp only [inputs]
    rw [List.eraseIdx_append_of_lt_length (by rwa [List.length_map]), List.eraseIdx_map]
  · rw [erase, if_neg declared]
    simp only [inputs]
    rw [List.eraseIdx_append_of_length_le (by rw [List.length_map]; omega), List.length_map,
      List.eraseIdx_map]

theorem Request.getElem?_inputs_erase (ne : i ≠ j) :
    (request.erase j).inputs[placeWithout j i]? = request.inputs[i]? := by
  rw [inputs_erase, placeWithout]
  split
  · next before => rw [List.getElem?_eraseIdx_of_lt before]
  · next behind =>
    rw [List.getElem?_eraseIdx_of_ge (by omega)]
    congr 1
    omega

/-- Deleting an entry that is skipped anyway changes nothing. -/
theorem filterMap_eraseIdx {α β : Type} {f : α → Option β} {l : List α} {j : Nat}
    (skipped : l[j]?.bind f = none) : (l.eraseIdx j).filterMap f = l.filterMap f := by
  induction l generalizing j with
  | nil => rfl
  | cons a l ih =>
    cases j with
    | zero =>
      have none : f a = none := skipped
      rw [List.eraseIdx_cons_zero, List.filterMap_cons_none none]
    | succ j =>
      rw [List.eraseIdx_cons_succ, List.filterMap_cons, List.filterMap_cons, ih skipped]

end Requests

namespace Generator

variable {g : Generator} {request : Request} {i j : Nat} {x : Input} {p : PreparedTarget}
  {t : NamedTarget} {all all' : List NamedTarget}

section Builders

theorem builders_erase (g : Generator) (request : Request) (j : Nat) :
    g.builders (request.erase j) = (request.inputs.eraseIdx j).filterMap g.builder? := by
  rw [builders, Request.inputs_erase]

theorem mem_builders_of_mem_erase (mem : t ∈ g.builders (request.erase j)) :
    t ∈ g.builders request := by
  rw [builders_erase] at mem
  exact ((List.eraseIdx_sublist request.inputs j).filterMap g.builder?).mem mem

/-- A target that asks for no builder of a name does not count for this name. -/
theorem filter_builders_erase {name : String × String}
    (other : ∀ u, request.inputs[j]?.bind g.builder? = some u →
      u.key g.config.builderSuffix ≠ name) :
    (g.builders (request.erase j)).filter (·.key g.config.builderSuffix = name) =
      (g.builders request).filter (·.key g.config.builderSuffix = name) := by
  rw [builders_erase, builders, List.filter_filterMap, List.filter_filterMap]
  apply filterMap_eraseIdx
  cases at_j : request.inputs[j]? with
  | none => rfl
  | some y =>
    rw [at_j, Option.bind_some] at other
    rw [Option.bind_some, Option.filter_eq_none_iff]
    intro u asks
    simpa using other u asks

end Builders

section Outcomes

/-- The errors in resolving the defaults are not about the structure of a target. Companion defaults
are checked before, and a declared default is rejected as a literal or as a reference. -/
theorem problem_ne_structural {d : Diagnostic} (mem : d ∈ (g.resolvedParameters p).2)
    (error : StructuralError) : d.problem ≠ .structural error := by
  unfold resolvedParameters at mem
  split at mem
  · cases mem
  · dsimp only at mem
    rw [List.flatMap_map] at mem
    obtain ⟨q, -, mem⟩ := List.mem_flatMap.1 mem
    unfold resolveParameter at mem
    split at mem
    · cases mem
    · cases mem
    · next problem rejected =>
      rw [List.mem_singleton.1 mem]
      obtain ⟨source, -, rejected⟩ := Option.map_eq_some_iff.1 rejected
      rintro rfl
      unfold resolveDefault at rejected
      split at rejected
      · cases read : Literal.read q.valueType source.text <;>
          simp [read, Except.map, Except.mapError] at rejected
      · next kind _ =>
        cases found : g.symbols.resolve kind q.valueType p.callable.owner source.text <;>
          simp [found, Except.mapError] at rejected

/-- A target that is completed does not report a conflict. It reports what is wrong with its
defaults, if anything is, and making a builder cannot fail. -/
theorem complete_ne_failed (named : p.named? = some t) (error : StructuralError) :
    g.complete p ≠ p.failed [.error p.target.display (.structural error)] := by
  have mode : p.callable.mode = .named := by
    by_contra ne
    rw [PreparedTarget.named?, if_neg ne] at named
    cases named
  intro same
  unfold complete at same
  dsimp only at same
  split at same
  · have errors : (g.resolvedParameters p).2 = [.error p.target.display (.structural error)] :=
      List.append_cancel_left (congrArg Outcome.diagnostics same)
    exact problem_ne_structural (errors ▸ List.mem_singleton.2 rfl) error rfl
  · rw [generate, mode] at same
    cases congrArg Outcome.plan same

/-- **The outcome tells whether there is a conflict**, and which. -/
theorem outcomeAmong_eq_iff :
    g.outcomeAmong all x = g.outcomeAmong all' x ↔ g.conflictOf? all x = g.conflictOf? all' x := by
  cases asks : g.builder? x with
  | none =>
    have free (all : List NamedTarget) : g.conflictOf? all x = none := by
      rw [conflictOf?, asks, Option.bind_none]
    rw [outcomeAmong_of_none (free all), outcomeAmong_of_none (free all'), free all, free all']
    exact iff_of_true rfl rfl
  | some t =>
    obtain ⟨p, prepared, named⟩ := exists_prepared_of_builder? asks
    have alone : g.outcomeAlone x = g.complete p := by rw [outcomeAlone, prepared]; rfl
    cases found : g.conflictOf? all x <;> cases found' : g.conflictOf? all' x
    case none.none =>
      rw [outcomeAmong_of_none found, outcomeAmong_of_none found']
      exact iff_of_true rfl rfl
    case none.some error =>
      rw [outcomeAmong_of_none found, outcomeAmong_of_conflict found' prepared, alone]
      exact iff_of_false (complete_ne_failed named error) (Option.some_ne_none error).symm
    case some.none error =>
      rw [outcomeAmong_of_conflict found prepared, outcomeAmong_of_none found', alone]
      exact iff_of_false (complete_ne_failed named error).symm (Option.some_ne_none error)
    case some.some error error' =>
      rw [outcomeAmong_of_conflict found prepared, outcomeAmong_of_conflict found' prepared]
      constructor
      · intro same
        have errors := List.append_cancel_left (congrArg Outcome.diagnostics same)
        simp only [List.cons.injEq, Diagnostic.error, Diagnostic.mk.injEq,
          Problem.structural.injEq, and_true, true_and] at errors
        rw [errors]
      · intro same
        rw [Option.some.inj same]

end Outcomes

section Erase

/-- Deleting a target that asks for no builder changes no outcome. -/
theorem outcome_erase_of_builder?_eq_none (ne : i ≠ j)
    (asks : request.inputs[j]?.bind g.builder? = none) :
    (g.run (request.erase j)).outcomes[placeWithout j i]? = (g.run request).outcomes[i]? := by
  rw [getElem?_outcomes_run, getElem?_outcomes_run, Request.getElem?_inputs_erase ne,
    builders_erase, filterMap_eraseIdx asks, builders]

/-- Deleting a target with a builder of another name changes no conflict. -/
theorem told_builders_erase (other : ∀ u, request.inputs[j]?.bind g.builder? = some u →
      u.key g.config.builderSuffix ≠ t.key g.config.builderSuffix) :
    t.told g.config.builderSuffix (g.builders (request.erase j)) =
      t.told g.config.builderSuffix (g.builders request) := by
  rw [NamedTarget.told, NamedTarget.told, filter_builders_erase other]

/-- Deleting a target brings no other one into conflict. -/
theorem conflictOf?_erase_of_none (ne : i ≠ j) (at_i : request.inputs[i]? = some x)
    (free : g.conflictOf? (g.builders request) x = none) :
    g.conflictOf? (g.builders (request.erase j)) x = none := by
  cases asks : g.builder? x with
  | none => rw [conflictOf?, asks, Option.bind_none]
  | some t =>
    rw [conflictOf?, asks, Option.bind_some] at free ⊢
    have mem : t ∈ g.builders request :=
      mem_builders_of_getElem? (by rw [at_i, Option.bind_some, asks])
    have kept : t ∈ g.builders (request.erase j) :=
      mem_builders_of_getElem? (by
        rw [Request.getElem?_inputs_erase ne, at_i, Option.bind_some, asks])
    rw [NamedTarget.conflict?_eq_none_iff mem] at free
    rw [NamedTarget.conflict?_eq_none_iff kept]
    exact fun u mem => free u (mem_builders_of_mem_erase mem)

/-- Deleting a target leaves the conflict of another one as it was exactly if it leaves what this
conflict tells. -/
theorem conflictOf?_erase_eq_iff (ne : i ≠ j) (at_i : request.inputs[i]? = some x)
    (asks : g.builder? x = some t) :
    g.conflictOf? (g.builders (request.erase j)) x = g.conflictOf? (g.builders request) x ↔
      (g.InConflict request i → t.told g.config.builderSuffix (g.builders (request.erase j)) =
        t.told g.config.builderSuffix (g.builders request)) := by
  by_cases free : g.conflictOf? (g.builders request) x = none
  · rw [free, conflictOf?_erase_of_none ne at_i free]
    exact iff_of_true rfl fun conflict => absurd conflict ((conflictOf?_eq_none_iff at_i).1 free)
  · have conflict : g.InConflict request i :=
      not_not.1 (mt (conflictOf?_eq_none_iff at_i).2 free)
    rw [conflictOf?, asks, Option.bind_some] at free
    rw [conflictOf?, conflictOf?, asks, Option.bind_some, Option.bind_some,
      NamedTarget.conflict?_eq_conflict?_iff free]
    exact ⟨fun same _ => same, fun same => same conflict⟩

/-- **When deleting a target leaves another one as it was.** The outcome of the other target changes
exactly if this target is in conflict, the deleted one asks for a builder of the same name in the
same namespace, and the conflict tells of other targets without it. It does not matter whether the
deleted target would get a plan. -/
theorem outcome_erase_iff (ne : i ≠ j) :
    (g.run (request.erase j)).outcomes[placeWithout j i]? = (g.run request).outcomes[i]? ↔
      ∀ t u, request.inputs[i]?.bind g.builder? = some t →
        request.inputs[j]?.bind g.builder? = some u →
        u.key g.config.builderSuffix = t.key g.config.builderSuffix → g.InConflict request i →
        t.told g.config.builderSuffix (g.builders (request.erase j)) =
          t.told g.config.builderSuffix (g.builders request) := by
  rw [getElem?_outcomes_run, getElem?_outcomes_run, Request.getElem?_inputs_erase ne]
  cases at_i : request.inputs[i]? with
  | none =>
    rw [Option.map_none, Option.map_none, Option.bind_none]
    exact iff_of_true rfl fun t u at_t => by cases at_t
  | some x =>
    -- Only the conflict of `x` can change, since the rest of its outcome depends on `x` alone.
    rw [Option.map_some, Option.map_some, Option.some.injEq, outcomeAmong_eq_iff, Option.bind_some]
    cases asks : g.builder? x with
    | none =>
      rw [conflictOf?, conflictOf?, asks, Option.bind_none, Option.bind_none]
      exact iff_of_true rfl fun t u at_t => by cases at_t
    | some t =>
      rw [conflictOf?_erase_eq_iff ne at_i asks]
      constructor
      · rintro same _ u ⟨⟩ - -
        exact same
      · intro kept conflict
        by_cases other : ∀ u, request.inputs[j]?.bind g.builder? = some u →
            u.key g.config.builderSuffix ≠ t.key g.config.builderSuffix
        · exact told_builders_erase other
        · push Not at other
          obtain ⟨u, at_u, key⟩ := other
          exact kept t u rfl at_u key conflict

/-- The constructors of one type, with the second one repeated with a default that is no number. -/
def repeatedServers : Request :=
  ⟨(rivalServers "80").callables ++
    [serverConstructor .named [defaulted "port" (.primitive .int) (.literal "many")]], []⟩

/-- The repetition counts for a conflict, but the conflict tells the same without it. -/
theorem outcome_erase_repeatedServers :
    (bareGenerator.run (repeatedServers.erase 2)).outcomes[0]? =
      (bareGenerator.run repeatedServers).outcomes[0]? := by
  refine (outcome_erase_iff (i := 0) (j := 2) (by decide)).2 ?_
  rintro t u ⟨⟩ ⟨⟩ - -
  decide

/-- A target that gets no plan in a request of its own can bring another one into conflict: here its
default is no number, which is found after the builders were compared. -/
theorem outcome_changes_without_failing_target :
    ¬ ∀ (r : Registry) (config : Config) (request : Request) (i j : Nat) (y : Input),
      request.inputs[j]? = some y →
      (∀ outcome ∈ (run ⟨r.symbolTable, config⟩ (.single y)).outcomes, outcome.plan = none) →
      i ≠ j →
      (run ⟨r.symbolTable, config⟩ (request.erase j)).outcomes[placeWithout j i]? =
        (run ⟨r.symbolTable, config⟩ request).outcomes[i]? := by
  intro independent
  have same := independent .empty {} (rivalServers "many") 0 1 _ rfl (by decide) (by decide)
  exact absurd same (by decide)

end Erase

end Generator

end DefaultArgs
