import DefaultArgs.Proofs.Generation.Outcome

/-!
# Targets are independent but for the names of their builders

The only step of a run that looks at several targets compares the names of their builders. A target
is in conflict if another one asks for a builder of the same name in the same namespace and has
another identity. Only targets that were prepared ask for builders, so a target whose preparation
failed is in no conflict. A target in conflict fails with exactly this error; every other one has
the outcome that it has in a request of its own.

The conflicts can also be listed once for all targets. The list of the builders has places of its
own, so each conflict is listed with the place that its target has in the request, and every target
looks for a conflict at its place. This finds what each target finds for itself.

## Main definitions

* `Generator.Clash g request i j`: the targets at two places cannot both have their builders
* `Generator.InConflict g request i`: the target at a place clashes with some other one
* `Generator.conflictsByPlace g prepared`: the conflicts, listed with the places of their targets
* `Generator.settleByPlace g prepared`: the prepared targets, each failed if a conflict is listed
  with its place

## Main results

* `conflictOf?_eq_none_iff`: the comparison of the builders finds exactly the targets in conflict
* `outcome_by_conflict`: the outcome of a target, in conflict or not
* `lookup_conflictsByPlace_inputs`: the conflict that is listed with a place
* `outcomes_run_eq_settleByPlace`: a run settles its targets by their places
-/

namespace DefaultArgs

namespace Generator

variable (g : Generator) (request : Request)

/-- **Two targets clash** if they ask for builders of one name in one namespace and have different
identities. -/
def Clash (i j : Nat) : Prop :=
  ∃ t u place, request.inputs[i]?.bind g.builder? = some t ∧
    request.inputs[j]?.bind g.builder? = some u ∧ t.LivesIn place ∧ u.LivesIn place ∧
    u.target.builderName g.config.builderSuffix = t.target.builderName g.config.builderSuffix ∧
    u.target.hash ≠ t.target.hash

/-- The target at a place clashes with some other target of the request. -/
def InConflict (i : Nat) : Prop :=
  ∃ j, g.Clash request i j

variable {g request} {i j : Nat} {x : Input}

theorem clash_iff : g.Clash request i j ↔
    ∃ t u, request.inputs[i]?.bind g.builder? = some t ∧
      request.inputs[j]?.bind g.builder? = some u ∧
      u.key g.config.builderSuffix = t.key g.config.builderSuffix ∧
      u.target.hash ≠ t.target.hash := by
  simp only [NamedTarget.key_eq_key_iff_livesIn]
  constructor
  · rintro ⟨t, u, place, at_t, at_u, here, there, name, ne⟩
    exact ⟨t, u, at_t, at_u, ⟨⟨place, here, there⟩, name⟩, ne⟩
  · rintro ⟨t, u, at_t, at_u, ⟨⟨place, here, there⟩, name⟩, ne⟩
    exact ⟨t, u, place, at_t, at_u, here, there, name, ne⟩

/-- **Conflicts are found exactly.** Without a builder there is neither a conflict nor a clash. -/
theorem conflictOf?_eq_none_iff (at_i : request.inputs[i]? = some x) :
    g.conflictOf? (g.builders request) x = none ↔ ¬ g.InConflict request i := by
  have asked : request.inputs[i]?.bind g.builder? = g.builder? x := by rw [at_i, Option.bind_some]
  cases asks : g.builder? x with
  | none =>
    refine iff_of_true (by rw [conflictOf?, asks, Option.bind_none]) ?_
    rintro ⟨j, t, u, place, at_t, -⟩
    rw [asked, asks] at at_t
    cases at_t
  | some t =>
    rw [asks] at asked
    rw [conflictOf?, asks, Option.bind_some,
      NamedTarget.conflict?_eq_none_iff (mem_builders_of_getElem? asked)]
    constructor
    · rintro one ⟨j, clash⟩
      obtain ⟨t', u, at_t, at_u, same, ne⟩ := clash_iff.1 clash
      obtain rfl : t = t' := Option.some.inj (asked.symm.trans at_t)
      exact ne (one u (mem_builders_of_getElem? at_u) same)
    · intro free u mem same
      obtain ⟨j, at_u⟩ := exists_getElem?_of_mem_builders mem
      by_contra ne
      exact free ⟨j, clash_iff.2 ⟨t, u, asked, at_u, same, ne⟩⟩

/-- **A target in conflict** was prepared and asks for a builder, and the conflict names one target
of every identity among its rivals. -/
theorem exists_conflictOf?_of_inConflict (at_i : request.inputs[i]? = some x)
    (conflict : g.InConflict request i) :
    ∃ p t place listed, g.prepare x = .ok p ∧ p.named? = some t ∧ t.LivesIn place ∧
      Target.ListedOnce (t.rivals g.config.builderSuffix (g.builders request)) listed ∧
      g.conflictOf? (g.builders request) x = some (.builderNameConflict
        (t.target.builderName g.config.builderSuffix) place (listed.map Target.display)) := by
  obtain ⟨j, clash⟩ := conflict
  obtain ⟨t, u, at_t, at_u, same, ne⟩ := clash_iff.1 clash
  have asks : g.builder? x = some t := by rw [← at_t, at_i, Option.bind_some]
  obtain ⟨p, prepared, named⟩ := exists_prepared_of_builder? asks
  refine ⟨p, t, t.home, _, prepared, named, NamedTarget.livesIn_iff.2 rfl,
    NamedTarget.listedOnce_distinctTargets _ _ t, ?_⟩
  rw [conflictOf?, asks, Option.bind_some]
  exact NamedTarget.conflict?_of_ne (mem_builders_of_getElem? at_t)
    (mem_builders_of_getElem? at_u) same ne

/-- **Targets are independent but for conflicts.** A target in conflict has no plan, and its
diagnostics are those of its preparation and one error, which tells the name and the namespace of
the builder and one target of every identity among its rivals, in the order of the request. Every
other target has the outcome that it has in a request of its own. -/
theorem outcome_by_conflict (at_i : request.inputs[i]? = some x) :
    (g.InConflict request i → ∃ p t place listed, g.prepare x = .ok p ∧ p.named? = some t ∧
      t.LivesIn place ∧
      Target.ListedOnce (t.rivals g.config.builderSuffix (g.builders request)) listed ∧
      (g.run request).outcomes[i]? = some
        { target := p.target.display
          plan := none
          diagnostics := p.diagnostics ++ [
            { severity := .error
              target := p.target.display
              parameter := none
              span := ⟨0, 0, 0⟩
              problem := .structural (.builderNameConflict
                (t.target.builderName g.config.builderSuffix) place
                (listed.map Target.display)) }] }) ∧
    (¬ g.InConflict request i → ∃ outcome, (g.run (.single x)).outcomes = [outcome] ∧
      (g.run request).outcomes[i]? = some outcome) := by
  have reported : (g.run request).outcomes[i]? = some (g.outcomeAmong (g.builders request) x) := by
    rw [getElem?_outcomes_run, at_i, Option.map_some]
  constructor
  · intro conflict
    obtain ⟨p, t, place, listed, prepared, named, lives, once, found⟩ :=
      exists_conflictOf?_of_inConflict at_i conflict
    refine ⟨p, t, place, listed, prepared, named, lives, once, ?_⟩
    rw [reported, outcomeAmong_of_conflict found prepared]
    rfl
  · intro free
    refine ⟨g.outcomeAlone x, outcomes_single g x, ?_⟩
    rw [reported, outcomeAmong_of_none ((conflictOf?_eq_none_iff at_i).2 free)]

section Samples

/-- Two constructors of one type that ask for builders. -/
def rivalServers (port : String) : Request :=
  ⟨[serverConstructor .named [defaulted "host" .string (.literal "localhost")],
    serverConstructor .named [defaulted "port" (.primitive .int) (.literal port)]], []⟩

end Samples

/-- Two constructors of one type clash, and the first of them fails with the conflict. -/
theorem outcome_by_conflict_rivalServers :
    ∃ x p t place listed, (rivalServers "80").inputs[0]? = some x ∧
      prepare bareGenerator x = .ok p ∧ p.named? = some t ∧ t.LivesIn place ∧
      Target.ListedOnce (t.rivals "Builder" (bareGenerator.builders (rivalServers "80"))) listed ∧
      (bareGenerator.run (rivalServers "80")).outcomes[0]? = some
        { target := p.target.display
          plan := none
          diagnostics := p.diagnostics ++ [
            { severity := .error
              target := p.target.display
              parameter := none
              span := ⟨0, 0, 0⟩
              problem := .structural (.builderNameConflict (t.target.builderName "Builder") place
                (listed.map Target.display)) }] } := by
  have clash : bareGenerator.Clash (rivalServers "80") 0 1 :=
    ⟨_, _, _, rfl, rfl, .owner _, .owner _, by decide, by decide⟩
  obtain ⟨p, t, place, listed, found⟩ := (outcome_by_conflict rfl).1 ⟨1, clash⟩
  exact ⟨_, p, t, place, listed, rfl, found⟩

section Places

/-- The prepared targets that get a builder, with their places. -/
def namedPlaces (prepared : List Preparation) : List (NamedTarget × Nat) :=
  prepared.zipIdx.filterMap fun e => (e.1.toOption.bind PreparedTarget.named?).map (·, e.2)

variable (g)

/-- The conflicts with the places of their targets. The places in the list of the builders are not
those of the targets, since some targets get no builder. -/
def conflictsByPlace (prepared : List Preparation) : List (Nat × StructuralError) :=
  let named := namedPlaces prepared
  (NamedTarget.conflicts g.config.builderSuffix (named.map Prod.fst)).filterMap
    fun (slot, conflict) => named[slot]?.map fun e => (e.2, conflict)

/-- Fail the prepared targets that have a conflict at their places. -/
def settleByPlace (prepared : List Preparation) : List Preparation :=
  let conflicts := g.conflictsByPlace prepared
  if conflicts = [] then prepared
  else prepared.zipIdx.map fun (item, i) => item.bind fun p =>
    match conflicts.lookup i with
    | some conflict => .error (p.failed [.error p.target.display (.structural conflict)])
    | none => .ok p

/-- The conflict of a prepared target with the builders in a list. -/
def conflictWith? (named : List NamedTarget) (item : Preparation) : Option StructuralError :=
  (item.toOption.bind PreparedTarget.named?).bind
    (NamedTarget.conflict? g.config.builderSuffix named)

variable {g}

theorem map_fst_namedPlaces (prepared : List Preparation) :
    (namedPlaces prepared).map Prod.fst = namedTargets prepared := by
  rw [namedPlaces, List.map_filterMap, namedTargets]
  conv_rhs => rw [← List.zipIdx_map_fst 0 prepared, List.filterMap_map]
  refine List.filterMap_congr fun e _ => ?_
  rw [Option.map_map]
  exact Option.map_id'

/-- The conflicts by places, without the list of the builders in between. -/
theorem conflictsByPlace_eq (g : Generator) (prepared : List Preparation) :
    g.conflictsByPlace prepared = prepared.zipIdx.filterMap fun e =>
      (g.conflictWith? (namedTargets prepared) e.1).map (e.2, ·) := by
  let conflict? := NamedTarget.conflict? g.config.builderSuffix (namedTargets prepared)
  calc g.conflictsByPlace prepared
    _ = (namedPlaces prepared).zipIdx.filterMap fun e => (conflict? e.1.1).map (e.1.2, ·) := by
      simp only [conflictsByPlace, NamedTarget.conflicts, map_fst_namedPlaces]
      rw [← map_fst_namedPlaces, List.zipIdx_map, List.filterMap_map, List.filterMap_filterMap]
      refine List.filterMap_congr fun e mem => ?_
      have at_slot : (namedPlaces prepared)[e.2]? = some e.1 := List.mem_zipIdx_iff_getElem?.1 mem
      dsimp only [Function.comp, Prod.map, id, conflict?]
      rw [map_fst_namedPlaces]
      cases e.1.1.conflict? g.config.builderSuffix (namedTargets prepared) with
      | none => rfl
      | some conflict => simp [at_slot]
    _ = (namedPlaces prepared).filterMap fun e => (conflict? e.1).map (e.2, ·) := by
      conv_rhs => rw [← List.zipIdx_map_fst 0 (namedPlaces prepared), List.filterMap_map]
      rfl
    _ = prepared.zipIdx.filterMap fun e =>
        (g.conflictWith? (namedTargets prepared) e.1).map (e.2, ·) := by
      rw [namedPlaces, List.filterMap_filterMap]
      refine List.filterMap_congr fun e _ => ?_
      rw [conflictWith?, Option.bind_map, Option.map_bind]
      rfl

theorem lookup_conflictsByPlace (g : Generator) (prepared : List Preparation) (i : Nat) :
    (g.conflictsByPlace prepared).lookup i =
      prepared[i]?.bind (g.conflictWith? (namedTargets prepared)) := by
  rw [conflictsByPlace_eq]
  exact lookup_filterMap_zipIdx _ _ _

theorem settle_eq (g : Generator) (named : List NamedTarget) (item : Preparation) :
    g.settle named item = item.bind fun p =>
      match g.conflictWith? named item with
      | some conflict => .error (p.failed [.error p.target.display (.structural conflict)])
      | none => .ok p := by
  cases item <;> rfl

theorem settleByPlace_eq (g : Generator) (prepared : List Preparation) :
    g.settleByPlace prepared = prepared.map (g.settle (namedTargets prepared)) := by
  have found (i : Nat) (item : Preparation) (at_i : prepared[i]? = some item) :
      (g.conflictsByPlace prepared).lookup i = g.conflictWith? (namedTargets prepared) item := by
    rw [lookup_conflictsByPlace, at_i, Option.bind_some]
  unfold settleByPlace
  dsimp only
  split
  · next none =>
    have kept : ∀ item ∈ prepared, g.settle (namedTargets prepared) item = item := by
      intro item mem
      obtain ⟨i, at_i⟩ := List.mem_iff_getElem?.1 mem
      rw [settle_eq, ← found i item at_i, none]
      cases item <;> rfl
    rw [List.map_congr_left kept, List.map_id']
  · have places : prepared.map (g.settle (namedTargets prepared)) =
        prepared.zipIdx.map (g.settle (namedTargets prepared) ∘ Prod.fst) := by
      rw [← List.map_map, List.zipIdx_map_fst]
    rw [places]
    refine List.map_congr_left fun e mem => ?_
    rw [Function.comp, settle_eq, ← found e.2 e.1 (List.mem_zipIdx_iff_getElem?.1 mem)]

/-- **A run settles the prepared targets by their places.** -/
theorem outcomes_run_eq_settleByPlace (g : Generator) (request : Request) :
    (g.run request).outcomes =
      (g.settleByPlace (request.inputs.map g.prepare)).map g.conclude := by
  rw [settleByPlace_eq, List.map_map]
  rfl

/-- The conflict at the place of an input is that of its builder with all builders of the request.
-/
theorem lookup_conflictsByPlace_inputs (g : Generator) (request : Request) (i : Nat) :
    (g.conflictsByPlace (request.inputs.map g.prepare)).lookup i =
      request.inputs[i]?.bind (g.conflictOf? (g.builders request)) := by
  rw [lookup_conflictsByPlace, namedTargets_inputs, List.getElem?_map, Option.bind_map]
  rfl

end Places

end Generator

end DefaultArgs
