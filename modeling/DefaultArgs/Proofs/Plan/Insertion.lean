import DefaultArgs.Plan

/-!
# Where a plan inserts defaults

Generated code passes one argument for every parameter of its target. An overload passes on the
arguments that it is given and inserts the defaults of the parameters behind them; a builder starts
the field of a parameter with its default. Both insert a default only at the place of the parameter
that it belongs to. For overloads this needs that no parameter behind the first omitted one lacks a
default, since a gap would move all later arguments forward.

## Main definitions

* `Generated.parameters generated`: the parameters of the target, as the generated code shows them
* `Generated.Inserts generated k e`: the generated code inserts `e` for the parameter at `k`

## Main results

* `getElem?_arguments_ofProvided`: the arguments of an overload, place by place
* `exists_default_of_inserts_overloads`, `exists_default_of_inserts_builder`: what is inserted for
  a parameter is its default
-/

namespace DefaultArgs

/-- The parameters of the target: the signature of the overload that is given all arguments, or the
fields of the builder. -/
def Generated.parameters : Generated → List Parameter
  | .overloads all => (all.head?.map Overload.signature).getD []
  | .builder b => b.fields.map fun f => ⟨f.name, f.valueType⟩

/-- The generated code inserts an expression for the parameter at a place: as an argument of the
call that some overload makes, or as the value that the field of a builder starts with. -/
inductive Generated.Inserts : Generated → Nat → Expression → Prop
  | argument {all : List Overload} {o : Overload} {k : Nat} {e : Expression}
      (mem : o ∈ all) (passed : o.arguments[k]? = some (.default e)) :
      Inserts (.overloads all) k e
  | initializer {b : Builder} {f : BuilderField} {k : Nat} {e : Expression}
      (field : b.fields[k]? = some f) (starts : f.initializer = some e) : Inserts (.builder b) k e

variable {params : List ResolvedParameter} {target : Target} {all : List Overload}
  {k n most least : Nat} {e : Expression}

section Counts

theorem mem_countsDown : n ∈ countsDown most least ↔ least ≤ n ∧ n ≤ most := by
  simp only [countsDown, List.mem_reverse, List.mem_range'_1]
  omega

theorem head?_countsDown (h : least ≤ most) : (countsDown most least).head? = some most := by
  rw [countsDown, List.head?_reverse, List.getLast?_range']
  rw [if_neg (by omega)]
  congr 1
  omega

end Counts

section Overloads

/-- Nothing lacks a default from the place where the defaults begin. -/
theorem isRequired_eq_false_of_defaultsFrom {first : Option Nat}
    (h : defaultsFrom params = .ok first) {p : ResolvedParameter}
    (behind : first.getD params.length ≤ k) (at_k : params[k]? = some p) :
    p.isRequired = false := by
  unfold defaultsFrom at h
  split at h
  · cases h
    obtain ⟨lt, -⟩ := List.getElem?_eq_some_iff.1 at_k
    simp only [Option.getD_none] at behind
    omega
  · next begin found =>
    split at h
    · cases h
    · next none =>
      cases h
      rw [List.findIdx?_eq_none_iff] at none
      have dropped : (params.drop begin)[k - begin]? = some p := by
        rwa [List.getElem?_drop, Nat.add_sub_cancel' (by simpa using behind)]
      exact none p (List.mem_of_getElem? dropped)

theorem getD_defaultsFrom_le {first : Option Nat} (h : defaultsFrom params = .ok first) :
    first.getD params.length ≤ params.length := by
  unfold defaultsFrom at h
  split at h
  · cases h; exact Nat.le_refl _
  · next begin found =>
    split at h <;> cases h
    exact Nat.le_of_lt (List.findIdx?_eq_some_iff_findIdx_eq.1 found).1

/-- Without a gap, the inserted defaults stand at the places of their parameters. -/
theorem getElem?_filterMap_default (full : ∀ p ∈ params, p.isRequired = false) :
    (params.filterMap (·.default?))[k]? = params[k]?.bind (·.default?) := by
  induction params generalizing k with
  | nil => simp
  | cons p rest ih =>
    obtain ⟨e, given⟩ : ∃ e, p.default? = some e := by
      simpa [ResolvedParameter.isRequired, Option.isSome_iff_exists] using full p (by simp)
    rw [List.filterMap_cons_some given]
    cases k with
    | zero => simp [given]
    | succ k => simpa using ih fun p mem => full p (List.mem_cons_of_mem _ mem)

/-- An overload passes on the arguments that it is given, and inserts the defaults of the parameters
behind them. -/
theorem getElem?_arguments_ofProvided (le : n ≤ params.length)
    (full : ∀ p ∈ params.drop n, p.isRequired = false) :
    (Overload.ofProvided params n).arguments[k]? =
      if k < n then params[k]?.map (.parameter ·.name)
      else (params[k]?.bind (·.default?)).map .default := by
  have given : ((params.take n).map (CallArgument.parameter ·.name)).length = n := by
    rw [List.length_map, List.length_take, Nat.min_eq_left le]
  rw [Overload.ofProvided]
  split
  · next lt =>
    rw [List.getElem?_append_left (by omega), List.getElem?_map, List.getElem?_take_of_lt lt]
  · next ge =>
    rw [List.getElem?_append_right (by omega), given, List.getElem?_map,
      getElem?_filterMap_default full, List.getElem?_drop, Nat.add_sub_cancel' (by omega)]

/-- The overloads of a target are given every count of arguments from all of them down to the ones
without a default. -/
theorem mem_overloadsOf (h : overloadsOf target params = .ok all) {o : Overload} (mem : o ∈ all) :
    ∃ n ≤ params.length, (∀ p ∈ params.drop n, p.isRequired = false) ∧
      o = Overload.ofProvided params n := by
  unfold overloadsOf at h
  split at h
  · cases h
  · next first begin =>
    cases h
    obtain ⟨n, counted, rfl⟩ := List.mem_map.1 mem
    obtain ⟨from_first, le⟩ := mem_countsDown.1 counted
    refine ⟨n, le, fun p dropped => ?_, rfl⟩
    obtain ⟨k, at_k⟩ := List.mem_iff_getElem?.1 dropped
    rw [List.getElem?_drop] at at_k
    exact isRequired_eq_false_of_defaultsFrom begin (by omega) at_k

/-- The first overload is given all arguments. -/
theorem parameters_overloads (h : overloadsOf target params = .ok all) :
    (Generated.overloads all).parameters = params.map (·.toParameter) := by
  unfold overloadsOf at h
  split at h
  · cases h
  · next first begin =>
    cases h
    simp [Generated.parameters, head?_countsDown (getD_defaultsFrom_le begin),
      Overload.ofProvided]

/-- What an overload inserts for a parameter is its default. The arguments that it is given are
passed on and not inserted. -/
theorem exists_default_of_inserts_overloads (h : overloadsOf target params = .ok all)
    (inserts : (Generated.overloads all).Inserts k e) :
    ∃ p, params[k]? = some p ∧ p.default? = some e := by
  cases inserts with
  | argument mem passed =>
    obtain ⟨n, le, full, rfl⟩ := mem_overloadsOf h mem
    rw [getElem?_arguments_ofProvided le full] at passed
    split at passed
    · simp at passed
    · simpa [Option.bind_eq_some_iff] using passed

end Overloads

section Builders

variable {c : SourcedCallable} {config : Config}

theorem parameters_builder :
    (Generated.builder (.ofCallable c params config)).parameters = params.map (·.toParameter) := by
  simp [Generated.parameters, Builder.ofCallable, BuilderField.ofParameter]

/-- What a builder starts the field of a parameter with is its default. -/
theorem exists_default_of_inserts_builder
    (inserts : (Generated.builder (.ofCallable c params config)).Inserts k e) :
    ∃ p, params[k]? = some p ∧ p.default? = some e := by
  cases inserts with
  | initializer field starts =>
    rw [Builder.ofCallable, List.getElem?_map] at field
    obtain ⟨p, at_k, rfl⟩ := Option.map_eq_some_iff.1 field
    exact ⟨p, at_k, starts⟩

end Builders

end DefaultArgs
