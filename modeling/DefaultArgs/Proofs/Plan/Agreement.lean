import DefaultArgs.Proofs.Plan.Insertion
import Mathlib.Data.List.Basic

/-!
# Overloads and builders agree

Overloads and builders are made from the same parameters. Builders can leave out any argument with
a default; overloads can leave out arguments at the end only, so there are overloads if the
parameters with defaults are the last ones, and only then. If there are, every overload does what
the builder does after the fields of the arguments it is given were set: the check is passed, and
the target is called with these arguments and with the values that the other fields start with. And
no overload is missing: there is one for every count of arguments behind which all fields have a
value to start with.

## Main definitions

* `IsTrailing given all`: the elements with a property are the last ones of a list
* `Overload.AgreesWith o b`: an overload does what the builder does with the same arguments
* `Builder.OptionalFrom b count`: the fields behind the first ones need not be set

## Main results

* `exists_overloadsOf_iff`: when there are overloads
* `exists_overloadsOf_eq_error`: the only error
* `Overload.agreesWith_of_mem`: every overload agrees with the builder
* `exists_mem_overloadsOf_iff_optionalFrom`: which overloads there are
* `length_overloadsOf`: the count of the overloads
* `countP_optional_ofCallable`: the count of the fields that need not be set
* `exists_inserts_overloads_iff`, `exists_inserts_builder_iff`: the parameters for which something
  is inserted
-/

namespace DefaultArgs

/-! ## Overloads and what builders do -/

section Comparison

section Trailing

variable {α β : Type} {given given' : α → Prop} {all : List α} {a b : α} {i k : Nat}

/-- **The elements with a property are the last ones of a list**: they form a suffix of it. -/
def IsTrailing (given : α → Prop) (all : List α) : Prop :=
  ∃ front back, all = front ++ back ∧ (∀ a ∈ front, ¬ given a) ∧ ∀ a ∈ back, given a

/-- Whatever stands behind an element with the property has it as well. -/
theorem IsTrailing.of_le (trailing : IsTrailing given all) (at_i : all[i]? = some a)
    (has : given a) (le : i ≤ k) (at_k : all[k]? = some b) : given b := by
  obtain ⟨front, back, rfl, before, behind⟩ := trailing
  have ge : front.length ≤ i := by
    by_contra lt
    rw [List.getElem?_append_left (by omega)] at at_i
    exact before a (List.mem_of_getElem? at_i) has
  rw [List.getElem?_append_right (by omega)] at at_k
  exact behind b (List.mem_of_getElem? at_k)

theorem isTrailing_map_iff {given : β → Prop} (f : α → β) :
    IsTrailing given (all.map f) ↔ IsTrailing (fun a => given (f a)) all := by
  constructor
  · rintro ⟨front, back, cut, before, behind⟩
    obtain ⟨front, back, rfl, rfl, rfl⟩ := List.map_eq_append_iff.1 cut
    exact ⟨front, back, rfl, fun a mem => before (f a) (List.mem_map_of_mem mem),
      fun a mem => behind (f a) (List.mem_map_of_mem mem)⟩
  · rintro ⟨front, back, rfl, before, behind⟩
    exact ⟨front.map f, back.map f, List.map_append, List.forall_mem_map.2 before,
      List.forall_mem_map.2 behind⟩

theorem isTrailing_congr (same : ∀ a ∈ all, (given a ↔ given' a)) :
    IsTrailing given all ↔ IsTrailing given' all := by
  have forward {p q : α → Prop} (same : ∀ a ∈ all, (p a ↔ q a)) :
      IsTrailing p all → IsTrailing q all := by
    rintro ⟨front, back, rfl, before, behind⟩
    refine ⟨front, back, rfl, fun a mem => ?_, fun a mem => ?_⟩
    · rw [← same a (List.mem_append_left _ mem)]
      exact before a mem
    · rw [← same a (List.mem_append_right _ mem)]
      exact behind a mem
  exact ⟨forward same, forward fun a mem => (same a mem).symm⟩

end Trailing

variable {params : List ResolvedParameter} {target : Target} {all : List Overload} {o : Overload}
  {p : ResolvedParameter} {c : SourcedCallable} {config : Config} {first : Option Nat} {k n : Nat}

section Begin

/-- Everything before the place where the defaults begin lacks a default. -/
theorem isRequired_of_lt_defaultsFrom (h : defaultsFrom params = .ok first)
    (before : k < first.getD params.length) (at_k : params[k]? = some p) :
    p.isRequired = true := by
  unfold defaultsFrom at h
  split at h
  · next none =>
    have required := List.findIdx?_eq_none_iff.1 none p (List.mem_of_getElem? at_k)
    simpa using required
  · next begin found =>
    split at h
    · cases h
    · cases h
      obtain ⟨_, -, earlier⟩ := List.findIdx?_eq_some_iff_getElem.1 found
      obtain ⟨lt, rfl⟩ := List.getElem?_eq_some_iff.1 at_k
      simpa using earlier k before

/-- The error is a gap: a parameter without a default behind one that has a default. -/
theorem exists_gap_of_defaultsFrom (h : defaultsFrom params = .error k) :
    ∃ i ≤ k, ∃ p q, params[i]? = some p ∧ p.default?.isSome ∧
      params[k]? = some q ∧ ¬ q.default?.isSome := by
  unfold defaultsFrom at h
  split at h
  · cases h
  · next begin found =>
    split at h
    · next behind gap =>
      cases h
      obtain ⟨lt, given, -⟩ := List.findIdx?_eq_some_iff_getElem.1 found
      obtain ⟨inside, lacks, -⟩ := List.findIdx?_eq_some_iff_getElem.1 gap
      refine ⟨begin, Nat.le_add_right _ _, params[begin], (params.drop begin)[behind],
        List.getElem?_eq_getElem lt, ?_, ?_, ?_⟩
      · simpa [ResolvedParameter.isRequired] using given
      · rw [← List.getElem?_drop]
        exact List.getElem?_eq_getElem inside
      · simpa [ResolvedParameter.isRequired] using lacks
    · cases h

/-- The parameters before the place where the defaults begin have none. -/
theorem isSome_default?_of_mem_take (begin : defaultsFrom params = .ok first) :
    ∀ p ∈ params.take (first.getD params.length), ¬ p.default?.isSome := by
  intro p mem
  obtain ⟨k, at_k⟩ := List.mem_iff_getElem?.1 mem
  rw [List.getElem?_take] at at_k
  split at at_k
  · next before =>
    have required := isRequired_of_lt_defaultsFrom begin before at_k
    simpa [ResolvedParameter.isRequired] using required
  · cases at_k

/-- The parameters from the place on where the defaults begin all have one. -/
theorem isSome_default?_of_mem_drop (begin : defaultsFrom params = .ok first) :
    ∀ p ∈ params.drop (first.getD params.length), p.default?.isSome := by
  intro p mem
  obtain ⟨k, at_k⟩ := List.mem_iff_getElem?.1 mem
  rw [List.getElem?_drop] at at_k
  have given := isRequired_eq_false_of_defaultsFrom begin (by omega) at_k
  simpa [ResolvedParameter.isRequired] using given

theorem exists_defaultsFrom_iff : (∃ first, defaultsFrom params = .ok first) ↔
    IsTrailing (fun p => p.default?.isSome) params := by
  constructor
  · rintro ⟨first, begin⟩
    exact ⟨params.take (first.getD params.length), params.drop (first.getD params.length),
      (List.take_append_drop _ _).symm, isSome_default?_of_mem_take begin,
      isSome_default?_of_mem_drop begin⟩
  · intro trailing
    cases begin : defaultsFrom params with
    | ok first => exact ⟨first, rfl⟩
    | error k =>
      obtain ⟨i, le, p, q, at_i, given, at_k, lacks⟩ := exists_gap_of_defaultsFrom begin
      exact absurd (trailing.of_le at_i given le at_k) lacks

end Begin

section Overloads

/-- **There are overloads** if the parameters with defaults are the last ones, and only then. -/
theorem exists_overloadsOf_iff (target : Target) : (∃ all, overloadsOf target params = .ok all) ↔
    IsTrailing (fun p => p.default?.isSome) params := by
  rw [← exists_defaultsFrom_iff]
  unfold overloadsOf
  cases defaultsFrom params with
  | error k => simp
  | ok first => simp

/-- **The only error** is a parameter of the target that lacks a default and follows one with a
default. -/
theorem exists_overloadsOf_eq_error (target : Target)
    (gap : ¬ IsTrailing (fun p => p.default?.isSome) params) :
    ∃ k p, params[k]? = some p ∧
      overloadsOf target params = .error (.nonConsecutiveDefault target.display k p.name) := by
  cases begin : defaultsFrom params with
  | ok first => exact absurd (exists_defaultsFrom_iff.1 ⟨first, begin⟩) gap
  | error k =>
    obtain ⟨-, -, -, p, -, -, at_k, -⟩ := exists_gap_of_defaultsFrom begin
    refine ⟨k, p, at_k, ?_⟩
    rw [overloadsOf, begin]
    simp only [at_k, Option.map_some, Option.getD_some]

/-- **There is an overload for every count of arguments** behind which no parameter lacks a default,
and for no other. -/
theorem exists_mem_overloadsOf_iff (made : overloadsOf target params = .ok all) :
    (∃ o ∈ all, o.provided = n) ↔
      n ≤ params.length ∧ ∀ p ∈ params.drop n, p.isRequired = false := by
  constructor
  · rintro ⟨o, mem, rfl⟩
    obtain ⟨n, le, full, rfl⟩ := mem_overloadsOf made mem
    exact ⟨le, full⟩
  · rintro ⟨le, full⟩
    unfold overloadsOf at made
    split at made
    · cases made
    · next first begin =>
      cases made
      have behind : first.getD params.length ≤ n := by
        by_contra before
        have inside : n < params.length := by
          have := getD_defaultsFrom_le begin
          omega
        have at_n := List.getElem?_eq_getElem inside
        have required := isRequired_of_lt_defaultsFrom begin (by omega) at_n
        have omitted : params[n] ∈ params.drop n := by
          rw [List.drop_eq_getElem_cons inside]
          exact List.mem_cons_self
        rw [full _ omitted] at required
        cases required
      exact ⟨_, List.mem_map_of_mem (mem_countsDown.2 ⟨behind, le⟩), rfl⟩

end Overloads

section Agreement

/-- **An overload does what the builder does with the same arguments.** Its parameters are the first
fields of the builder. The call that it makes passes these on, and for every other field the value
that the field starts with. And the builder with exactly the first fields set passes its check. -/
structure Overload.AgreesWith (o : Overload) (b : Builder) : Prop where
  provided_le : o.provided ≤ b.fields.length
  signature_eq : o.signature = (b.fields.take o.provided).map fun f => ⟨f.name, f.valueType⟩
  length_arguments : o.arguments.length = b.fields.length
  passed : ∀ (i : Nat) f, b.fields[i]? = some f → i < o.provided →
    o.arguments[i]? = some (.parameter f.name)
  inserted : ∀ (i : Nat) f, b.fields[i]? = some f → o.provided ≤ i →
    ∃ e, f.initializer = some e ∧ o.arguments[i]? = some (.default e)
  check_eq : b.check (fun name => name ∈ (b.fields.take o.provided).map BuilderField.name) = .ok ()

/-- The fields behind the first ones need not be set. -/
def Builder.OptionalFrom (b : Builder) (count : Nat) : Prop :=
  count ≤ b.fields.length ∧ ∀ f ∈ b.fields.drop count, f.required = false

theorem optionalFrom_ofCallable_iff : (Builder.ofCallable c params config).OptionalFrom n ↔
    n ≤ params.length ∧ ∀ p ∈ params.drop n, p.isRequired = false := by
  have fields : (Builder.ofCallable c params config).fields = params.map .ofParameter := rfl
  rw [Builder.OptionalFrom, fields, List.length_map, ← List.map_drop, List.forall_mem_map]
  rfl

section Provided

variable (full : ∀ p ∈ params.drop n, p.isRequired = false)

include full

theorem length_arguments_ofProvided (le : n ≤ params.length) :
    (Overload.ofProvided params n).arguments.length = params.length := by
  have inserted : ((params.drop n).filterMap (·.default?)).length = (params.drop n).length := by
    refine List.filterMap_length_eq_length.2 fun p mem => ?_
    simpa [ResolvedParameter.isRequired] using full p mem
  simp only [Overload.ofProvided, List.length_append, List.length_map, inserted, List.length_take,
    List.length_drop]
  omega

/-- A builder passes its check as soon as the fields before the omitted arguments are set, since the
fields of the others need not be. -/
theorem check_ofCallable :
    (Builder.ofCallable c params config).check
      (fun name => name ∈ (params.take n).map (·.name)) = .ok () := by
  have allSet : (Builder.ofCallable c params config).checkedFields.find?
      (fun f => !decide (f.name ∈ (params.take n).map (·.name))) = none := by
    refine List.find?_eq_none.2 fun f mem => ?_
    obtain ⟨field, checked⟩ := List.mem_filter.1 mem
    obtain ⟨p, param, rfl⟩ := List.mem_map.1 field
    have required : p.isRequired = true := (Bool.and_eq_true_iff.1 checked).1
    rw [← List.take_append_drop n params, List.mem_append] at param
    rcases param with given | omitted
    · have set : p.name ∈ (params.take n).map (·.name) := List.mem_map_of_mem given
      simpa [BuilderField.ofParameter] using set
    · rw [full p omitted] at required
      cases required
  rw [Builder.check, allSet]

/-- An overload made for a count of arguments agrees with the builder, if no parameter behind them
lacks a default. -/
theorem Overload.agreesWith_ofProvided (le : n ≤ params.length) (c : SourcedCallable)
    (config : Config) :
    (Overload.ofProvided params n).AgreesWith (.ofCallable c params config) := by
  have fields : (Builder.ofCallable c params config).fields = params.map .ofParameter := rfl
  have provided : (Overload.ofProvided params n).provided = n := rfl
  constructor
  case provided_le => rwa [fields, List.length_map]
  case signature_eq =>
    rw [fields, provided, ← List.map_take, List.map_map]
    rfl
  case length_arguments => rw [fields, List.length_map, length_arguments_ofProvided full le]
  case passed =>
    intro i f field before
    rw [fields, List.getElem?_map] at field
    rw [provided] at before
    obtain ⟨p, at_i, rfl⟩ := Option.map_eq_some_iff.1 field
    rw [getElem?_arguments_ofProvided le full, if_pos before, at_i]
    rfl
  case inserted =>
    intro i f field behind
    rw [fields, List.getElem?_map] at field
    rw [provided] at behind
    obtain ⟨p, at_i, rfl⟩ := Option.map_eq_some_iff.1 field
    have omitted : p ∈ params.drop n := by
      have dropped : (params.drop n)[i - n]? = some p := by
        rw [List.getElem?_drop, Nat.add_sub_cancel' behind, at_i]
      exact List.mem_of_getElem? dropped
    obtain ⟨e, given⟩ : ∃ e, p.default? = some e := by
      simpa [ResolvedParameter.isRequired, Option.isSome_iff_exists] using full p omitted
    refine ⟨e, given, ?_⟩
    rw [getElem?_arguments_ofProvided le full, if_neg (Nat.not_lt.2 behind), at_i,
      Option.bind_some, given, Option.map_some]
  case check_eq =>
    rw [fields, provided, ← List.map_take, List.map_map]
    exact check_ofCallable full

end Provided

/-- **Every overload agrees with the builder** of the same parameters. -/
theorem Overload.agreesWith_of_mem (made : overloadsOf target params = .ok all) (mem : o ∈ all)
    (c : SourcedCallable) (config : Config) : o.AgreesWith (.ofCallable c params config) := by
  obtain ⟨n, le, full, rfl⟩ := mem_overloadsOf made mem
  exact agreesWith_ofProvided full le c config

/-- There is an overload for every count of arguments that the builder can do with. -/
theorem exists_mem_overloadsOf_iff_optionalFrom (made : overloadsOf target params = .ok all)
    (c : SourcedCallable) (config : Config) :
    (∃ o ∈ all, o.provided = n) ↔ (Builder.ofCallable c params config).OptionalFrom n := by
  rw [exists_mem_overloadsOf_iff made, optionalFrom_ofCallable_iff]

end Agreement

end Comparison

/-! ## How many defaults a plan has

Every parameter with a default can be left out. So there is one overload more than there are such
parameters, a builder has as many fields that need not be set, and a plan inserts something for
exactly these parameters.
-/

section Counting

variable {params : List ResolvedParameter} {target : Target} {all : List Overload}
  {c : SourcedCallable} {config : Config} {first : Option Nat} {k : Nat}

section Overloads

/-- Where the defaults begin, all of them begin. -/
theorem countP_default?_of_defaultsFrom (begin : defaultsFrom params = .ok first) :
    params.countP (fun p => p.default?.isSome) = params.length - first.getD params.length := by
  have none : (params.take (first.getD params.length)).countP (fun p => p.default?.isSome) = 0 :=
    List.countP_eq_zero.2 (isSome_default?_of_mem_take begin)
  have every : (params.drop (first.getD params.length)).countP (fun p => p.default?.isSome) =
      (params.drop (first.getD params.length)).length :=
    List.countP_eq_length.2 (isSome_default?_of_mem_drop begin)
  calc params.countP (fun p => p.default?.isSome)
      = (params.take (first.getD params.length) ++ params.drop (first.getD params.length)).countP
          (fun p => p.default?.isSome) := by rw [List.take_append_drop]
    _ = params.length - first.getD params.length := by
        rw [List.countP_append, none, every, List.length_drop, Nat.zero_add]

/-- **There is one overload more than there are parameters with a default.** -/
theorem length_overloadsOf (made : overloadsOf target params = .ok all) :
    all.length = params.countP (fun p => p.default?.isSome) + 1 := by
  unfold overloadsOf at made
  split at made
  · cases made
  · next first begin =>
    cases made
    have le := getD_defaultsFrom_le begin
    rw [countP_default?_of_defaultsFrom begin, List.length_map, countsDown, List.length_reverse,
      List.length_range']
    omega

/-- Some overload inserts a default for a parameter, if the parameter has one. The overload that is
given the arguments before the parameter leaves it out. -/
theorem exists_inserts_overloads_iff (made : overloadsOf target params = .ok all) :
    (∃ e, (Generated.overloads all).Inserts k e) ↔
      ∃ p, params[k]? = some p ∧ p.default?.isSome := by
  constructor
  · rintro ⟨e, inserts⟩
    obtain ⟨p, at_k, given⟩ := exists_default_of_inserts_overloads made inserts
    exact ⟨p, at_k, by rw [given, Option.isSome_some]⟩
  · rintro ⟨p, at_k, given⟩
    obtain ⟨lt, rfl⟩ := List.getElem?_eq_some_iff.1 at_k
    have trailing := (exists_overloadsOf_iff target).1 ⟨all, made⟩
    have full : ∀ q ∈ params.drop k, q.isRequired = false := by
      intro q mem
      obtain ⟨i, at_i⟩ := List.mem_iff_getElem?.1 mem
      rw [List.getElem?_drop] at at_i
      have given := trailing.of_le at_k given (Nat.le_add_right k i) at_i
      simpa [ResolvedParameter.isRequired] using given
    obtain ⟨o, mem, provided⟩ := (exists_mem_overloadsOf_iff made).2 ⟨Nat.le_of_lt lt, full⟩
    obtain ⟨n, le, -, rfl⟩ := mem_overloadsOf made mem
    obtain rfl : n = k := provided
    obtain ⟨e, has⟩ := Option.isSome_iff_exists.1 given
    refine ⟨e, .argument mem ?_⟩
    rw [getElem?_arguments_ofProvided le full, if_neg (Nat.lt_irrefl n), at_k, Option.bind_some, has,
      Option.map_some]

end Overloads

section Builders

/-- As many fields of a builder need not be set as there are parameters with a default. -/
theorem countP_optional_ofCallable (c : SourcedCallable) (params : List ResolvedParameter)
    (config : Config) :
    (Builder.ofCallable c params config).fields.countP (fun f => !f.required) =
      params.countP (fun p => p.default?.isSome) := by
  have fields : (Builder.ofCallable c params config).fields = params.map .ofParameter := rfl
  rw [fields, List.countP_map]
  refine List.countP_congr fun p _ => ?_
  simp [BuilderField.ofParameter, ResolvedParameter.isRequired]

/-- A builder starts the field of a parameter with a default, if the parameter has one. -/
theorem exists_inserts_builder_iff :
    (∃ e, (Generated.builder (.ofCallable c params config)).Inserts k e) ↔
      ∃ p, params[k]? = some p ∧ p.default?.isSome := by
  constructor
  · rintro ⟨e, inserts⟩
    obtain ⟨p, at_k, given⟩ := exists_default_of_inserts_builder inserts
    exact ⟨p, at_k, by rw [given, Option.isSome_some]⟩
  · rintro ⟨p, at_k, given⟩
    obtain ⟨e, has⟩ := Option.isSome_iff_exists.1 given
    have field : (Builder.ofCallable c params config).fields[k]? = some (.ofParameter p) := by
      show (params.map BuilderField.ofParameter)[k]? = _
      rw [List.getElem?_map, at_k, Option.map_some]
    exact ⟨e, .initializer field has⟩

end Builders

end Counting

end DefaultArgs
