import DefaultArgs.Proofs.Plan.Agreement
import Mathlib.Order.Bounds.Basic

/-!
# The expansion into overloads

The overloads of a target follow from its parameters. They hang on the place of the first parameter
with a default, which is the count of the parameters if there is none. A parameter without a default
behind this place is a gap, and the expansion fails at the first gap. If there is no gap, there is
one overload for every count of arguments from all of them down to this place. An overload passes on
the arguments that it is given, and inserts for every other parameter the default of this parameter.

The defaults can be collected once, and every overload can take those it needs from the end of the
collection. Then the places in the collection are not those of the parameters, and a wrong offset
would move a default to another parameter or reach beyond a list. `overloadsBySlices?` computes the
overloads in this way with checked slices; all checks are passed, and the overloads are the same.

## Main definitions

* `firstDefaulted params`: the place of the first parameter with a default
* `IsGap params i`: a parameter without a default stands behind one with a default
* `Overload.Forwards params o`: an overload passes on its arguments and inserts the other defaults
* `Expands params all`: an overload for every count of arguments down to the first default
* `overloadsBySlices? target params`: the overloads, computed with checked slices

## Main results

* `overloadsOf_eq_error_iff`, `overloadsOf_eq_ok_iff`: the expansion with a gap and without one
* `Expands.unique`: the conditions on the overloads leave only one list of them
* `overloadsBySlices?_eq`: no slice is out of range
* `overloadsOf_exact`: all of this for any target and any parameters
-/

namespace DefaultArgs

variable {params : List ResolvedParameter} {target : Target} {all all' : List Overload}
  {o : Overload} {p : ResolvedParameter} {first : Option Nat} {i k n : Nat}

section Places

/-- The place of the first parameter with a default; the count of the parameters if none has
one. -/
def firstDefaulted (params : List ResolvedParameter) : Nat :=
  params.findIdx (·.default?.isSome)

/-- **A gap**: a parameter without a default behind the first one with a default. -/
def IsGap (params : List ResolvedParameter) (i : Nat) : Prop :=
  firstDefaulted params < i ∧ ∃ p, params[i]? = some p ∧ p.default? = none

theorem firstDefaulted_le : firstDefaulted params ≤ params.length :=
  List.findIdx_le_length

theorem isSome_default?_firstDefaulted (lt : firstDefaulted params < params.length) :
    params[firstDefaulted params].default?.isSome :=
  List.findIdx_getElem (p := fun p : ResolvedParameter => p.default?.isSome) (w := lt)

/-- The first parameter with a default is no gap, so gaps are all parameters without a default from
its place on. -/
theorem isGap_iff : IsGap params i ↔
    firstDefaulted params ≤ i ∧ ∃ p, params[i]? = some p ∧ p.isRequired := by
  simp only [IsGap, ResolvedParameter.isRequired, Option.isNone_iff_eq_none]
  constructor
  · rintro ⟨lt, gap⟩
    exact ⟨Nat.le_of_lt lt, gap⟩
  · rintro ⟨le, p, at_i, lacks⟩
    refine ⟨Nat.lt_of_le_of_ne le ?_, p, at_i, lacks⟩
    rintro rfl
    obtain ⟨lt, rfl⟩ := List.getElem?_eq_some_iff.1 at_i
    have given := isSome_default?_firstDefaulted lt
    rw [lacks] at given
    cases given

/-- Where the defaults begin, in terms of the first parameter with a default. -/
theorem defaultsFrom_eq (params : List ResolvedParameter) : defaultsFrom params =
    match (params.drop (firstDefaulted params)).findIdx? (·.isRequired) with
    | some behind => .error (firstDefaulted params + behind)
    | none => .ok (if firstDefaulted params < params.length then some (firstDefaulted params)
        else none) := by
  have given : (fun p : ResolvedParameter => !p.isRequired) = (·.default?.isSome) := by
    funext p
    simp [ResolvedParameter.isRequired]
  rw [defaultsFrom, given]
  cases found : params.findIdx? (·.default?.isSome) with
  | none =>
    have place : firstDefaulted params = params.length := List.findIdx_eq_length.2
      (List.findIdx?_eq_none_iff.1 found)
    simp [place]
  | some first =>
    obtain ⟨lt, rfl⟩ := List.findIdx?_eq_some_iff_findIdx_eq.1 found
    rw [← firstDefaulted] at lt ⊢
    dsimp only
    cases (params.drop (firstDefaulted params)).findIdx? (·.isRequired) with
    | none => exact congrArg Except.ok (if_pos lt).symm
    | some behind => rfl

/-- What the search behind the first default finds is the first gap. An earlier one would have been
found first. -/
theorem isLeast_isGap {behind : Nat}
    (found : (params.drop (firstDefaulted params)).findIdx? (·.isRequired) = some behind) :
    IsLeast {i | IsGap params i} (firstDefaulted params + behind) := by
  obtain ⟨lt, lacks, earlier⟩ := List.findIdx?_eq_some_iff_getElem.1 found
  constructor
  · refine isGap_iff.2 ⟨Nat.le_add_right _ _, _, ?_, lacks⟩
    rw [← List.getElem?_drop]
    exact List.getElem?_eq_getElem lt
  · intro i gap
    obtain ⟨le, p, at_i, lacks⟩ := isGap_iff.1 gap
    by_contra before
    have at_offset :
        (params.drop (firstDefaulted params))[i - firstDefaulted params]? = some p := by
      rw [List.getElem?_drop, Nat.add_sub_cancel' le, at_i]
    obtain ⟨_, rfl⟩ := List.getElem?_eq_some_iff.1 at_offset
    exact earlier _ (by omega) lacks

theorem not_isGap
    (found : (params.drop (firstDefaulted params)).findIdx? (·.isRequired) = none) (i : Nat) :
    ¬ IsGap params i := by
  intro gap
  obtain ⟨le, p, at_i, lacks⟩ := isGap_iff.1 gap
  have mem : p ∈ params.drop (firstDefaulted params) := by
    refine List.mem_of_getElem? (i := i - firstDefaulted params) ?_
    rw [List.getElem?_drop, Nat.add_sub_cancel' le, at_i]
  rw [List.findIdx?_eq_none_iff.1 found p mem] at lacks
  cases lacks

/-- **The search for the defaults fails at the first gap**, and only there. -/
theorem defaultsFrom_eq_error_iff :
    defaultsFrom params = .error k ↔ IsLeast {i | IsGap params i} k := by
  rw [defaultsFrom_eq]
  cases found : (params.drop (firstDefaulted params)).findIdx? (·.isRequired) with
  | some behind =>
    have least := isLeast_isGap found
    refine ⟨fun failed => Except.error.inj failed ▸ least, fun other => ?_⟩
    exact congrArg Except.error (least.unique other)
  | none =>
    exact ⟨fun failed => (by cases failed), fun least => absurd least.1 (not_isGap found k)⟩

theorem not_isGap_of_defaultsFrom (begin : defaultsFrom params = .ok first) (i : Nat) :
    ¬ IsGap params i := by
  rw [defaultsFrom_eq] at begin
  split at begin
  · cases begin
  · next found => exact not_isGap found i

/-- Without a gap, the defaults begin at the first one. -/
theorem getD_defaultsFrom (begin : defaultsFrom params = .ok first) :
    first.getD params.length = firstDefaulted params := by
  rw [defaultsFrom_eq] at begin
  split at begin
  · cases begin
  · cases begin
    split
    · rfl
    · next ge =>
      exact Nat.le_antisymm (Nat.not_lt.1 ge) firstDefaulted_le

end Places

section Expansion

/-- **An overload forwards to its target.** Its signature are the first parameters of the target.
The call that it makes has an argument for every parameter of the target: the parameter itself as
long as it is in the signature, and behind these the default of the parameter. -/
structure Overload.Forwards (params : List ResolvedParameter) (o : Overload) : Prop where
  signature_eq : o.signature = (params.take o.provided).map (·.toParameter)
  length_arguments : o.arguments.length = params.length
  passed : ∀ (i : Nat) p, params[i]? = some p → i < o.provided →
    o.arguments[i]? = some (.parameter p.name)
  inserted : ∀ (i : Nat) p, params[i]? = some p → o.provided ≤ i →
    ∃ e, p.default? = some e ∧ o.arguments[i]? = some (.default e)

/-- **The overloads of a target**, one for every count of arguments from all of them down to the
place of the first default. Each forwards to the target, and only the first one passes on
everything. -/
structure Expands (params : List ResolvedParameter) (all : List Overload) : Prop where
  length_eq : all.length = params.length - firstDefaulted params + 1
  provided_eq : ∀ (i : Nat) o, all[i]? = some o → o.provided = params.length - i
  forwards : ∀ o ∈ all, o.Forwards params
  isPassThrough_iff : ∀ (i : Nat) o, all[i]? = some o → (o.isPassThrough ↔ i = 0)

theorem getElem?_countsDown {most least : Nat} :
    (countsDown most least)[i]? = if i < most + 1 - least then some (most - i) else none := by
  rw [countsDown]
  split
  · next lt =>
    rw [List.getElem?_reverse (by simpa using lt), List.length_range',
      List.getElem?_range' (by omega)]
    congr 1
    omega
  · next ge => simpa using ge

theorem Overload.forwards_ofProvided (le : n ≤ params.length)
    (full : ∀ p ∈ params.drop n, p.isRequired = false) :
    (Overload.ofProvided params n).Forwards params := by
  constructor
  case signature_eq => rfl
  case length_arguments => exact length_arguments_ofProvided full le
  case passed =>
    intro i p at_i before
    have before : i < n := before
    rw [getElem?_arguments_ofProvided le full, if_pos before, at_i, Option.map_some]
  case inserted =>
    intro i p at_i behind
    have behind : n ≤ i := behind
    have omitted : p ∈ params.drop n := by
      refine List.mem_of_getElem? (i := i - n) ?_
      rw [List.getElem?_drop, Nat.add_sub_cancel' behind, at_i]
    obtain ⟨e, given⟩ : ∃ e, p.default? = some e := by
      simpa [ResolvedParameter.isRequired, Option.isSome_iff_exists] using full p omitted
    refine ⟨e, given, ?_⟩
    rw [getElem?_arguments_ofProvided le full, if_neg (Nat.not_lt.2 behind), at_i,
      Option.bind_some, given, Option.map_some]

/-- An overload that forwards to its target is known from how many arguments it is given. Each
argument is determined by its parameter and by this count. -/
theorem Overload.Forwards.unique {o' : Overload} (forwards : o.Forwards params)
    (forwards' : o'.Forwards params) (same : o.provided = o'.provided) : o = o' := by
  have signature : o.signature = o'.signature := by
    rw [forwards.signature_eq, forwards'.signature_eq, same]
  have arguments : o.arguments = o'.arguments := by
    refine List.ext_getElem? fun i => ?_
    cases at_i : params[i]? with
    | none =>
      have ge := List.getElem?_eq_none_iff.1 at_i
      rw [List.getElem?_eq_none (forwards.length_arguments ▸ ge),
        List.getElem?_eq_none (forwards'.length_arguments ▸ ge)]
    | some p =>
      rcases Nat.lt_or_ge i o.provided with before | behind
      · rw [forwards.passed i p at_i before, forwards'.passed i p at_i (same ▸ before)]
      · obtain ⟨e, given, inserted⟩ := forwards.inserted i p at_i behind
        obtain ⟨e', given', inserted'⟩ := forwards'.inserted i p at_i (same ▸ behind)
        rw [inserted, inserted', Option.some.inj (given.symm.trans given')]
  cases o
  cases o'
  simp_all

/-- The conditions on the overloads leave only one list of them. -/
theorem Expands.unique (expands : Expands params all) (expands' : Expands params all') :
    all = all' := by
  have length : all.length = all'.length := expands.length_eq.trans expands'.length_eq.symm
  refine List.ext_getElem length fun i lt lt' => ?_
  have same : all[i].provided = all'[i].provided := by
    rw [expands.provided_eq i _ (List.getElem?_eq_getElem lt),
      expands'.provided_eq i _ (List.getElem?_eq_getElem lt')]
  have forwards := expands.forwards _ (List.getElem_mem lt)
  exact forwards.unique (expands'.forwards _ (List.getElem_mem lt')) same

/-- **Without an error, the overloads are those of the target.** From place to place one argument
less is given. -/
theorem expands_overloadsOf (made : overloadsOf target params = .ok all) : Expands params all := by
  have forwards : ∀ o ∈ all, o.Forwards params := by
    intro o mem
    obtain ⟨n, le, full, rfl⟩ := mem_overloadsOf made mem
    exact Overload.forwards_ofProvided le full
  unfold overloadsOf at made
  split at made
  · cases made
  · next first begin =>
    cases made
    have le := @firstDefaulted_le params
    rw [getD_defaultsFrom begin] at forwards ⊢
    have provided : ∀ (i : Nat) o,
        ((countsDown params.length (firstDefaulted params)).map (Overload.ofProvided params))[i]? =
          some o → i ≤ params.length ∧ o.provided = params.length - i := by
      intro i o at_i
      rw [List.getElem?_map, getElem?_countsDown] at at_i
      split at at_i
      · next lt =>
        cases at_i
        exact ⟨by omega, rfl⟩
      · cases at_i
    constructor
    case length_eq =>
      rw [List.length_map, countsDown, List.length_reverse, List.length_range']
      omega
    case provided_eq => exact fun i o at_i => (provided i o at_i).2
    case forwards => exact forwards
    case isPassThrough_iff =>
      intro i o at_i
      obtain ⟨inside, count⟩ := provided i o at_i
      rw [Overload.isPassThrough, decide_eq_true_eq, count,
        (forwards o (List.mem_of_getElem? at_i)).length_arguments]
      omega

/-- **The expansion fails at the first gap**, and only if there is one. -/
theorem overloadsOf_eq_error_iff {error : StructuralError} :
    overloadsOf target params = .error error ↔
      ∃ i p, IsLeast {i | IsGap params i} i ∧ params[i]? = some p ∧
        error = .nonConsecutiveDefault target.display i p.name := by
  rw [overloadsOf]
  cases begin : defaultsFrom params with
  | error k =>
    have least := defaultsFrom_eq_error_iff.1 begin
    obtain ⟨-, p, at_k, -⟩ := least.1
    constructor
    · intro failed
      exact ⟨k, p, least, at_k, by simpa [at_k] using failed.symm⟩
    · rintro ⟨i, q, least', at_i, rfl⟩
      obtain rfl := least.unique least'
      simp [at_i]
  | ok first =>
    refine ⟨fun failed => (by cases failed), ?_⟩
    rintro ⟨i, p, least, -⟩
    exact absurd least.1 (not_isGap_of_defaultsFrom begin i)

/-- **Without a gap the expansion succeeds**, and only then. -/
theorem overloadsOf_eq_ok_iff :
    overloadsOf target params = .ok all ↔ (∀ i, ¬ IsGap params i) ∧ Expands params all := by
  constructor
  · intro made
    refine ⟨fun i gap => ?_, expands_overloadsOf made⟩
    unfold overloadsOf at made
    split at made
    · cases made
    · next begin => exact not_isGap_of_defaultsFrom begin i gap
  · rintro ⟨none, expands⟩
    cases made : overloadsOf target params with
    | error error =>
      obtain ⟨i, -, least, -⟩ := overloadsOf_eq_error_iff.1 made
      exact absurd least.1 (none i)
    | ok all' => rw [expands.unique (expands_overloadsOf made)]

end Expansion

section Slices

/-- The first elements of a list; none if it has fewer. -/
def upTo? {α : Type} (all : List α) (count : Nat) : Option (List α) :=
  if count ≤ all.length then some (all.take count) else none

/-- The elements of a list from a place on; none if the place lies behind the end. -/
def from? {α : Type} (all : List α) (place : Nat) : Option (List α) :=
  if place ≤ all.length then some (all.drop place) else none

/-- How far a place lies behind an origin; none if it lies before. -/
def offset? (place origin : Nat) : Option Nat :=
  if origin ≤ place then some (place - origin) else none

/-- Where the defaults begin, searched in a checked slice. -/
def defaultsFromBySlices? (params : List ResolvedParameter) : Option (Except Nat (Option Nat)) :=
  match params.findIdx? (!·.isRequired) with
  | none => some (.ok none)
  | some first => do
    let behind ← from? params first
    match behind.findIdx? (·.isRequired) with
    | some further => some (.error (first + further))
    | none => some (.ok (some first))

/-- An overload from the collected defaults, of which the first one belongs to the parameter at the
place `first`. -/
def Overload.bySlices? (params : List ResolvedParameter) (collected : List Expression)
    (first provided : Nat) : Option Overload := do
  let given ← upTo? params provided
  let skipped ← offset? provided first
  let inserted ← from? collected skipped
  some {
    provided
    signature := given.map (·.toParameter)
    arguments := given.map (.parameter ·.name) ++ inserted.map .default }

/-- The overloads of a target, computed with checked slices: the defaults are collected once, and
every overload takes the end of the collection that it needs. -/
def overloadsBySlices? (target : Target) (params : List ResolvedParameter) :
    Option (Except StructuralError (List Overload)) := do
  match ← defaultsFromBySlices? params with
  | .error index =>
    let p ← params[index]?
    some (.error (.nonConsecutiveDefault target.display index p.name))
  | .ok begin =>
    let first := begin.getD params.length
    let defaulted ← from? params first
    let collected := defaulted.filterMap (·.default?)
    let all ← (countsDown params.length first).mapM (Overload.bySlices? params collected first)
    some (.ok all)

theorem defaultsFromBySlices?_eq (params : List ResolvedParameter) :
    defaultsFromBySlices? params = some (defaultsFrom params) := by
  unfold defaultsFromBySlices? defaultsFrom
  cases found : params.findIdx? (!·.isRequired) with
  | none => rfl
  | some first =>
    obtain ⟨lt, -⟩ := List.findIdx?_eq_some_iff_findIdx_eq.1 found
    simp only [from?, if_pos (Nat.le_of_lt lt), Option.bind_eq_bind, Option.bind_some]
    cases (params.drop first).findIdx? (·.isRequired) <;> rfl

/-- Without a gap, the defaults behind a place are the end of the collected defaults. -/
theorem drop_filterMap_default (full : ∀ p ∈ params, p.isRequired = false) :
    (params.filterMap (·.default?)).drop n = (params.drop n).filterMap (·.default?) := by
  have rest : ∀ p ∈ params.drop n, p.isRequired = false := fun p mem =>
    full p (List.mem_of_mem_drop mem)
  refine List.ext_getElem? fun i => ?_
  rw [List.getElem?_drop, getElem?_filterMap_default full, getElem?_filterMap_default rest,
    List.getElem?_drop]

/-- A computation that succeeds for every element of a list succeeds for the list. -/
theorem mapM_eq_some_map {α β : Type} {all : List α} {f : α → Option β} {g : α → β}
    (each : ∀ a ∈ all, f a = some (g a)) : all.mapM f = some (all.map g) := by
  induction all with
  | nil => rfl
  | cons a rest ih =>
    have others := ih fun b mem => each b (List.mem_cons_of_mem _ mem)
    rw [List.mapM_cons, each a List.mem_cons_self, others]
    rfl

theorem Overload.bySlices?_eq (full : ∀ p ∈ params.drop k, p.isRequired = false) (behind : k ≤ n)
    (le : n ≤ params.length) :
    Overload.bySlices? params ((params.drop k).filterMap (·.default?)) k n =
      some (Overload.ofProvided params n) := by
  have collected : ((params.drop k).filterMap (·.default?)).length = params.length - k := by
    rw [← List.length_drop]
    refine List.filterMap_length_eq_length.2 fun p mem => ?_
    simpa [ResolvedParameter.isRequired] using full p mem
  simp only [Overload.bySlices?, upTo?, offset?, from?, if_pos le, if_pos behind, collected,
    if_pos (Nat.sub_le_sub_right le k), Option.bind_eq_bind, Option.bind_some,
    drop_filterMap_default full, List.drop_drop, Nat.add_sub_cancel' behind]
  rfl

/-- **No slice is out of range**, and with the slices the overloads are the same. From the first
default on none is missing, and the collection is long enough. -/
theorem overloadsBySlices?_eq (target : Target) (params : List ResolvedParameter) :
    overloadsBySlices? target params = some (overloadsOf target params) := by
  rw [overloadsBySlices?, defaultsFromBySlices?_eq, overloadsOf]
  cases begin : defaultsFrom params with
  | error k =>
    obtain ⟨-, p, at_k, -⟩ := (defaultsFrom_eq_error_iff.1 begin).1
    simp [at_k]
  | ok first =>
    have le := getD_defaultsFrom_le begin
    have full : ∀ p ∈ params.drop (first.getD params.length), p.isRequired = false := by
      intro p mem
      simpa [ResolvedParameter.isRequired] using isSome_default?_of_mem_drop begin p mem
    have sliced : (countsDown params.length (first.getD params.length)).mapM
        (Overload.bySlices? params
          ((params.drop (first.getD params.length)).filterMap (·.default?))
          (first.getD params.length)) =
        some ((countsDown params.length (first.getD params.length)).map
          (Overload.ofProvided params)) := by
      refine mapM_eq_some_map fun n counted => ?_
      obtain ⟨behind, within⟩ := mem_countsDown.1 counted
      exact Overload.bySlices?_eq full behind within
    simp [from?, le, sliced]

end Slices

/-- **The expansion is exact**, for every target and all parameters. It fails if there is a gap, and
only then, with the place and the name of the first one. Otherwise its result is the list of the
overloads for every count of arguments from all of them down to the place of the first default, and
no other list. Computed with slices, the result is the same, and no slice is out of range. -/
theorem overloadsOf_exact (target : Target) (params : List ResolvedParameter) :
    (∀ error, overloadsOf target params = .error error ↔
      ∃ i p, IsLeast {i | IsGap params i} i ∧ params[i]? = some p ∧
        error = .nonConsecutiveDefault target.display i p.name) ∧
    (∀ all, overloadsOf target params = .ok all ↔
      (∀ i, ¬ IsGap params i) ∧ Expands params all) ∧
    overloadsBySlices? target params = some (overloadsOf target params) :=
  ⟨fun _ => overloadsOf_eq_error_iff, fun _ => overloadsOf_eq_ok_iff,
    overloadsBySlices?_eq target params⟩

/-- Defaults are inserted at the places of their parameters. -/
example : (overloadsOf (Callable.ofOwner ⟨"Server", []⟩ |>.target [])
      [⟨⟨"host", .string⟩, none⟩, ⟨⟨"port", .primitive .int⟩, some (.literal (.int 80))⟩,
        ⟨⟨"path", .string⟩, some (.literal .null)⟩]).map (·.map Overload.call) =
    .ok ["host, port, path", "host, port, null", "host, 80, null"] := by
  cbv

end DefaultArgs
