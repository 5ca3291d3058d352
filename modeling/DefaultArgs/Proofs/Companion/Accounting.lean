import DefaultArgs.Proofs.Companion.Collecting
import Mathlib.Data.List.Forall2

/-!
# Accounting for the defaults of a companion

When a constructor is filled, something becomes of every parameter and of every default. A parameter
stays required if its key is unknown. Otherwise the last contribution to the key is inserted, or is
rejected with an error if it does not fit. What is reported comes in the order of the parameters,
the warning for an ambiguous key before the error. After this come the keys that belong to no
parameter, if they are to be reported. So no default is dropped silently: a key belongs to
a parameter, where its default is inserted or rejected, or it belongs to none and is reported.

The same key can belong to several parameters, and can be ambiguous and rejected at once. So what
becomes of a parameter is stated for each parameter alone, from the defaults that were collected.

## Main definitions

* `Warns`: what is reported of the contributions to a key
* `SymbolTable.Fills`: what becomes of a parameter, and what is reported of it
* `LeftOver`: what is reported of a key that belongs to no parameter
* `Accounted`: what becomes of a default

## Main results

* `SymbolTable.fillParameter_eq_iff`: what becomes of one parameter
* `CompanionDefaults.oneForEach_unmatched`: the keys that belong to no parameter
* `SymbolTable.accounted_of_get?`: what becomes of a default
* `SymbolTable.fill_accounts`: everything in filling is accounted for
-/

namespace DefaultArgs

/-- **The warning for an ambiguous key.** It is about the parameter, without a place, and names the
contributions to the key in their order, and the chosen one. Nothing is reported of a single
contribution. -/
inductive Warns (companion : QualifiedName) (target : String) (p : SourcedParameter)
    (contributions : List CompanionDefault) (chosen : CompanionDefault) : List Diagnostic → Prop
  | single (alone : contributions.length < 2) : Warns companion target p contributions chosen []
  | ambiguous (several : 2 ≤ contributions.length) :
      Warns companion target p contributions chosen
        [{ severity := .warning
           target
           parameter := some p.name
           span := ⟨0, 0, 0⟩
           problem := .companion (.ambiguousDefault p.name companion.name
            (contributions.map (·.memberName)) chosen.memberName) }]

/-- **What becomes of a parameter.** It stays required if no default has its key. Otherwise the
last default with its key is inserted if it is assignable to the parameter, and if it is not, this
is an error with the name and the span of the parameter. -/
inductive SymbolTable.Fills (table : SymbolTable) (companion : QualifiedName)
    (defaults : List CompanionDefault) (target : String) (p : SourcedParameter) :
    ResolvedParameter × List Diagnostic → Prop
  | unknown (unknown : ∀ d ∈ defaults, d.key ≠ defaultKey p.name) :
      Fills table companion defaults target p ({ p.toParameter with default? := none }, [])
  | bound {before : List CompanionDefault} {d : CompanionDefault} {warnings : List Diagnostic}
      (contributed : defaults.filter (·.key = defaultKey p.name) = before ++ [d])
      (assignable : table.isAssignable d.valueType p.valueType)
      (warned : Warns companion target p (before ++ [d]) d warnings) :
      Fills table companion defaults target p
        ({ p.toParameter with default? := some d.expression }, warnings)
  | rejected {before : List CompanionDefault} {d : CompanionDefault} {warnings : List Diagnostic}
      (contributed : defaults.filter (·.key = defaultKey p.name) = before ++ [d])
      (unassignable : ¬ table.isAssignable d.valueType p.valueType)
      (warned : Warns companion target p (before ++ [d]) d warnings) :
      Fills table companion defaults target p
        ({ p.toParameter with default? := none }, warnings ++
          [{ severity := .error
             target
             parameter := some p.name
             span := p.span
             problem := .reference (.typeMismatch ⟨d.memberName, d.memberName, companion.name⟩
              d.kind d.valueType p.valueType) }])

/-- **The warning for a key that belongs to no parameter.** It is about the whole target, and names
the last default with this key. -/
inductive LeftOver (companion : QualifiedName) (defaults : List CompanionDefault) (target : String)
    (params : List SourcedParameter) (key : String) : Diagnostic → Prop
  | unmatched {before : List CompanionDefault} {d : CompanionDefault}
      (unused : ∀ p ∈ params, defaultKey p.name ≠ key)
      (contributed : defaults.filter (·.key = key) = before ++ [d]) :
      LeftOver companion defaults target params key
        { severity := .warning
          target
          parameter := none
          span := ⟨0, 0, 0⟩
          problem := .companion (.unmatchedDefault d.memberName companion.name target) }

/-- **A default is accounted for**: it is inserted for a parameter of its key, or it is rejected
there with an error that has the name and the span of the parameter, or it is reported as a default
that belongs to no parameter. -/
inductive Accounted (companion : QualifiedName) (target : String) (params : List SourcedParameter)
    (filled : List ResolvedParameter) (reports : List Diagnostic) (d : CompanionDefault) : Prop
  | bound {k : Nat} {p : SourcedParameter} (at_k : params[k]? = some p)
      (keyed : defaultKey p.name = d.key)
      (inserted : filled[k]? = some { p.toParameter with default? := some d.expression })
  | rejected {p : SourcedParameter} (mem : p ∈ params) (keyed : defaultKey p.name = d.key)
      (reported :
        { severity := .error
          target
          parameter := some p.name
          span := p.span
          problem := .reference (.typeMismatch ⟨d.memberName, d.memberName, companion.name⟩
            d.kind d.valueType p.valueType) } ∈ reports)
  | unmatched (unused : ∀ p ∈ params, defaultKey p.name ≠ d.key)
      (reported :
        { severity := .warning
          target
          parameter := none
          span := ⟨0, 0, 0⟩
          problem := .companion (.unmatchedDefault d.memberName companion.name target) } ∈ reports)

variable {table : SymbolTable} {companion : QualifiedName} {defaults before : List CompanionDefault}
  {target key : String} {p : SourcedParameter} {c : SourcedCallable} {d : CompanionDefault}
  {warnings : List Diagnostic} {warnUnmatched : Bool}

namespace CompanionDefaults

@[simp] theorem companion_ofList : (ofList companion defaults).companion = companion := by
  induction defaults using List.reverseRecOn with
  | nil => rfl
  | append_singleton rest d ih => rw [ofList_concat, insert, ih]

/-- The last contribution to a key is bound. -/
theorem get?_ofList_eq_some_iff : (ofList companion defaults).get? key = some d ↔
    ∃ before, defaults.filter (·.key = key) = before ++ [d] := by
  rw [(collects_ofList companion defaults).get?_eq, List.getLast?_eq_some_iff]

theorem get?_ofList_eq_none_iff : (ofList companion defaults).get? key = none ↔
    ∀ d ∈ defaults, d.key ≠ key := by
  rw [(collects_ofList companion defaults).get?_eq, List.getLast?_eq_none_iff,
    List.filter_eq_nil_iff]
  simp only [decide_eq_true_eq, ne_eq]

theorem key_of_filter (contributed : defaults.filter (·.key = key) = before ++ [d]) :
    d.key = key := by
  have mem : d ∈ defaults.filter (·.key = key) := by simp [contributed]
  exact of_decide_eq_true (List.mem_filter.1 mem).2

theorem ambiguity_ofList_eq_iff
    (contributed : defaults.filter (·.key = defaultKey p.name) = before ++ [d]) :
    (ofList companion defaults).ambiguity target p d = warnings ↔
      Warns companion target p (before ++ [d]) d warnings := by
  simp only [ambiguity, isAmbiguous, contributors_ofList, companion_ofList, contributed,
    decide_eq_true_eq]
  constructor
  · rintro rfl
    split
    · next several => exact .ambiguous several
    · next alone => exact .single (Nat.lt_of_not_le alone)
  · intro warned
    cases warned with
    | single alone => exact if_neg (Nat.not_le_of_lt alone)
    | ambiguous several => exact if_pos several

/-- Every key that belongs to no parameter is reported once, in the order of the keys. -/
theorem oneForEach_unmatched {params : List SourcedParameter} :
    OneForEach (LeftOver companion defaults target params) (defaults.map (·.key)).eraseDups
      ((ofList companion defaults).unmatched target params) := by
  rw [unmatched, bound, List.filter_filterMap, List.map_filterMap, keys_ofList]
  refine OneForEach.filterMap fun key _ report => ?_
  rw [Option.map_eq_some_iff, companion_ofList]
  simp only [Option.filter_eq_some_iff, get?_ofList_eq_some_iff, List.mem_map, decide_eq_true_eq,
    not_exists, not_and]
  constructor
  · rintro ⟨d, ⟨⟨before, contributed⟩, unused⟩, rfl⟩
    rw [key_of_filter contributed] at unused
    exact .unmatched unused contributed
  · rintro ⟨unused, contributed⟩
    refine ⟨_, ⟨⟨_, contributed⟩, ?_⟩, rfl⟩
    rwa [key_of_filter contributed]

end CompanionDefaults

namespace SymbolTable

open CompanionDefaults (ofList)

/-- **What becomes of a parameter** is what its key and its type determine. -/
theorem fillParameter_eq_iff {result : ResolvedParameter × List Diagnostic} :
    table.fillParameter (ofList companion defaults) target p = result ↔
      table.Fills companion defaults target p result := by
  rw [fillParameter]
  constructor
  · rintro rfl
    split
    · next unknown => exact .unknown (CompanionDefaults.get?_ofList_eq_none_iff.1 unknown)
    · next d chosen =>
      obtain ⟨before, contributed⟩ := CompanionDefaults.get?_ofList_eq_some_iff.1 chosen
      have warned : Warns companion target p (before ++ [d]) d _ :=
        (CompanionDefaults.ambiguity_ofList_eq_iff contributed).1 rfl
      dsimp only
      split
      · next assignable => exact .bound contributed assignable warned
      · next unassignable =>
        rw [CompanionDefaults.mismatch, CompanionDefaults.companion_ofList]
        exact .rejected contributed unassignable warned
  · intro fills
    cases fills with
    | unknown unknown => rw [CompanionDefaults.get?_ofList_eq_none_iff.2 unknown]
    | bound contributed assignable warned =>
      rw [CompanionDefaults.get?_ofList_eq_some_iff.2 ⟨_, contributed⟩]
      dsimp only
      rw [if_pos assignable, (CompanionDefaults.ambiguity_ofList_eq_iff contributed).2 warned]
    | rejected contributed unassignable warned =>
      rw [CompanionDefaults.get?_ofList_eq_some_iff.2 ⟨_, contributed⟩]
      dsimp only
      rw [if_neg unassignable, (CompanionDefaults.ambiguity_ofList_eq_iff contributed).2 warned,
        CompanionDefaults.mismatch, CompanionDefaults.companion_ofList, Diagnostic.errorAt]

theorem forall₂_fillParameter (params : List SourcedParameter) :
    List.Forall₂ (table.Fills companion defaults target) params
      (params.map (table.fillParameter (ofList companion defaults) target)) :=
  List.forall₂_map_right_iff.2 (List.forall₂_same.2 fun _ _ => fillParameter_eq_iff.1 rfl)

/-- The default of a key is accounted for if left over defaults are reported. If the key belongs to
a parameter, it depends on the type what becomes of the default. If it belongs to none, it is one of
those that are left over. -/
theorem accounted_of_get? (table : SymbolTable) (c : SourcedCallable)
    (chosen : (ofList companion defaults).get? key = some d) :
    Accounted companion c.toTarget.display c.parameters
      (table.fill (ofList companion defaults) c true).1
      (table.fill (ofList companion defaults) c true).2 d := by
  obtain ⟨before, contributed⟩ := CompanionDefaults.get?_ofList_eq_some_iff.1 chosen
  obtain rfl := CompanionDefaults.key_of_filter contributed
  by_cases used : ∃ p ∈ c.parameters, defaultKey p.name = d.key
  · obtain ⟨p, mem, keyed⟩ := used
    by_cases assignable : table.isAssignable d.valueType p.valueType
    · obtain ⟨k, lt, rfl⟩ := List.getElem_of_mem mem
      refine .bound (List.getElem?_eq_getElem lt) keyed ?_
      simp [fill, fillParameter, keyed, chosen, assignable, lt]
    · refine .rejected mem keyed (List.mem_append_left _ (List.mem_flatMap.2 ?_))
      refine ⟨_, List.mem_map_of_mem mem, ?_⟩
      simp [fillParameter, keyed, chosen, assignable, CompanionDefaults.mismatch,
        Diagnostic.errorAt]
  · have unused : ∀ p ∈ c.parameters, defaultKey p.name ≠ d.key :=
      fun p mem keyed => used ⟨p, mem, keyed⟩
    have mem : d.key ∈ (defaults.map (·.key)).eraseDups := by
      have inserted : d ∈ defaults.filter (·.key = d.key) := by simp [contributed]
      exact List.mem_eraseDups.2 (List.mem_map_of_mem (List.mem_of_mem_filter inserted))
    have listed : OneForEach (LeftOver companion defaults c.toTarget.display c.parameters) _ _ :=
      CompanionDefaults.oneForEach_unmatched
    obtain ⟨report, reported, left⟩ := listed.exists_mem mem (.unmatched unused contributed)
    cases left with
    | unmatched _ again =>
      obtain rfl := Option.some.inj
        (chosen.symm.trans (CompanionDefaults.get?_ofList_eq_some_iff.2 ⟨_, again⟩))
      exact .unmatched unused (List.mem_append_right _ reported)

/-- **Filling accounts for everything.** There is one result for every parameter, and what is
reported is what these results report, in order, and after it the keys that belong to no parameter
if these are wanted. Then the default of every key is accounted for. -/
theorem fill_accounts (table : SymbolTable) (companion : QualifiedName)
    (defaults : List CompanionDefault) (c : SourcedCallable) (warnUnmatched : Bool) :
    ∃ filled unmatched,
      table.fill (ofList companion defaults) c warnUnmatched =
        (filled.map Prod.fst, filled.flatMap Prod.snd ++ unmatched) ∧
      List.Forall₂ (table.Fills companion defaults c.toTarget.display) c.parameters filled ∧
      OneForEach (LeftOver companion defaults c.toTarget.display c.parameters)
        (if warnUnmatched then (defaults.map (·.key)).eraseDups else []) unmatched ∧
      (warnUnmatched → ∀ key ∈ (ofList companion defaults).keys,
        ∃ d, (ofList companion defaults).get? key = some d ∧
          Accounted companion c.toTarget.display c.parameters (filled.map Prod.fst)
            (filled.flatMap Prod.snd ++ unmatched) d) := by
  refine ⟨_, _, rfl, forall₂_fillParameter c.parameters, ?_, ?_⟩
  · cases warnUnmatched with
    | true => exact CompanionDefaults.oneForEach_unmatched
    | false => exact .nil
  · rintro rfl key known
    obtain ⟨d, chosen⟩ := Option.isSome_iff_exists.1
      (CompanionDefaults.isSome_get?_ofList_iff.2 known)
    exact ⟨d, chosen, accounted_of_get? table c chosen⟩

end SymbolTable

end DefaultArgs
