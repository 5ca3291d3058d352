import DefaultArgs.Proofs.Reference.Completeness

/-!
# What the members of a scope decide

A scan of the members of a scope is sought to find one of a given name and kind that passes every
check. Of the fields, the first one of the name decides; of the methods, any one that passes. If
none does, the first check that it fails is the error, and a name that no member of the kind has is
reported together with the names that could have been meant. The relations of this module say all
of this without a search, and the scan is proved to find it.

## Main definitions

* `SymbolTable.Passes table s m`, `SymbolTable.Fails table s m e`: a member passes every check, or
  the first check that it fails
* `SymbolTable.Reported members name m`: the method that is reported if none passes
* `SymbolTable.Lists kind members names`: the names of the usable members
* `SymbolTable.Judges table s members result`: what the members decide
* `SymbolTable.judge table s members`: what a scan of the members finds

## Main results

* `defect?_eq_some_iff`: the defect of a member is the first check that it fails
* `lists_iff`: the suggested names are those of the usable members
* `exists_judges`: the members decide something
* `judge_eq_iff`: the scan finds what the members decide, and nothing else
-/

namespace DefaultArgs.SymbolTable

variable (table : SymbolTable)

section Relations

/-- **A member passes every check.** -/
structure Passes (s : Sought) (m : Member) : Prop where
  static : m.isStatic
  noArguments : s.kind = .factory → m.parameterCount = 0
  notVoid : s.kind = .factory → m.valueType ≠ .void
  assignable : table.isAssignable m.valueType s.expected

/-- **The first check that a member fails**, in the order of the checks. -/
inductive Fails (s : Sought) (m : Member) : ReferenceError → Prop
  | notStatic (dynamic : ¬ m.isStatic) : Fails s m (.notStatic s.use s.kind)
  | takesArguments (static : m.isStatic) (method : s.kind = .factory)
      (arguments : m.parameterCount ≠ 0) : Fails s m (.takesArguments s.use m.parameterCount)
  | voidReturn (static : m.isStatic) (method : s.kind = .factory)
      (noArguments : m.parameterCount = 0) (void : m.valueType = .void) :
      Fails s m (.voidReturn s.use)
  | typeMismatch (static : m.isStatic) (noArguments : s.kind = .factory → m.parameterCount = 0)
      (notVoid : s.kind = .factory → m.valueType ≠ .void)
      (unfit : ¬ table.isAssignable m.valueType s.expected) :
      Fails s m (.typeMismatch s.use s.kind m.valueType s.expected)

/-- **The method that is reported if none passes**: the first one of the name that takes no
arguments, and if there is none, the first one of the name. -/
inductive Reported (members : List Member) (name : String) : Member → Prop
  | noArguments {m : Member}
      (first : members.find? (fun m => m.isMethod && m.name = name && m.parameterCount = 0) =
        some m) : Reported members name m
  | first {m : Member}
      (arguments : ∀ m ∈ members, m.isMethod → m.name = name → m.parameterCount ≠ 0)
      (first : members.find? (fun m => m.isMethod && m.name = name) = some m) :
      Reported members name m

theorem Reported.spec {members : List Member} {name : String} {m : Member}
    (reported : Reported members name m) : m ∈ members ∧ m.isMethod ∧ m.name = name := by
  cases reported with
  | noArguments found =>
    have named := List.find?_some found
    simp only [Bool.and_eq_true, decide_eq_true_eq] at named
    exact ⟨List.mem_of_find?_eq_some found, named.1⟩
  | first _ found =>
    have named := List.find?_some found
    simp only [Bool.and_eq_true, decide_eq_true_eq] at named
    exact ⟨List.mem_of_find?_eq_some found, named⟩

/-- **The names of the usable members**, each of them once, in the order in which they first
occur. -/
inductive Lists (kind : ReferenceKind) : List Member → List String → Prop
  | nil : Lists kind [] []
  | usable {members : List Member} {names : List String} {m : Member}
      (before : Lists kind members names) (usable : kind.usable m) (fresh : m.name ∉ names) :
      Lists kind (members ++ [m]) (names ++ [m.name])
  | other {members : List Member} {names : List String} {m : Member}
      (before : Lists kind members names) (known : kind.usable m → m.name ∈ names) :
      Lists kind (members ++ [m]) names

/-- **What the members of a scope decide.** The first field of the name has to pass, or any method
of the name. If it does not, its first failed check is the error, for methods that of the one which
is reported. A name that no member of the kind has is not found. -/
inductive Judges (s : Sought) (members : List Member) : Except ReferenceError Unit → Prop
  | field {m : Member} (kind : s.kind = .field)
      (first : members.find? (fun m => m.isField && m.name = s.use.member) = some m)
      (passes : table.Passes s m) : Judges s members (.ok ())
  | badField {m : Member} {e : ReferenceError} (kind : s.kind = .field)
      (first : members.find? (fun m => m.isField && m.name = s.use.member) = some m)
      (fails : table.Fails s m e) : Judges s members (.error e)
  | factory {m : Member} (kind : s.kind = .factory) (mem : m ∈ members) (method : m.isMethod)
      (name : m.name = s.use.member) (passes : table.Passes s m) : Judges s members (.ok ())
  | badFactory {m : Member} {e : ReferenceError} (kind : s.kind = .factory)
      (none : ∀ m ∈ members, m.isMethod → m.name = s.use.member → ¬ table.Passes s m)
      (reported : Reported members s.use.member m) (fails : table.Fails s m e) :
      Judges s members (.error e)
  | missing {names : List String}
      (absent : ∀ m ∈ members, s.kind.fits m → m.name ≠ s.use.member)
      (listed : Lists s.kind members names) :
      Judges s members (.error (.notFound s.use s.kind (likelySpelling? s.use.member names) names))

end Relations

/-- What a scan of the members of a scope finds. -/
def judge (s : Sought) (members : List Member) : Except ReferenceError Unit :=
  (table.verdict? s members).getD (.error (missing s members))

variable {table} {s : Sought} {m : Member} {members : List Member} {e : ReferenceError}

section Checks

theorem passes_eq_true_iff : table.passes s m = true ↔ table.Passes s m := by
  rw [passes_iff]
  constructor
  · rintro ⟨static, shape, assignable⟩
    exact ⟨static, fun method => (shape method).1, fun method => (shape method).2, assignable⟩
  · intro passes
    exact ⟨passes.static, fun method => ⟨passes.noArguments method, passes.notVoid method⟩,
      passes.assignable⟩

/-- **The defect of a member is the first check that it fails.** -/
theorem defect?_eq_some_iff : table.defect? s m = some e ↔ table.Fails s m e := by
  constructor
  · intro defect
    unfold defect? at defect
    split_ifs at defect with static arguments void assignable <;> cases defect
    · exact .takesArguments static arguments.1 arguments.2
    · have noArguments : m.parameterCount = 0 := by simpa [void.1] using arguments
      exact .voidReturn static void.1 noArguments void.2
    · exact .typeMismatch static (fun method => by simpa [method] using arguments)
        (fun method => by simpa [method] using void) (by simpa using assignable)
    · exact .notStatic static
  · intro fails
    unfold defect?
    cases fails with
    | notStatic dynamic => rw [if_pos dynamic]
    | takesArguments static method arguments => simp [static, method, arguments]
    | voidReturn static method noArguments void => simp [static, method, noArguments, void]
    | typeMismatch static noArguments notVoid unfit =>
      rw [if_neg (not_not_intro static), if_neg fun bad => bad.2 (noArguments bad.1),
        if_neg fun bad => notVoid bad.1 bad.2, if_pos unfit]

/-- A member that does not pass fails some check. -/
theorem exists_fails_of_not_passes (fails : ¬ table.Passes s m) : ∃ e, table.Fails s m e := by
  cases defect : table.defect? s m with
  | some e => exact ⟨e, defect?_eq_some_iff.1 defect⟩
  | none =>
    have passes : table.passes s m = true := by rw [passes, defect, Option.isNone_none]
    exact absurd (passes_eq_true_iff.1 passes) fails

theorem defect?_of_passes (passes : table.Passes s m) : table.defect? s m = none :=
  Option.isNone_iff_eq_none.1 (passes_eq_true_iff.2 passes)

end Checks

section Names

theorem candidates_concat (kind : ReferenceKind) (members : List Member) (m : Member) :
    candidates kind (members ++ [m]) = candidates kind members ++
      if kind.usable m ∧ m.name ∉ candidates kind members then [m.name] else [] := by
  unfold candidates
  rw [List.filter_append, List.map_append, List.eraseDups_append]
  by_cases usable : kind.usable m = true
  · rw [List.filter_cons_of_pos usable, List.filter_nil, List.map_singleton]
    by_cases known : m.name ∈ (members.filter kind.usable).map Member.name
    · simp [List.removeAll, known]
    · have single : [m.name].eraseDups = [m.name] := rfl
      simp [List.removeAll, known, usable, single]
  · simp [usable, List.removeAll]

/-- The names that are suggested are those of the usable members. Members are listed in order, so a
member is compared with those before it. -/
theorem lists_iff {names : List String} :
    Lists kind members names ↔ names = candidates kind members := by
  constructor
  · intro lists
    induction lists with
    | nil => rfl
    | usable before usable fresh ih =>
      subst ih
      rw [candidates_concat, if_pos ⟨usable, fresh⟩]
    | other before known ih =>
      subst ih
      rw [candidates_concat, if_neg fun new => new.2 (known new.1), List.append_nil]
  · rintro rfl
    induction members using List.reverseRecOn with
    | nil => exact .nil
    | append_singleton before m ih =>
      rw [candidates_concat]
      split
      · next new => exact .usable ih new.1 new.2
      · next old =>
        rw [List.append_nil]
        exact .other ih fun usable => by_contra fun fresh => old ⟨usable, fresh⟩

end Names

section Verdicts

theorem reported?_factory_eq_some_iff {name : String} :
    reported? .factory (members.filter fun m => m.isMethod && m.name = name) = some m ↔
      Reported members name m := by
  have noArguments : (members.filter fun m => m.isMethod && m.name = name).find?
        (fun m => m.parameterCount = 0) =
      members.find? fun m => m.isMethod && m.name = name && m.parameterCount = 0 := by
    rw [List.find?_filter]
    congr
    funext m
    simp
  rw [reported?, noArguments, List.head?_filter, Option.or_eq_some_iff]
  constructor
  · rintro (found | ⟨none, first⟩)
    · exact .noArguments found
    · refine .first ?_ first
      simpa using none
  · intro reported
    cases reported with
    | noArguments found => exact .inl found
    | first arguments first => exact .inr ⟨by simpa using arguments, first⟩

/-- The verdict on the member that is reported, if it is not overruled by another method. -/
theorem verdict?_of_reported
    (reported : reported? s.kind (members.filter fun m => s.kind.fits m && m.name = s.use.member) =
      some m)
    (alone : s.kind = .factory → ∀ m ∈ members, m.isMethod → m.name = s.use.member →
      ¬ table.Passes s m) :
    table.verdict? s members = some (match table.defect? s m with
      | some defect => .error defect
      | none => .ok ()) := by
  simp only [verdict?, reported, Option.map_some]
  split
  · next overruled =>
    obtain ⟨kind, any⟩ := overruled
    obtain ⟨m, named, passes⟩ := List.any_eq_true.1 any
    simp only [kind, ReferenceKind.fits, List.mem_filter, Bool.and_eq_true, decide_eq_true_eq]
      at named
    exact absurd (passes_eq_true_iff.1 passes) (alone kind m named.1 named.2.1 named.2.2)
  · rfl

theorem verdict?_of_absent (absent : ∀ m ∈ members, s.kind.fits m → m.name ≠ s.use.member) :
    table.verdict? s members = none := by
  have none : members.filter (fun m => s.kind.fits m && m.name = s.use.member) = [] := by
    simpa using absent
  rw [verdict?, none]
  cases s.kind <;> rfl

/-- The scan finds what the members decide. -/
theorem judge_of_judges {result : Except ReferenceError Unit}
    (judges : table.Judges s members result) : table.judge s members = result := by
  have reported_field {m : Member} (kind : s.kind = .field)
      (first : members.find? (fun m => m.isField && m.name = s.use.member) = some m) :
      reported? s.kind (members.filter fun m => s.kind.fits m && m.name = s.use.member) =
        some m := by
    rw [kind]
    exact List.head?_filter.trans first
  have not_factory {p : Prop} (kind : s.kind = .field) (method : s.kind = .factory) : p := by
    rw [kind] at method
    cases method
  unfold judge
  cases judges with
  | field kind first passes =>
    rw [verdict?_of_reported (reported_field kind first) (not_factory kind),
      defect?_of_passes passes]
    rfl
  | badField kind first fails =>
    rw [verdict?_of_reported (reported_field kind first) (not_factory kind),
      defect?_eq_some_iff.2 fails]
    rfl
  | @factory m kind mem method name passes =>
    have fits : s.kind.fits m := by
      rw [kind]
      exact method
    rw [verdict?_of_passes mem fits name (passes_eq_true_iff.2 passes)
      fun field => not_factory field kind]
    rfl
  | badFactory kind none reported fails =>
    have chosen := reported?_factory_eq_some_iff.2 reported
    rw [verdict?_of_reported (by rw [kind]; exact chosen) fun _ => none,
      defect?_eq_some_iff.2 fails]
    rfl
  | missing absent listed =>
    rw [verdict?_of_absent absent, lists_iff.1 listed]
    rfl

theorem exists_reported {name : String} (mem : m ∈ members) (method : m.isMethod)
    (named : m.name = name) : ∃ m, Reported members name m := by
  cases reported : reported? .factory (members.filter fun m => m.isMethod && m.name = name) with
  | some first => exact ⟨first, reported?_factory_eq_some_iff.1 reported⟩
  | none =>
    have kept : m ∈ members.filter fun m => m.isMethod && m.name = name := by
      simp [mem, method, named]
    simp only [reported?, Option.or_eq_none_iff, List.head?_eq_none_iff] at reported
    rw [reported.2] at kept
    cases kept

/-- The members of a scope decide something. -/
theorem exists_judges (table : SymbolTable) (s : Sought) (members : List Member) :
    ∃ result, table.Judges s members result := by
  by_cases absent : ∀ m ∈ members, s.kind.fits m → m.name ≠ s.use.member
  · exact ⟨_, .missing absent (lists_iff.2 rfl)⟩
  · push Not at absent
    obtain ⟨m, mem, fits, named⟩ := absent
    cases kind : s.kind with
    | field =>
      rw [kind] at fits
      have some_field : (members.find? fun m => m.isField && m.name = s.use.member).isSome := by
        rw [List.find?_isSome]
        exact ⟨m, mem, by simpa [named, ReferenceKind.fits] using fits⟩
      obtain ⟨first, found⟩ := Option.isSome_iff_exists.1 some_field
      by_cases passes : table.Passes s first
      · exact ⟨_, .field kind found passes⟩
      · obtain ⟨e, fails⟩ := exists_fails_of_not_passes passes
        exact ⟨_, .badField kind found fails⟩
    | factory =>
      rw [kind] at fits
      by_cases any : ∃ m ∈ members, m.isMethod ∧ m.name = s.use.member ∧ table.Passes s m
      · obtain ⟨m, mem, method, name, passes⟩ := any
        exact ⟨_, .factory kind mem method name passes⟩
      · push Not at any
        obtain ⟨reported, chosen⟩ := exists_reported mem fits named
        obtain ⟨mem, method, name⟩ := chosen.spec
        obtain ⟨e, fails⟩ := exists_fails_of_not_passes (any reported mem method name)
        exact ⟨_, .badFactory kind any chosen fails⟩

/-- **The scan finds what the members decide.** -/
theorem judge_eq_iff {result : Except ReferenceError Unit} :
    table.judge s members = result ↔ table.Judges s members result := by
  refine ⟨?_, judge_of_judges⟩
  rintro rfl
  obtain ⟨result, judges⟩ := exists_judges table s members
  rwa [judge_of_judges judges]

end Verdicts

end DefaultArgs.SymbolTable
