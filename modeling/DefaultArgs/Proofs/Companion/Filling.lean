import DefaultArgs.Companion
import DefaultArgs.Proofs.Diagnostic.Grading
import DefaultArgs.Proofs.Listing

/-!
# Which parameters are filled

A parameter of a constructor is filled if its key is among the keys of the companion, unless the
default that is bound to the key does not fit the type of the parameter, and this is an error. So
if no error is reported, the filled parameters are exactly those whose keys are known, and there are
as many of them as the constructor was chosen for.

## Main results

* `contributors_ofList`: the contributions to a key are the defaults of that key
* `mem_contributors_companionDefaults_iff`: the contributions of a companion come from its members
* `usable_of_toDefault?`: what a member that serves as a default is
* `exists_get?_of_fillParameter`: what fills a parameter is bound to its key and fits its type
* `keys_ofList`: the keys are those of the defaults, in the order of their first occurrence
* `isSome_get?_ofList_iff`: the known keys are those to which a default is bound
* `reportsOn_of_mem_fill`: what is reported in filling is about the constructor
* `isSome_default?_fill_iff`: the filled parameters are those whose keys are known
* `countP_default?_fill`: how many parameters are filled
-/

namespace DefaultArgs

/-! ## The contributions to a key

Collecting defaults loses none and invents none: the contributions to a key are the collected
defaults of that key, in the order in which they were collected. So every default that a companion
contributes comes from one of its members that is not private.
-/

namespace CompanionDefaults

variable {ds : CompanionDefaults} {d : CompanionDefault} {key : String}

/-- A default joins the group of its key, wherever that is, and no other group changes. -/
theorem lookup_insertInto (d : CompanionDefault) (groups : List (String × List CompanionDefault))
    (key : String) : (insertInto d groups).lookup key =
      if key = d.key then some ((groups.lookup d.key).getD [] ++ [d]) else groups.lookup key := by
  induction groups with
  | nil =>
    rw [insertInto, List.lookup_cons]
    split <;> simp_all
  | cons head rest ih =>
    obtain ⟨k, group⟩ := head
    rw [insertInto]
    split
    · next same =>
      subst same
      by_cases asked : key = d.key
      · simp [asked]
      · simp [List.lookup_cons, beq_false_of_ne asked, asked]
    · next other =>
      rw [List.lookup_cons, ih, List.lookup_cons, List.lookup_cons,
        beq_false_of_ne (Ne.symm other)]
      by_cases asked : key = k
      · simp [asked, other]
      · rw [beq_false_of_ne asked]

@[simp] theorem contributors_empty (companion : QualifiedName) :
    (empty companion).contributors key = [] := rfl

theorem contributors_insert :
    (ds.insert d).contributors key = ds.contributors key ++ if key = d.key then [d] else [] := by
  unfold contributors insert
  rw [lookup_insertInto]
  split
  · next asked => rw [asked, Option.getD_some]
  · rw [List.append_nil]

theorem contributors_foldl (defaults : List CompanionDefault) :
    (defaults.foldl insert ds).contributors key =
      ds.contributors key ++ defaults.filter (·.key = key) := by
  induction defaults generalizing ds with
  | nil => simp
  | cons d rest ih =>
    rw [List.foldl_cons, ih, contributors_insert, List.append_assoc]
    by_cases asked : d.key = key
    · simp [asked]
    · simp [asked, Ne.symm asked]

/-- The contributions to a key are the collected defaults of that key, in their order. -/
theorem contributors_ofList (companion : QualifiedName) (defaults : List CompanionDefault) :
    (ofList companion defaults).contributors key = defaults.filter (·.key = key) := by
  simp [ofList, contributors_foldl]

theorem mem_contributors_of_get? (h : ds.get? key = some d) : d ∈ ds.contributors key :=
  List.mem_of_getLast? h

end CompanionDefaults

/-- A member that serves as a default is usable, and the default is its path and its type. -/
theorem Member.usable_of_toDefault? {companion : QualifiedName} {m : Member} {d : CompanionDefault}
    (h : m.toDefault? companion = some d) :
    d.kind.usable m ∧ d.expression = d.kind.expression (companion.child m.name) ∧
      d.valueType = m.valueType := by
  obtain ⟨⟨kind, stem⟩, conventional, rfl⟩ := Option.map_eq_some_iff.1 h
  refine ⟨?_, rfl, rfl⟩
  unfold conventional? at conventional
  split at conventional
  · next field =>
    obtain ⟨stem, -, pair⟩ := Option.map_eq_some_iff.1 conventional
    obtain ⟨rfl, rfl⟩ := Prod.mk.inj pair
    exact field
  · split at conventional
    · next factory =>
      obtain ⟨stem, -, pair⟩ := Option.map_eq_some_iff.1 conventional
      obtain ⟨rfl, rfl⟩ := Prod.mk.inj pair
      exact factory
    · cases conventional

/-- The contributions of a companion to a key come from its members that are not private. -/
theorem SymbolTable.mem_contributors_companionDefaults_iff {table : SymbolTable}
    {companion : QualifiedName} {key : String} {d : CompanionDefault} :
    d ∈ (table.companionDefaults companion).contributors key ↔
      (∃ m ∈ table.membersOf companion, ¬m.isPrivate ∧ m.toDefault? companion = some d) ∧
        d.key = key := by
  simp [companionDefaults, CompanionDefaults.contributors_ofList, and_assoc]

/-- What fills a parameter is the default that is bound to its key, and it fits its type. -/
theorem SymbolTable.exists_get?_of_fillParameter {table : SymbolTable} {ds : CompanionDefaults}
    {target : String} {p : SourcedParameter} {e : Expression}
    (given : (table.fillParameter ds target p).1.default? = some e) :
    ∃ d, ds.get? (defaultKey p.name) = some d ∧ table.isAssignable d.valueType p.valueType ∧
      d.expression = e := by
  unfold fillParameter at given
  split at given
  · cases given
  · next d bound =>
    dsimp only at given
    split at given
    · next assignable => exact ⟨d, bound, assignable, Option.some.inj given⟩
    · cases given

/-! ## Filled parameters -/

namespace CompanionDefaults

variable {ds : CompanionDefaults} {d : CompanionDefault} {key : String}
  {defaults : List CompanionDefault} {companion : QualifiedName}

section Keys

theorem contains_iff_mem_keys : ds.contains key ↔ key ∈ ds.keys := by
  rw [contains, List.lookup_isSome_iff, keys, List.mem_map]
  simp only [beq_iff_eq, eq_comm (a := key)]

/-- A key is listed behind the others with its first default. -/
theorem keys_insert : (ds.insert d).keys =
    if d.key ∈ ds.keys then ds.keys else ds.keys ++ [d.key] := by
  unfold insert keys
  induction ds.groups with
  | nil => simp [insertInto]
  | cons head rest ih =>
    obtain ⟨k, group⟩ := head
    rw [insertInto]
    split
    · next same => simp [same]
    · next other =>
      simp only [List.map_cons, ih, List.mem_cons, Ne.symm other, false_or]
      split <;> rfl

theorem ofList_concat :
    ofList companion (defaults ++ [d]) = (ofList companion defaults).insert d := by
  rw [ofList, List.foldl_append]
  rfl

/-- The keys are those of the collected defaults, in the order of their first occurrence. -/
theorem keys_ofList (companion : QualifiedName) (defaults : List CompanionDefault) :
    (ofList companion defaults).keys = (defaults.map (·.key)).eraseDups := by
  induction defaults using List.reverseRecOn with
  | nil => rfl
  | append_singleton rest d ih =>
    rw [ofList_concat, keys_insert, List.map_append, List.map_singleton, eraseDups_concat, ih]
    simp only [List.mem_eraseDups]

theorem mem_keys_ofList :
    key ∈ (ofList companion defaults).keys ↔ ∃ d ∈ defaults, d.key = key := by
  rw [keys_ofList, List.mem_eraseDups, List.mem_map]

/-- **A key is known if a default is bound to it**, and only then. -/
theorem isSome_get?_ofList_iff :
    ((ofList companion defaults).get? key).isSome ↔ key ∈ (ofList companion defaults).keys := by
  rw [get?, contributors_ofList, mem_keys_ofList, List.getLast?_isSome, ne_eq,
    List.filter_eq_nil_iff]
  simp

end Keys

end CompanionDefaults

namespace SymbolTable

variable {table : SymbolTable} {ds : CompanionDefaults} {companion : QualifiedName}
  {c : SourcedCallable} {p : SourcedParameter} {q : ResolvedParameter} {target : String}
  {warnUnmatched : Bool} {d : Diagnostic} {k : Nat}

section Reports

theorem reportsOn_of_mem_fillParameter (mem : d ∈ (table.fillParameter ds target p).2) :
    d.ReportsOn target := by
  have ambiguous {d : Diagnostic} {chosen : CompanionDefault}
      (mem : d ∈ ds.ambiguity target p chosen) : d.ReportsOn target := by
    unfold CompanionDefaults.ambiguity at mem
    dsimp only at mem
    split at mem
    · obtain rfl := List.mem_singleton.1 mem
      exact ⟨rfl, rfl⟩
    · cases mem
  unfold fillParameter at mem
  split at mem
  · cases mem
  · dsimp only at mem
    split at mem
    · exact ambiguous mem
    · rcases List.mem_append.1 mem with warning | mismatch
      · exact ambiguous warning
      · obtain rfl := List.mem_singleton.1 mismatch
        exact ⟨rfl, rfl⟩

/-- A default that belongs to no parameter is a warning. -/
theorem reportsOn_of_mem_unmatched {params : List SourcedParameter}
    (mem : d ∈ ds.unmatched target params) : d.ReportsOn target ∧ d.isError = false := by
  obtain ⟨unused, -, rfl⟩ := List.mem_map.1 mem
  exact ⟨⟨rfl, rfl⟩, rfl⟩

/-- What is reported in filling is about the constructor. -/
theorem reportsOn_of_mem_fill (mem : d ∈ (table.fill ds c warnUnmatched).2) :
    d.ReportsOn c.toTarget.display := by
  rcases List.mem_append.1 mem with filled | unmatched
  · obtain ⟨reports, of_parameter, mem⟩ := List.mem_flatMap.1 filled
    obtain ⟨p, -, rfl⟩ := List.mem_map.1 of_parameter
    exact reportsOn_of_mem_fillParameter mem
  · split at unmatched
    · exact (reportsOn_of_mem_unmatched unmatched).1
    · cases unmatched

end Reports

section Filled

/-- If no error is reported of a parameter, it is filled exactly if a default is bound to its key.
One that does not fit would be an error. -/
theorem isSome_default?_fillParameter
    (fine : Diagnostic.hasErrors (table.fillParameter ds target p).2 = false) :
    (table.fillParameter ds target p).1.default?.isSome ↔ (ds.get? (defaultKey p.name)).isSome := by
  unfold fillParameter at fine ⊢
  split
  · next unbound => simp [unbound]
  · next bound =>
    dsimp only
    split
    · simp [bound]
    · next unfit =>
      simp [bound, unfit, Diagnostic.hasErrors, CompanionDefaults.mismatch, Diagnostic.errorAt,
        Diagnostic.isError] at fine

theorem hasErrors_fillParameter_of_fill
    (fine : Diagnostic.hasErrors (table.fill ds c warnUnmatched).2 = false)
    (mem : p ∈ c.parameters) :
    Diagnostic.hasErrors (table.fillParameter ds c.toTarget.display p).2 = false := by
  rw [Diagnostic.hasErrors_eq_false_iff_forall] at fine ⊢
  intro d reported
  refine fine d (List.mem_append_left _ (List.mem_flatMap.2 ⟨_, ?_, reported⟩))
  exact List.mem_map_of_mem mem

variable (fine : Diagnostic.hasErrors
  (table.fill (table.companionDefaults companion) c warnUnmatched).2 = false)

include fine

/-- **The filled parameters are those whose keys are known**, if no error is reported. -/
theorem isSome_default?_of_mem (mem : p ∈ c.parameters) :
    (table.fillParameter (table.companionDefaults companion) c.toTarget.display
        p).1.default?.isSome ↔
      defaultKey p.name ∈ (table.companionDefaults companion).keys := by
  rw [isSome_default?_fillParameter (hasErrors_fillParameter_of_fill fine mem)]
  exact CompanionDefaults.isSome_get?_ofList_iff

/-- A parameter is filled in its place. -/
theorem isSome_default?_fill_iff (at_k : c.parameters[k]? = some p) :
    (∃ q, (table.fill (table.companionDefaults companion) c warnUnmatched).1[k]? = some q ∧
        q.default?.isSome) ↔
      defaultKey p.name ∈ (table.companionDefaults companion).keys := by
  rw [← isSome_default?_of_mem fine (List.mem_of_getElem? at_k)]
  simp [fill, at_k]

/-- As many parameters are filled as the constructor was chosen for. -/
theorem countP_default?_fill :
    (table.fill (table.companionDefaults companion) c warnUnmatched).1.countP
        (fun q => q.default?.isSome) =
      (table.companionDefaults companion).matched c := by
  simp only [fill, List.map_map, List.countP_map, CompanionDefaults.matched]
  refine List.countP_congr fun p mem => ?_
  rw [CompanionDefaults.contains_iff_mem_keys]
  exact isSome_default?_of_mem fine mem

end Filled

end SymbolTable

end DefaultArgs
