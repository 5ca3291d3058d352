import DefaultArgs.Proofs.Namespace.Lineage
import DefaultArgs.Proofs.Registry.Catalogue
import DefaultArgs.Registry.Table

/-!
# What a relative name stands for

A relative name is looked up in a namespace and those around it, and the innermost scope shadows all
others. Only if no namespace around has the name do imports count, those of all namespaces around at
once: a single imported scope is found, on however many ways it is imported, and several are
ambiguous. Imports are not followed further.

## Main definitions

* `QualifiedName.within home name`: a name continued from a namespace
* `Registry.Imported r home name entry`: an import in effect in `home` gives the scope to the name
* `Registry.StandsFor r home name entry`: the name stands for one scope
* `Registry.Means r home name result`: everything that a lookup can say
* `Resolution.Agrees result result'`: two results are the same up to the order of the matches

## Main results

* `Means.agrees`: a name means one thing
* `Sound.means_relativeTo`: the lookup says what the name means
* `Sound.scopeFrom?_eq_some_iff`: when a lookup gives a scope
* `relative_means`: the lookup from a namespace of a registry
-/

namespace DefaultArgs

/-- The name that a relative name continues to from a namespace. -/
def QualifiedName.within (home : List String) (name : QualifiedName) : QualifiedName :=
  ⟨name.name, home ++ name.enclosing⟩

namespace RegisteredScope

/-- Scopes of one name are taken for duplicates. -/
abbrev sameName (a b : RegisteredScope) : Bool := a.scope.name = b.scope.name

/-- Induction over a list in which the duplicates of its head are dropped before the rest. -/
@[elab_as_elim]
theorem eraseDups_induction {motive : List RegisteredScope → Prop} (nil : motive [])
    (cons : ∀ a rest, motive (rest.filter fun b => sameName b a = false) → motive (a :: rest))
    (all : List RegisteredScope) : motive all := by
  match all with
  | [] => exact nil
  | a :: rest => exact cons a rest (eraseDups_induction nil cons _)
termination_by all.length
decreasing_by
  exact Nat.lt_succ_of_le (List.length_filter_le _ _)

theorem eraseDupsBy_sublist (all : List RegisteredScope) :
    (all.eraseDupsBy sameName).Sublist all := by
  induction all using eraseDups_induction with
  | nil => exact .slnil
  | cons a rest ih =>
    rw [List.eraseDupsBy_cons]
    exact (ih.trans List.filter_sublist).cons_cons a

/-- Without its duplicates, a list has every name once. -/
theorem nodup_eraseDupsBy (all : List RegisteredScope) :
    ((all.eraseDupsBy sameName).map fun e => e.scope.name).Nodup := by
  induction all using eraseDups_induction with
  | nil => exact List.nodup_nil
  | cons a rest ih =>
    rw [List.eraseDupsBy_cons, List.map_cons, List.nodup_cons]
    refine ⟨fun mem => ?_, ih⟩
    obtain ⟨b, mem, same⟩ := List.mem_map.1 mem
    have kept := (List.mem_filter.1 ((eraseDupsBy_sublist _).subset mem)).2
    simp [same] at kept

/-- Only duplicates are lost, so nothing is if scopes of one name are the same. -/
theorem mem_eraseDupsBy_iff {entry : RegisteredScope} (all : List RegisteredScope)
    (one : ∀ a ∈ all, ∀ b ∈ all, a.scope.name = b.scope.name → a = b) :
    entry ∈ all.eraseDupsBy sameName ↔ entry ∈ all := by
  induction all using eraseDups_induction with
  | nil => rfl
  | cons a rest ih =>
    have fewer : ∀ b ∈ rest.filter (fun b => sameName b a = false), b ∈ a :: rest :=
      fun b mem => List.mem_cons_of_mem _ (List.mem_filter.1 mem).1
    have later := ih fun b hb c hc => one b (fewer b hb) c (fewer c hc)
    rw [List.eraseDupsBy_cons, List.mem_cons, List.mem_cons, later, List.mem_filter]
    by_cases same : entry = a
    · simp [same]
    · refine or_congr_right (and_iff_left_of_imp fun mem => decide_eq_true ?_)
      exact decide_eq_false fun named =>
        same (one _ (List.mem_cons_of_mem _ mem) _ List.mem_cons_self named)

end RegisteredScope

/-- Two results say the same. The order in which matches are listed does not count. -/
inductive Resolution.Agrees {α : Type} : Resolution α → Resolution α → Prop
  | found (a : α) : Agrees (.found a) (.found a)
  | ambiguous {all all' : List α} (perm : all.Perm all') : Agrees (.ambiguous all) (.ambiguous all')
  | notFound : Agrees .notFound .notFound

namespace Registry

/-- An import of a namespace, or of one around it, gives the scope to the name. -/
def Imported (r : Registry) (home : List String) (name : QualifiedName)
    (entry : RegisteredScope) : Prop :=
  ∃ importer imported, importer <+: home ∧ r.namespaces.Imports importer imported ∧
    r.entry? (name.within imported) = some entry

/-- No namespace around has a scope of the name. -/
def Vacant (r : Registry) (home : List String) (name : QualifiedName) : Prop :=
  ∀ p, p <+: home → r.entry? (name.within p) = none

/-- **The scope that a relative name stands for**: the innermost one around, or else the only one
that is imported. -/
inductive StandsFor (r : Registry) (home : List String) (name : QualifiedName)
    (entry : RegisteredScope) : Prop
  | around
      (inner : NamespaceGraph.Innermost home (fun p => r.entry? (name.within p)) entry)
  | imported (vacant : r.Vacant home name)
      (only : ∀ other, r.Imported home name other ↔ other = entry)

/-- **Everything that a lookup can say.** -/
inductive Means (r : Registry) (home : List String) (name : QualifiedName) :
    Resolution RegisteredScope → Prop
  | found {entry : RegisteredScope} (stands : r.StandsFor home name entry) :
      Means r home name (.found entry)
  | ambiguous {all : List RegisteredScope} (vacant : r.Vacant home name)
      (several : 2 ≤ all.length) (once : (all.map fun e => e.scope.name).Nodup)
      (listed : ∀ entry, entry ∈ all ↔ r.Imported home name entry) :
      Means r home name (.ambiguous all)
  | notFound (vacant : r.Vacant home name) (nowhere : ∀ entry, ¬r.Imported home name entry) :
      Means r home name .notFound

variable {r r' : Registry} {home : List String} {name : QualifiedName} {node : NodeId}
  {text : String} {entry other : RegisteredScope} {result result' : Resolution RegisteredScope}

theorem Vacant.not_innermost (vacant : r.Vacant home name) :
    ¬NamespaceGraph.Innermost home (fun p => r.entry? (name.within p)) entry := by
  rintro ⟨p, before, value, -⟩
  exact Option.some_ne_none _ (value.symm.trans (vacant p before))

/-- A name stands for one scope at most. -/
theorem StandsFor.unique (stands : r.StandsFor home name entry)
    (stands' : r.StandsFor home name other) : entry = other := by
  cases stands with
  | around inner =>
    cases stands' with
    | around inner' => exact inner.unique inner'
    | imported vacant => exact absurd inner vacant.not_innermost
  | imported vacant only =>
    cases stands' with
    | around inner => exact absurd inner vacant.not_innermost
    | imported _ only' => exact (only' entry).1 ((only entry).2 rfl)

/-- If nothing around has the name, it stands for a scope only if no other is imported. -/
theorem Vacant.imported_iff_eq (vacant : r.Vacant home name)
    (stands : r.StandsFor home name entry) : r.Imported home name other ↔ other = entry := by
  cases stands with
  | around inner => exact absurd inner vacant.not_innermost
  | imported _ only => exact only other

/-- **A lookup finds the scope that the name stands for.** -/
theorem Means.found?_eq_some_iff (means : r.Means home name result) :
    result.found? = some entry ↔ r.StandsFor home name entry := by
  cases means with
  | found stands =>
    refine ⟨fun same => Option.some.inj same ▸ stands, fun stands' => ?_⟩
    exact congrArg some (stands.unique stands')
  | @ambiguous all vacant several once listed =>
    refine ⟨fun absent => (nomatch absent), fun stands => ?_⟩
    have same : ∀ other ∈ all, other = entry := fun other mem =>
      (vacant.imported_iff_eq stands).1 ((listed other).1 mem)
    match all, several with
    | a :: b :: rest, _ =>
      have repeated : a.scope.name = b.scope.name := by
        rw [same a (by simp), same b (by simp)]
      exact absurd once (by simp [repeated])
  | notFound vacant nowhere =>
    refine ⟨fun absent => (nomatch absent), fun stands => ?_⟩
    exact absurd ((vacant.imported_iff_eq stands).2 rfl) (nowhere entry)

/-- What a name stands for depends on the scopes of its simple name and on the imports only. -/
theorem StandsFor.congr (entries : ∀ p, r.entry? (name.within p) = r'.entry? (name.within p))
    (imports : ∀ x y, r.namespaces.Imports x y ↔ r'.namespaces.Imports x y) :
    r.StandsFor home name entry ↔ r'.StandsFor home name entry := by
  have imported (other) : r.Imported home name other ↔ r'.Imported home name other := by
    simp only [Imported, entries, imports]
  have vacant : r.Vacant home name ↔ r'.Vacant home name := by
    simp only [Vacant, entries]
  constructor
  · rintro (inner | ⟨none, only⟩)
    · exact .around ((NamespaceGraph.Innermost.congr fun p _ => entries p).1 inner)
    · exact .imported (vacant.1 none) fun other => (imported other).symm.trans (only other)
  · rintro (inner | ⟨none, only⟩)
    · exact .around ((NamespaceGraph.Innermost.congr fun p _ => entries p).2 inner)
    · exact .imported (vacant.2 none) fun other => (imported other).trans (only other)

/-- An ambiguous name has a match. -/
theorem exists_imported {all : List RegisteredScope} (several : 2 ≤ all.length)
    (listed : ∀ entry, entry ∈ all ↔ r.Imported home name entry) :
    ∃ entry, r.Imported home name entry := by
  obtain ⟨entry, mem⟩ := List.exists_mem_of_length_pos (Nat.lt_of_lt_of_le Nat.two_pos several)
  exact ⟨entry, (listed entry).1 mem⟩

/-- **A name means one thing**, up to the order in which ambiguous matches are listed. -/
theorem Means.agrees (means : r.Means home name result) (means' : r.Means home name result') :
    result.Agrees result' := by
  cases means with
  | found stands =>
    have same := means'.found?_eq_some_iff.2 stands
    cases means' with
    | found stands' =>
      obtain rfl := Option.some.inj same
      exact .found _
    | ambiguous => cases same
    | notFound => cases same
  | @ambiguous all vacant several once listed =>
    cases means' with
    | found stands => cases (Means.ambiguous vacant several once listed).found?_eq_some_iff.2 stands
    | @ambiguous all' _ _ once' listed' =>
      refine .ambiguous ((List.perm_ext_iff_of_nodup once.of_map once'.of_map).2 fun entry => ?_)
      rw [listed, listed']
    | notFound _ nowhere =>
      obtain ⟨entry, given⟩ := exists_imported several listed
      exact absurd given (nowhere entry)
  | notFound vacant nowhere =>
    cases means' with
    | found stands => cases (Means.notFound vacant nowhere).found?_eq_some_iff.2 stands
    | @ambiguous all _ several _ listed =>
      obtain ⟨entry, given⟩ := exists_imported several listed
      exact absurd given (nowhere entry)
    | notFound => exact .notFound

theorem Means.of_agrees (means : r.Means home name result) (agrees : result'.Agrees result) :
    r.Means home name result' := by
  cases agrees with
  | found => exact means
  | ambiguous perm =>
    cases means with
    | ambiguous vacant several once listed =>
      exact .ambiguous vacant (perm.length_eq ▸ several) ((perm.map _).nodup_iff.2 once)
        fun entry => perm.mem_iff.trans (listed entry)
  | notFound => exact means

section Lookups

theorem bind_entryFrom? (r : Registry) (name : QualifiedName) (p : List String) :
    (r.namespaces.nodeAt? p).bind (r.entryFrom? name) = r.entry? (name.within p) := by
  rw [Registry.entry?, QualifiedName.within, NamespaceGraph.nodeAt?_append, Option.bind_assoc]
  rfl

theorem nodup_importedEntries (r : Registry) (name : QualifiedName) (nodes : List NodeId) :
    ((r.importedEntries name nodes).map fun e => e.scope.name).Nodup :=
  RegisteredScope.nodup_eraseDupsBy _

/-- A text that spells a name is read as this name. -/
theorem relative_eq_relativeTo (reached : r.namespaces.nodeAt? home = some node)
    (spelled : QualifiedName.pathOf text = name.segments) :
    r.relative home text = r.relativeTo name node := by
  have parsed : QualifiedName.parse text = name := by
    rw [QualifiedName.parse, spelled, QualifiedName.ofSegments_segments]
  have nonempty : QualifiedName.pathOf text ≠ [] := by
    simp [spelled, QualifiedName.segments]
  rw [relative, if_neg nonempty, reached, parsed]

namespace Sound

variable (sound : r.Sound)

include sound

/-- Scopes of one name that are found are the same, wherever they are found. -/
theorem eq_of_imported (given : r.Imported home name entry) (given' : r.Imported home name other)
    (same : entry.scope.name = other.scope.name) : entry = other := by
  obtain ⟨-, imported, -, -, found⟩ := given
  obtain ⟨-, imported', -, -, found'⟩ := given'
  rw [← sound.name_of_entry? found, same, sound.name_of_entry? found', found'] at found
  exact (Option.some.inj found).symm

theorem mem_importedEntries_iff (reached : r.namespaces.nodeAt? home = some node) :
    entry ∈ r.importedEntries name (r.namespaces.lineage node) ↔ r.Imported home name entry := by
  have given : ∀ entry, entry ∈ ((r.namespaces.lineage node).flatMap r.namespaces.imports).filterMap
      (r.entryFrom? name) ↔ r.Imported home name entry := by
    intro entry
    simp only [List.mem_filterMap, List.mem_flatMap, sound.tree.mem_lineage_iff reached]
    constructor
    · rintro ⟨target, ⟨source, ⟨importer, before, here⟩, edge⟩, found⟩
      obtain ⟨imported, there⟩ := sound.tree.exists_nodeAt?
        (sound.tree.target_lt _ (NamespaceGraph.mem_imports_iff.1 edge))
      refine ⟨importer, imported, before, ⟨source, target, here, there, edge⟩, ?_⟩
      rw [← bind_entryFrom?, there, Option.bind_some, found]
    · rintro ⟨importer, imported, before, ⟨source, target, here, there, edge⟩, found⟩
      rw [← bind_entryFrom?, there, Option.bind_some] at found
      exact ⟨target, ⟨source, ⟨importer, before, here⟩, edge⟩, found⟩
  refine Iff.trans (RegisteredScope.mem_eraseDupsBy_iff _ fun a ha b hb same => ?_) (given entry)
  exact sound.eq_of_imported ((given a).1 ha) ((given b).1 hb) same

/-- **The lookup says what the name means.** -/
theorem means_relativeTo (reached : r.namespaces.nodeAt? home = some node) :
    r.Means home name (r.relativeTo name node) := by
  rw [relativeTo]
  cases around : (r.namespaces.lineage node).findSome? (r.entryFrom? name) with
  | some entry =>
    have inner := (sound.tree.findSome?_lineage_eq_some_iff reached).1 around
    simp only [bind_entryFrom?] at inner
    exact .found (.around inner)
  | none =>
    have vacant := (sound.tree.findSome?_lineage_eq_none_iff reached).1 around
    simp only [bind_entryFrom?] at vacant
    have listed (entry) : entry ∈ r.importedEntries name (r.namespaces.lineage node) ↔
        r.Imported home name entry := sound.mem_importedEntries_iff reached
    have once := r.nodup_importedEntries name (r.namespaces.lineage node)
    match r.importedEntries name (r.namespaces.lineage node), listed, once with
    | [], listed, _ => exact .notFound vacant fun entry given => nomatch (listed entry).2 given
    | [only], listed, _ =>
      exact .found (.imported vacant fun other => (listed other).symm.trans List.mem_singleton)
    | a :: b :: rest, listed, once =>
      exact .ambiguous vacant (Nat.le_add_left 2 rest.length) once listed

/-- **A lookup gives the scope that the name stands for**, if it starts at a namespace. -/
theorem scopeFrom?_eq_some_iff (spelled : QualifiedName.pathOf text = name.segments)
    {scope : Scope} : r.scopeFrom? home text = some scope ↔
      r.namespaces.Known home ∧ ∃ entry, r.StandsFor home name entry ∧ entry.scope = scope := by
  cases reached : r.namespaces.nodeAt? home with
  | none =>
    have absent : r.scopeFrom? home text = none := by
      rw [scopeFrom?, relative, reached]
      split <;> rfl
    simp [absent, NamespaceGraph.Known, reached]
  | some node =>
    have known : r.namespaces.Known home := ⟨node, reached⟩
    have stands (entry) : (r.relative home text).found? = some entry ↔
        r.StandsFor home name entry := by
      rw [relative_eq_relativeTo reached spelled]
      exact (sound.means_relativeTo reached).found?_eq_some_iff
    simp [scopeFrom?, Option.map_eq_some_iff, stands, known]

end Sound

/-- **A lookup implements shadowing, and imports behind it.** From a namespace that exists, the walk
outwards ends at the root, the answer is what the name means in the namespace, and the symbol table
gives a scope exactly if one was found. -/
theorem relative_means (h : r.Reachable) (reached : r.namespaces.nodeAt? home = some node)
    (spelled : QualifiedName.pathOf text = name.segments) :
    r.namespaces.Ascends node (r.namespaces.lineage node) ∧
      (∀ result, r.Means home name result ↔ result.Agrees (r.relative home text)) ∧
      ∀ scope, r.symbolTable.scopeFrom? home text = some scope ↔
        ∃ entry, r.relative home text = .found entry ∧ entry.scope = scope := by
  have sound := h.sound
  have means : r.Means home name (r.relative home text) := by
    rw [relative_eq_relativeTo reached spelled]
    exact sound.means_relativeTo reached
  refine ⟨sound.tree.ascends_lineage (sound.tree.lt_size_of_nodeAt? reached), fun result => ?_,
    fun scope => ?_⟩
  · exact ⟨fun means' => means'.agrees means, means.of_agrees⟩
  · change (r.relative home text).found?.map RegisteredScope.scope = some scope ↔ _
    cases r.relative home text <;> simp [Resolution.found?]

section Samples

/-- Two namespaces declare a type with limits. A third one imports both, and itself. -/
def sharedLimits : List Declaration :=
  [.scope ⟨⟨"Limits", ["a"]⟩, .class, []⟩, .scope ⟨⟨"Limits", ["b"]⟩, .class, []⟩,
    .imports ["app"] ["a"], .imports ["app"] ["b"], .imports ["app"] ["app"]]

/-- The type that the first or the second namespace declares. -/
def limitsOf (home : String) : RegisteredScope :=
  ⟨⟨⟨"Limits", [home]⟩, .class, []⟩, []⟩

end Samples

/-- The name of the type is ambiguous in the third namespace, so no scope is found. -/
theorem relative_means_sharedLimits :
    let r := (Registry.empty.performAll sharedLimits).1
    r.namespaces.Ascends 3 [3, 0] ∧
      r.Means ["app"] (.global "Limits") (.ambiguous [limitsOf "a", limitsOf "b"]) ∧
      r.symbolTable.scopeFrom? ["app"] ".Limits" = none := by
  intro r
  have spelled : QualifiedName.pathOf ".Limits" = (QualifiedName.global "Limits").segments := by
    decide
  obtain ⟨walk, means, lookup⟩ := relative_means (r := r)
    (Reachable.empty.performAll sharedLimits) (rfl : r.namespaces.nodeAt? ["app"] = some 3) spelled
  have answer : r.relative ["app"] ".Limits" = .ambiguous [limitsOf "b", limitsOf "a"] := by
    decide
  refine ⟨walk, (means _).2 (answer ▸ .ambiguous (.swap _ _ _)), ?_⟩
  rw [Option.eq_none_iff_forall_ne_some]
  intro scope found
  obtain ⟨entry, found, -⟩ := (lookup scope).1 found
  rw [answer] at found
  cases found

end Lookups

end Registry

end DefaultArgs
