import DefaultArgs.Proofs.Companion.Filling
import DefaultArgs.Proofs.Companion.Naming
import DefaultArgs.Proofs.Listing
import Mathlib.Data.Finset.Card

/-!
# Collecting the defaults of a companion

Defaults are collected by their keys. Whatever is inserted, and in which order, the keys are listed
in the order of their first default, and under every key are its defaults in their order. So nothing
is lost, and nothing is listed twice.

The collection can also be kept as an index, from keys to their defaults, with a separate list of
the keys. The list has to grow exactly when a key is new to the index. `CompanionIndex.InStep` is
the invariant of this: every insertion keeps the two in step.

## Main definitions

* `CompanionIndex`: an index of defaults with a separate list of its keys
* `CompanionIndex.InStep index ds`: the index and its keys are those of the collection
* `CompanionDefaults.Collects ds defaults`: what a collection is in terms of what was inserted

## Main results

* `CompanionIndex.InStep.insert`, `CompanionIndex.inStep_ofList`: an insertion, and all of them
* `collects_ofList`: the collection of any defaults
* `SymbolTable.oneForEach_contributors`: the defaults of a companion for a key
* `SymbolTable.companionDefaults_exact`: the defaults of a companion
-/

namespace DefaultArgs

variable {ds : CompanionDefaults} {d : CompanionDefault} {key : String}
  {defaults : List CompanionDefault} {companion : QualifiedName}

namespace CompanionDefaults

section Collection

/-- **The collection of some defaults.** Its keys are the keys of the defaults, each once and in the
order of their first occurrence. The contributions to a key are the defaults with this key, and the
last one is bound. All contributions together are the defaults, each as often as it was inserted. -/
structure Collects (ds : CompanionDefaults) (defaults : List CompanionDefault) : Prop where
  keys_eq : ds.keys = (defaults.map (·.key)).eraseDups
  nodup_keys : ds.keys.Nodup
  size_eq : ds.size = (defaults.map (·.key)).toFinset.card
  contains_iff : ∀ key, ds.contains key ↔ ∃ d ∈ defaults, d.key = key
  contributors_eq : ∀ key, ds.contributors key = defaults.filter (·.key = key)
  get?_eq : ∀ key, ds.get? key = (defaults.filter (·.key = key)).getLast?
  isAmbiguous_iff : ∀ key, ds.isAmbiguous key ↔ 2 ≤ defaults.countP (·.key = key)
  contributions_perm : (ds.keys.flatMap ds.contributors).Perm defaults

theorem nodup_keys_ofList (companion : QualifiedName) (defaults : List CompanionDefault) :
    (ofList companion defaults).keys.Nodup := by
  rw [keys_ofList]
  exact nodup_eraseDups _

/-- **Collecting keeps everything**, whatever is inserted. -/
theorem collects_ofList (companion : QualifiedName) (defaults : List CompanionDefault) :
    (ofList companion defaults).Collects defaults := by
  have contributors := fun key => @contributors_ofList key companion defaults
  constructor
  case keys_eq => exact keys_ofList companion defaults
  case nodup_keys => exact nodup_keys_ofList companion defaults
  case contains_iff => exact fun key => contains_iff_mem_keys.trans mem_keys_ofList
  case contributors_eq => exact contributors
  case size_eq =>
    rw [size, ← List.toFinset_card_of_nodup (nodup_keys_ofList companion defaults)]
    congr 1
    refine Finset.ext fun key => ?_
    rw [List.mem_toFinset, List.mem_toFinset, keys_ofList, List.mem_eraseDups]
  case get?_eq =>
    intro key
    rw [get?, contributors]
  case isAmbiguous_iff =>
    intro key
    rw [isAmbiguous, contributors, decide_eq_true_eq, List.countP_eq_length_filter]
    rfl
  case contributions_perm =>
    rw [funext contributors]
    refine flatMap_filter_perm _ (nodup_keys_ofList companion defaults) fun d mem => ?_
    exact mem_keys_ofList.2 ⟨d, mem, rfl⟩

end Collection

end CompanionDefaults

section Index

/-- An index of defaults: what was collected for a key, and apart from this the keys. -/
structure CompanionIndex where
  entries : String → Option (List CompanionDefault)
  order : List String

namespace CompanionIndex

def empty : CompanionIndex :=
  ⟨fun _ => none, []⟩

/-- Add a default to the entry of its key, which is made if there is none. The key is listed if
nothing was in the entry. -/
def insert (index : CompanionIndex) (d : CompanionDefault) : CompanionIndex :=
  let entry := (index.entries d.key).getD []
  { entries := Function.update index.entries d.key (some (entry ++ [d]))
    order := if entry = [] then index.order ++ [d.key] else index.order }

def ofList (defaults : List CompanionDefault) : CompanionIndex :=
  defaults.foldl insert empty

/-- **The index and the list of its keys are in step**: both are those of the collection, and no
entry is empty. -/
structure InStep (index : CompanionIndex) (ds : CompanionDefaults) : Prop where
  entries_eq : ∀ key, index.entries key = ds.groups.lookup key
  order_eq : index.order = ds.keys
  entries_ne : ∀ key, index.entries key ≠ some []

variable {index : CompanionIndex}

theorem entries_insert : (index.insert d).entries key =
    if key = d.key then some ((index.entries d.key).getD [] ++ [d]) else index.entries key :=
  Function.update_apply _ _ _ _

theorem order_insert : (index.insert d).order =
    if (index.entries d.key).getD [] = [] then index.order ++ [d.key] else index.order := rfl

/-- A key is listed if the index has a default for it. -/
theorem InStep.mem_keys_iff (inStep : index.InStep ds) :
    key ∈ ds.keys ↔ (index.entries key).getD [] ≠ [] := by
  rw [← CompanionDefaults.contains_iff_mem_keys, CompanionDefaults.contains, ← inStep.entries_eq]
  have filled := inStep.entries_ne key
  cases found : index.entries key with
  | none => simp
  | some entry =>
    rw [found] at filled
    simpa using filled

/-- An insertion keeps the index and its keys in step. No entry is empty, so a key without defaults
is a new one. -/
theorem InStep.insert (inStep : index.InStep ds) (d : CompanionDefault) :
    (index.insert d).InStep (ds.insert d) := by
  constructor
  case entries_eq =>
    intro key
    rw [entries_insert, inStep.entries_eq, inStep.entries_eq]
    exact (CompanionDefaults.lookup_insertInto d ds.groups key).symm
  case order_eq =>
    rw [order_insert, CompanionDefaults.keys_insert, inStep.order_eq]
    by_cases new : (index.entries d.key).getD [] = []
    · rw [if_pos new, if_neg (mt inStep.mem_keys_iff.1 (not_not_intro new))]
    · rw [if_neg new, if_pos (inStep.mem_keys_iff.2 new)]
  case entries_ne =>
    intro key
    rw [entries_insert]
    split
    · simp
    · exact inStep.entries_ne key

theorem InStep.foldl (inStep : index.InStep ds) (defaults : List CompanionDefault) :
    (defaults.foldl CompanionIndex.insert index).InStep
      (defaults.foldl CompanionDefaults.insert ds) := by
  induction defaults generalizing index ds with
  | nil => exact inStep
  | cons d rest ih => exact ih (inStep.insert d)

/-- **The index and its keys stay in step** in any sequence of insertions. -/
theorem inStep_ofList (companion : QualifiedName) (defaults : List CompanionDefault) :
    (ofList defaults).InStep (CompanionDefaults.ofList companion defaults) :=
  InStep.foldl ⟨fun _ => rfl, rfl, fun _ => (Option.some_ne_none []).symm⟩ defaults

end CompanionIndex

end Index

namespace SymbolTable

/-- **The defaults of a companion for a key** are those that its members serve as, for each such
member that is not private, in the order of the members. -/
theorem oneForEach_contributors (table : SymbolTable) (companion : QualifiedName) (key : String) :
    OneForEach (fun m d => m.visibility ≠ .private ∧ m.Serves companion key d)
      (table.membersOf companion) ((table.companionDefaults companion).contributors key) := by
  rw [companionDefaults, CompanionDefaults.contributors_ofList, List.filter_filterMap,
    List.filterMap_filter]
  refine OneForEach.filterMap fun m _ d => ?_
  rw [← Member.toDefault?_eq_some_iff, Member.isPrivate]
  by_cases hidden : m.visibility = .private
  · simp [hidden]
  · simp [hidden, Option.filter_eq_some_iff]

/-- **The defaults of a companion are exact.** Each key has the defaults that its visible members
serve as. Whatever is collected, the collection has it all under its keys, and so has an index with
a separate list of keys. And the test of a name by its bytes cuts no character. -/
theorem companionDefaults_exact (table : SymbolTable) (companion : QualifiedName) :
    (∀ key, OneForEach (fun m d => m.visibility ≠ .private ∧ m.Serves companion key d)
      (table.membersOf companion) ((table.companionDefaults companion).contributors key)) ∧
    (∀ defaults, (CompanionDefaults.ofList companion defaults).Collects defaults ∧
      (CompanionIndex.ofList defaults).InStep (CompanionDefaults.ofList companion defaults)) ∧
    ∀ name, fieldStemByBytes? name = some (fieldStem? name) :=
  ⟨oneForEach_contributors table companion,
    fun defaults => ⟨CompanionDefaults.collects_ofList companion defaults,
      CompanionIndex.inStep_ofList companion defaults⟩,
    fieldStemByBytes?_eq⟩

end SymbolTable

end DefaultArgs
