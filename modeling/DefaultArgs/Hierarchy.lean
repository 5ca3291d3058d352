import DefaultArgs.ValueType

/-!
# Hierarchies of types

A hierarchy gives the direct supertypes of every name. The other supertypes are found from them, and
all of them decide which values stand where a type is expected.

## Main definitions

* `Hierarchy α`: a relation between a name and its direct supertypes, of which there are finitely
  many
* `Hierarchy.closure h a`: all supertypes of `a`, nearest first
* `builtinTable`: the built-in supertypes by dotted name
* `builtinSupertypes q`: the direct supertypes of `q` in the table
* `Hierarchy.builtin`: the hierarchy of the built-in supertypes
* `Hierarchy.isSubtype h a b`: the reference type `a` stands for the reference type `b`
* `Hierarchy.isAssignable h s t`: a value of type `s` stands where type `t` is expected
-/

namespace DefaultArgs

/-! ## Walking a hierarchy

The supertypes of a name are collected breadth first: the direct supertypes in order, then theirs,
and so on. The name itself is left out, and a name that is reached again is skipped, so cycles end
the walk. It ends because only the finitely many names that occur as supertypes can be added.
-/

section Walking

variable {α : Type}

/-- The direct supertypes of every name, together with a finite list that holds all of them. -/
structure Hierarchy (α : Type) where
  /-- The direct supertypes of a name, nearest first. -/
  direct : α → List α
  /-- Every name that occurs as a direct supertype. -/
  names : List α
  mem_names : ∀ a, ∀ b ∈ direct a, b ∈ names

namespace Hierarchy

variable [DecidableEq α]

/-- The names that occur as supertypes and were not visited yet. -/
def unvisited (h : Hierarchy α) (visited : List α) : List α :=
  h.names.filter (· ∉ visited)

theorem length_unvisited_lt (h : Hierarchy α) {visited : List α} {a : α} (mem : a ∈ h.names)
    (new : a ∉ visited) : (h.unvisited (a :: visited)).length < (h.unvisited visited).length := by
  have fewer : h.unvisited (a :: visited) = (h.unvisited visited).filter (· ≠ a) := by
    simp [unvisited, List.filter_filter]
  rw [fewer]
  refine List.length_filter_lt_length_iff_exists.2 ⟨a, ?_, by simp⟩
  simp [unvisited, mem, new]

/-- Visit the queued names in order and queue the supertypes of each new one behind them. The
result lists the newly visited names. -/
def walk (h : Hierarchy α) (start : α) (visited : List α) (queue : List α)
    (known : ∀ a ∈ queue, a ∈ h.names) : List α :=
  match queue with
  | [] => []
  | next :: rest =>
    if next = start ∨ next ∈ visited then
      walk h start visited rest fun a mem => known a (List.mem_cons_of_mem _ mem)
    else
      next :: walk h start (next :: visited) (rest ++ h.direct next) fun a mem =>
        (List.mem_append.1 mem).elim (fun old => known a (List.mem_cons_of_mem _ old))
          (h.mem_names next a)
termination_by ((h.unvisited visited).length, queue.length)
decreasing_by
  · exact Prod.Lex.right _ (by simp)
  · exact Prod.Lex.left _ _
      (h.length_unvisited_lt (known next List.mem_cons_self) fun old =>
        ‹¬(next = start ∨ next ∈ visited)› (Or.inr old))

/-- All supertypes of a name other than itself, nearest first. -/
def closure (h : Hierarchy α) (a : α) : List α :=
  h.walk a [] (h.direct a) (h.mem_names a)

/-- The hierarchy in which a name has the supertypes of its first entry, and none without an
entry. -/
def ofEntries (entries : List (α × List α)) : Hierarchy α where
  direct a := (entries.lookup a).getD []
  names := entries.flatMap Prod.snd
  mem_names a b mem := by
    cases found : entries.lookup a with
    | none => simp [found] at mem
    | some supers =>
      rw [found] at mem
      obtain ⟨before, after, rfl, -⟩ := List.lookup_eq_some_iff.1 found
      simp only [List.flatMap_append, List.flatMap_cons, List.mem_append]
      exact Or.inr (Or.inl mem)

end Hierarchy

end Walking

/-! ## The built-in hierarchy

The supertypes of the string type and of the boxed primitive types are known without being
declared. They are found by the dotted form of the name.
-/

/-- The direct supertypes of the built-in types, by dotted name. -/
def builtinTable : List (String × List String) :=
  let number := ["java.lang.Number", "java.lang.Comparable"]
  let plain := ["java.lang.Comparable", "java.io.Serializable"]
  [("java.lang.String", ["java.lang.CharSequence", "java.lang.Comparable", "java.io.Serializable"]),
   ("java.lang.Byte", number), ("java.lang.Short", number), ("java.lang.Integer", number),
   ("java.lang.Long", number), ("java.lang.Float", number), ("java.lang.Double", number),
   ("java.lang.Number", ["java.io.Serializable"]),
   ("java.lang.Boolean", plain), ("java.lang.Character", plain)]

/-- The names that occur as built-in supertypes. -/
def builtinNames : List QualifiedName :=
  (builtinTable.flatMap Prod.snd).map QualifiedName.parse

/-- The direct supertypes that are known without being declared. -/
def builtinSupertypes (q : QualifiedName) : List QualifiedName :=
  ((builtinTable.lookup q.display).getD []).map QualifiedName.parse

theorem mem_builtinNames_of_mem {q s : QualifiedName} (h : s ∈ builtinSupertypes q) :
    s ∈ builtinNames := by
  unfold builtinSupertypes at h
  cases found : builtinTable.lookup q.display with
  | none => simp [found] at h
  | some supers =>
    rw [found] at h
    obtain ⟨text, mem, rfl⟩ := List.mem_map.1 h
    obtain ⟨before, after, split, -⟩ := List.lookup_eq_some_iff.1 found
    refine List.mem_map.2 ⟨text, List.mem_flatMap.2 ⟨(q.display, supers), ?_, mem⟩, rfl⟩
    rw [split]
    simp

/-! ## Assignability

A value of one type can stand where another is expected if the types are primitive and the first
widens to the second, or if the second is a reference type that the first, boxed if it is
primitive, has among its supertypes. Every reference type stands for the root of the reference
types, and the absence of a value stands for nothing.
-/

namespace Hierarchy

/-- The hierarchy in which only the built-in supertypes are known. -/
def builtin : Hierarchy QualifiedName where
  direct := builtinSupertypes
  names := builtinNames
  mem_names _ _ := mem_builtinNames_of_mem

/-- The first reference type stands for the second: they are the same, or the second is the root
or a supertype of the first. -/
def isSubtype (h : Hierarchy QualifiedName) (a b : QualifiedName) : Bool :=
  a = b || b = ValueType.objectName || b ∈ h.closure a

/-- A value of the first type can stand where the second is expected. -/
def isAssignable (h : Hierarchy QualifiedName) (found expected : ValueType) : Bool :=
  match found, expected with
  | .primitive a, .primitive b => a.widensTo b
  | .primitive a, _ =>
    expected.referenceName?.any (h.isSubtype (QualifiedName.parse a.boxedName))
  | _, _ =>
    match found.referenceName?, expected.referenceName? with
    | some a, some b => h.isSubtype a b
    | _, _ => false

end Hierarchy

end DefaultArgs
