import DefaultArgs.Hierarchy
import DefaultArgs.ValueType

/-!
# Symbols

What is declared of types and their members, and what resolution asks of it.

## Main definitions

* `Member`: a field or a method
* `Member.isStaticField`, `Member.isStaticFactory`: the members that defaults refer to
* `Scope`: what is declared of a type besides its members
* `SymbolTable`: the questions and their answers
* `SymbolTable.ofLookups`: the table that knows the built-in supertypes only
-/

namespace DefaultArgs

/-! ## Members and scopes

A scope is a declared type that holds members: fields and methods. A default may refer to a static
field, or to a static method that takes no arguments and returns a value.
-/

/-- Who may refer to a member. -/
inductive Visibility
  | «public»
  | «protected»
  | package
  | «private»
deriving DecidableEq, Repr

namespace Visibility

/-- All visibilities. -/
def all : List Visibility := [«public», «protected», package, «private»]

/-- The visibility in words. -/
def display : Visibility → String
  | «public» => "public"
  | «protected» => "protected"
  | package => "package"
  | «private» => "private"

end Visibility

/-- The two kinds of member. -/
inductive MemberKind
  | field
  | method
deriving DecidableEq, Repr

/-- The kind of member in words. -/
def MemberKind.display : MemberKind → String
  | field => "field"
  | method => "method"

/-- A field or a method. -/
structure Member where
  name : String
  kind : MemberKind
  isStatic : Bool
  isFinal : Bool
  /-- How many parameters a method declares. -/
  parameterCount : Nat
  /-- The type of a field, or the result type of a method. -/
  valueType : ValueType
  visibility : Visibility
deriving DecidableEq, Repr

namespace Member

/-- A public static field that is never reassigned. -/
def constant (name : String) (ty : ValueType) : Member :=
  ⟨name, .field, true, true, 0, ty, .public⟩

/-- A public field of the instances. -/
def instanceField (name : String) (ty : ValueType) : Member :=
  ⟨name, .field, false, false, 0, ty, .public⟩

/-- A public static method. -/
def staticMethod (name : String) (parameterCount : Nat) (result : ValueType) : Member :=
  ⟨name, .method, true, false, parameterCount, result, .public⟩

/-- A public method of the instances. -/
def instanceMethod (name : String) (parameterCount : Nat) (result : ValueType) : Member :=
  ⟨name, .method, false, false, parameterCount, result, .public⟩

/-- The same member with another visibility. -/
def withVisibility (m : Member) (visibility : Visibility) : Member :=
  { m with visibility }

/-- The member is private. -/
def isPrivate (m : Member) : Bool :=
  m.visibility = .private

/-- The member is a field. -/
def isField (m : Member) : Bool :=
  m.kind = .field

/-- The member is a method. -/
def isMethod (m : Member) : Bool :=
  m.kind = .method

/-- The member is a static field. -/
def isStaticField (m : Member) : Bool :=
  m.isField && m.isStatic

/-- The member is a static method that takes no arguments and returns a value. -/
def isStaticFactory (m : Member) : Bool :=
  m.isMethod && m.isStatic && m.parameterCount = 0 && m.valueType ≠ .void

/-- The modifiers as a sum of bits: one for static members, two for final ones. -/
def modifierBits (m : Member) : Nat :=
  (if m.isStatic then 1 else 0) + (if m.isFinal then 2 else 0)

end Member

/-- The kinds of scope. -/
inductive ScopeKind
  | «class»
  | record
  | interface
  | enum
deriving DecidableEq, Repr

namespace ScopeKind

/-- All kinds of scope. -/
def all : List ScopeKind := [«class», record, interface, enum]

/-- The kind of scope in words. -/
def display : ScopeKind → String
  | «class» => "class"
  | record => "record"
  | interface => "interface"
  | enum => "enum"

end ScopeKind

/-- What is declared of a type besides its members. -/
structure Scope where
  name : QualifiedName
  kind : ScopeKind
  /-- The direct supertypes, nearest first. -/
  supertypes : List QualifiedName
deriving DecidableEq, Repr

/-! ## Symbol tables

A symbol table answers all questions about declared types that resolution asks. The four lookups
have to be given; the rest can be filled in from them and from the built-in hierarchy.
-/

/-- The answers to all questions about declared types. -/
structure SymbolTable where
  /-- The scope of a dotted name. -/
  scopeAt? : String → Option Scope
  /-- The scope of a dotted name seen from a namespace. -/
  scopeFrom? : List String → String → Option Scope
  /-- The members of a scope in the order of their declaration. -/
  membersOf : QualifiedName → List Member
  /-- The first member of a scope with a given name. -/
  memberOf? : QualifiedName → String → Option Member
  /-- The direct supertypes of a reference type, nearest first. -/
  directSupertypes : QualifiedName → List QualifiedName
  /-- A value of the first type can stand where the second is expected. -/
  isAssignable : ValueType → ValueType → Bool

namespace SymbolTable

/-- The first member with a given name. -/
def firstNamed? (members : List Member) (name : String) : Option Member :=
  members.find? (·.name = name)

/-- The table that finds single members among all members and follows the given hierarchy. -/
def ofLookups (scopeAt? : String → Option Scope)
    (scopeFrom? : List String → String → Option Scope) (membersOf : QualifiedName → List Member)
    (hierarchy : Hierarchy QualifiedName) : SymbolTable where
  scopeAt? := scopeAt?
  scopeFrom? := scopeFrom?
  membersOf := membersOf
  memberOf? owner := firstNamed? (membersOf owner)
  directSupertypes := hierarchy.direct
  isAssignable := hierarchy.isAssignable

end SymbolTable

end DefaultArgs
