import DefaultArgs.QualifiedName

/-!
# Value types

The types of parameters, fields and results: a primitive type, the string type, any other reference
type by its name, or the absence of a value.

## Main definitions

* `Primitive`: the primitive types
* `Primitive.keyword`: the keyword of a type
* `Primitive.boxedName`: the name of the reference type that holds its values
* `Primitive.widensTo a b`: a value of type `a` can stand where type `b` is expected
* `ValueType`: the types
* `ValueType.display`: the written form of a type
* `ValueType.referenceName?`: the name of a reference type
-/

namespace DefaultArgs

/-! ## Primitive types

The eight primitive types of the generated code, with the conversions that need no cast.
-/

/-- A primitive type. -/
inductive Primitive
  | boolean
  | char
  | byte
  | short
  | int
  | long
  | float
  | double
deriving DecidableEq, Repr

namespace Primitive

/-- All primitive types; the numeric ones in widening order. -/
def all : List Primitive :=
  [boolean, char, byte, short, int, long, float, double]

/-- The keyword of the type. -/
def keyword : Primitive → String
  | boolean => "boolean"
  | char => "char"
  | byte => "byte"
  | short => "short"
  | int => "int"
  | long => "long"
  | float => "float"
  | double => "double"

/-- The dotted name of the reference type that holds values of the type. -/
def boxedName : Primitive → String
  | boolean => "java.lang.Boolean"
  | char => "java.lang.Character"
  | byte => "java.lang.Byte"
  | short => "java.lang.Short"
  | int => "java.lang.Integer"
  | long => "java.lang.Long"
  | float => "java.lang.Float"
  | double => "java.lang.Double"

/-- The type holds whole numbers. -/
def isInteger (p : Primitive) : Bool :=
  p = byte || p = short || p = int || p = long

/-- The type holds floating-point numbers. -/
def isFloating (p : Primitive) : Bool :=
  p = float || p = double

/-- The type holds numbers. -/
def isNumeric (p : Primitive) : Bool :=
  p.isInteger || p.isFloating

/-- Literals of the type need a narrowing cast. -/
def isNarrow (p : Primitive) : Bool :=
  p = byte || p = short

/-- The place of a type in the chain of widening conversions. -/
def wideningRank? : Primitive → Option Nat
  | boolean => none
  | byte => some 0
  | char | short => some 1
  | int => some 2
  | long => some 3
  | float => some 4
  | double => some 5

/-- A value of type `a` can stand where type `b` is expected. Nothing but a `char` stands for a
`char`. -/
def widensTo (a b : Primitive) : Bool :=
  a = b || (b ≠ char &&
    match a.wideningRank?, b.wideningRank? with
    | some lower, some upper => lower < upper
    | _, _ => false)

end Primitive

/-! ## All types -/

/-- The type of a parameter, a field or a result. -/
inductive ValueType
  | primitive (kind : Primitive)
  | string
  | nominal (name : QualifiedName)
  | void
deriving DecidableEq, Repr

namespace ValueType

/-- The name of the string type among the reference types. -/
def stringName : QualifiedName := ⟨"String", ["java", "lang"]⟩

/-- The root of the reference types. -/
def objectName : QualifiedName := ⟨"Object", ["java", "lang"]⟩

/-- The written form of a type. -/
def display : ValueType → String
  | primitive kind => kind.keyword
  | string => "String"
  | nominal name => name.display
  | void => "void"

instance : ToString ValueType := ⟨display⟩

/-- The primitive type, if it is one. -/
def primitive? : ValueType → Option Primitive
  | primitive kind => some kind
  | _ => none

/-- The type is primitive. -/
def isPrimitive (ty : ValueType) : Bool :=
  ty.primitive?.isSome

/-- The name of a reference type. -/
def referenceName? : ValueType → Option QualifiedName
  | string => some stringName
  | nominal name => some name
  | primitive _ | void => none

/-- The type is a reference type, so that it has a null value. -/
def isReference (ty : ValueType) : Bool :=
  ty.referenceName?.isSome

/-- The identity of the type. -/
def identity (ty : ValueType) : Identity :=
  Identity.ofName ty.display

end ValueType

end DefaultArgs
