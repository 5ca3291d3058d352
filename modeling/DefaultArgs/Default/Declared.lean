import DefaultArgs.Decimal.Layout
import DefaultArgs.QualifiedName
import DefaultArgs.Symbol
import DefaultArgs.Text.Escape
import DefaultArgs.ValueType

/-!
# Defaults

A default is declared as text and stands for an expression, which may be a literal.

## Main definitions

* `Literal`: the constant values
* `Literal.text v`: the literal without any cast
* `Literal.render v`: the literal as an expression, with the cast that it needs
* `Expression`: the expressions
* `Expression.render e`: the written form
* `ReferenceKind`: the two kinds of member that a reference can mean
* `DeclaredDefault`: a default as it is declared
-/

namespace DefaultArgs

/-! ## Literals

A literal is a constant value of a type, and is written as a literal of the generated code. Long
and float literals carry a marker at their end; byte and short literals are written like int
literals and need a cast where they are used.
-/

/-- A constant value. -/
inductive Literal
  | null
  | boolean (value : Bool)
  /-- The text between the quotes of a character literal, which is kept whole. -/
  | char (text : String)
  | byte (value : Int8)
  | short (value : Int16)
  | int (value : Int32)
  | long (value : Int64)
  | float (value : Floating .single)
  | double (value : Floating .double)
  | string (text : String)
  /-- Text for a reference type without literals, written as it is. -/
  | verbatim (text : String)
deriving DecidableEq

namespace Literal

/-- The primitive type of the value, if it has one. -/
def primitive? : Literal → Option Primitive
  | boolean _ => some .boolean
  | char _ => some .char
  | byte _ => some .byte
  | short _ => some .short
  | int _ => some .int
  | long _ => some .long
  | float _ => some .float
  | double _ => some .double
  | null | string _ | verbatim _ => none

/-- The literal without any cast. -/
def text : Literal → String
  | null => "null"
  | boolean value => if value then "true" else "false"
  | char text => Text.quoted '\'' text
  | byte value => toString value.toInt
  | short value => toString value.toInt
  | int value => toString value.toInt
  | long value => toString value.toInt ++ "L"
  | float value => value.text ++ "F"
  | double value => value.text
  | string text => Text.quoted '"' text
  | verbatim text => text

/-- The literal as an expression: byte and short literals need a cast. -/
def render (v : Literal) : String :=
  match v.primitive? with
  | some kind => if kind.isNarrow then "(" ++ kind.keyword ++ ") " ++ v.text else v.text
  | none => v.text

end Literal

/-! ## Expressions

The default of a parameter is an expression: a literal, a static field given by its path, or a call
without arguments of a static method given by its path.
-/

/-- An expression that stands for an argument that is left out. -/
inductive Expression
  | literal (value : Literal)
  | field (path : QualifiedName)
  | factory (path : QualifiedName)
deriving DecidableEq

namespace Expression

/-- The written form of an expression. -/
def render : Expression → String
  | literal value => value.render
  | field path => path.display
  | factory path => path.display ++ "()"

/-- The value of a literal expression. -/
def literal? : Expression → Option Literal
  | literal value => some value
  | field _ | factory _ => none

end Expression

/-! ## Declared defaults

A default is declared as text: the text of a literal, or a reference to a static field or to a
static factory method.
-/

/-- The kind of member that a reference means. -/
inductive ReferenceKind
  | field
  | factory
deriving DecidableEq, Repr

namespace ReferenceKind

/-- The kind in words. -/
def display : ReferenceKind → String
  | field => "field"
  | factory => "factory method"

/-- The member is of the kind, whatever its modifiers and its type. -/
def fits (kind : ReferenceKind) (m : Member) : Bool :=
  match kind with
  | field => m.isField
  | factory => m.isMethod

/-- The member can be referred to by a default of the kind. -/
def usable (kind : ReferenceKind) (m : Member) : Bool :=
  match kind with
  | field => m.isStaticField
  | factory => m.isStaticFactory

/-- The expression for a member at a path. -/
def expression (kind : ReferenceKind) (path : QualifiedName) : Expression :=
  match kind with
  | field => .field path
  | factory => .factory path

end ReferenceKind

/-- A default as it is declared. -/
inductive DeclaredDefault
  | literal (text : String)
  | field (text : String)
  | factory (text : String)
deriving DecidableEq, Repr

namespace DeclaredDefault

/-- The declared text. -/
def text : DeclaredDefault → String
  | literal text | field text | factory text => text

/-- The kind of member that is referred to; none for a literal. -/
def referenceKind? : DeclaredDefault → Option ReferenceKind
  | literal _ => none
  | field _ => some .field
  | factory _ => some .factory

/-- The word for the source. -/
def kindName : DeclaredDefault → String
  | literal _ => "literal"
  | field _ => "field"
  | factory _ => "factory"

/-- The source as it is named in messages. -/
def display (source : DeclaredDefault) : String :=
  source.kindName ++ " \"" ++ source.text ++ "\""

end DeclaredDefault

end DefaultArgs
