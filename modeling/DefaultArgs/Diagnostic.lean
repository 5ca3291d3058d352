import DefaultArgs.Default.Declared

/-!
# Problems and diagnostics

What can go wrong with a target, and how it is reported.

## Main definitions

* `LiteralError`, `ReferenceError`, `StructuralError`, `CompanionWarning`, `BuilderError`,
  `ConfigError`: the causes
* `Problem`: any of them
* `Problem.message p`: the text of a problem
* `Span`: a place in the declarations
* `Diagnostic`: a reported problem
* `Diagnostic.display d`: its line in a report
* `Diagnostic.hasErrors`, `Diagnostic.firstError?`: the errors of a list of diagnostics
-/

namespace DefaultArgs

/-! ## Problems

Everything that can go wrong with a default, by its cause. Each family has one function for the
wording of its messages.
-/

/-- The parts of a list in words. -/
def commaList (parts : List String) : String :=
  ", ".intercalate parts

/-- A text between double quotes. -/
def inQuotes (text : String) : String :=
  "\"" ++ text ++ "\""

/-- A literal that does not fit the type of its parameter. -/
inductive LiteralError
  /-- The text is no value of the type, or is out of its range. -/
  | notParseable (text : String) (ty : ValueType)
  /-- A null value for a type without one. -/
  | nullOnPrimitive (ty : ValueType)
  /-- No text for a type other than the string type. -/
  | emptyNotAllowed (ty : ValueType)
deriving DecidableEq, Repr

/-- The text of a literal error. -/
def LiteralError.message : LiteralError → String
  | notParseable text ty => "cannot parse default " ++ inQuotes text ++ " as " ++ ty.display
  | nullOnPrimitive ty => "default \"null\" is not allowed for primitive type " ++ ty.display
  | emptyNotAllowed ty => "empty default \"\" is only allowed for String, not " ++ ty.display

/-- A member as a reference means it: the reference as written, the member's name and the simple
name of the scope it is sought in. -/
structure MemberUse where
  reference : String
  member : String
  scope : String
deriving DecidableEq, Repr

/-- The end of a message, which quotes the reference. -/
def MemberUse.origin (use : MemberUse) : String :=
  " (referenced as " ++ inQuotes use.reference ++ ")"

/-- A reference that cannot be used as a default. -/
inductive ReferenceError
  | emptyReference
  /-- Nothing follows the last full stop. -/
  | emptyMemberName (reference : String)
  /-- The qualifier names no known scope. -/
  | unknownScope (reference qualifier scope : String)
  | notStatic (use : MemberUse) (kind : ReferenceKind)
  /-- The method declares parameters. -/
  | takesArguments (use : MemberUse) (count : Nat)
  /-- The method returns no value. -/
  | voidReturn (use : MemberUse)
  /-- The value does not fit the type of the parameter. -/
  | typeMismatch (use : MemberUse) (kind : ReferenceKind) (found expected : ValueType)
  /-- The scope has no such member. -/
  | notFound (use : MemberUse) (kind : ReferenceKind) (suggestion : Option String)
      (candidates : List String)
deriving DecidableEq, Repr

namespace ReferenceError

/-- The advice after a member that was not found: a likely spelling, else the usable members, else
what to declare. -/
def hint (kind : ReferenceKind) (suggestion : Option String) (candidates : List String) : String :=
  match suggestion, candidates, kind with
  | some name, _, _ => "did you mean " ++ inQuotes name ++ "?"
  | none, _ :: _, _ => "available: " ++ commaList candidates
  | none, [], .field => "declare a static field with that name"
  | none, [], .factory => "declare a static, zero-argument, non-void method with that name"

/-- The text of a reference error. -/
def message : ReferenceError → String
  | emptyReference => "default reference is empty"
  | emptyMemberName reference =>
    "reference " ++ inQuotes reference ++ " has no member name after the last '.'"
  | unknownScope reference qualifier scope =>
    "cannot resolve type " ++ inQuotes qualifier ++ " in reference " ++ inQuotes reference ++
      " from " ++ scope ++ "; types outside the current namespace must be fully qualified"
  | notStatic use kind =>
    kind.display ++ " " ++ inQuotes use.member ++ " in " ++ use.scope ++ " must be static" ++
      use.origin
  | takesArguments use count =>
    "factory method " ++ inQuotes use.member ++ " in " ++ use.scope ++
      " must take no arguments but takes " ++ toString count ++ use.origin
  | voidReturn use =>
    "factory method " ++ inQuotes use.member ++ " in " ++ use.scope ++ " returns void" ++
      use.origin
  | typeMismatch use kind found expected =>
    kind.display ++ " " ++ inQuotes use.member ++ " in " ++ use.scope ++ " has type " ++
      found.display ++ ", which is not assignable to " ++ expected.display ++ use.origin
  | notFound use kind suggestion candidates =>
    kind.display ++ " " ++ inQuotes use.member ++ " not found in " ++ use.scope ++ use.origin ++
      "; " ++ hint kind suggestion candidates

/-- The reference as written, if the error has one. -/
def reference? : ReferenceError → Option String
  | emptyReference => none
  | emptyMemberName reference | unknownScope reference _ _ => some reference
  | notStatic use _ | takesArguments use _ | voidReturn use | typeMismatch use _ _ _
  | notFound use _ _ _ => some use.reference

/-- The likely spelling of a member that was not found. -/
def suggestion? : ReferenceError → Option String
  | notFound _ _ suggestion _ => suggestion
  | _ => none

end ReferenceError

/-- Where a default is declared. -/
inductive DeclarationSite
  /-- On the parameter itself. -/
  | parameter
  /-- On the record component that the parameter belongs to. -/
  | owner
deriving DecidableEq, Repr

/-- The site in words. -/
def DeclarationSite.display : DeclarationSite → String
  | parameter => "parameter"
  | owner => "record component"

/-- A target whose shape prevents generation. -/
inductive StructuralError
  /-- A parameter without a default follows one with a default, and overloads are wanted. -/
  | nonConsecutiveDefault (target : String) (index : Nat) (name : String)
  /-- Different targets would get builders of one name. -/
  | builderNameConflict (name home : String) (targets : List String)
  /-- Several defaults are declared at one site. -/
  | duplicateDefaultSource (parameter : String) (site : DeclarationSite) (sources : List String)
deriving DecidableEq, Repr

/-- The text of a structural error. -/
def StructuralError.message : StructuralError → String
  | nonConsecutiveDefault target index name =>
    "parameter " ++ inQuotes name ++ " (index " ++ toString index ++ ") of " ++ target ++
      " has no default but follows a defaulted parameter; defaults must run to the end of the " ++
      "list unless named mode is used"
  | builderNameConflict name home targets =>
    "builder name " ++ inQuotes name ++ " in namespace " ++ inQuotes home ++
      " is synthesized by more than one target: " ++ commaList targets
  | duplicateDefaultSource parameter site sources =>
    "parameter " ++ inQuotes parameter ++ " declares " ++ toString sources.length ++
      " defaults on the " ++ site.display ++ ": " ++ commaList sources

/-- A finding about companion defaults that aborts no target. -/
inductive CompanionWarning
  /-- No constructor has a parameter with a companion default. -/
  | noDefaultsFound (target companion : String)
  /-- A companion default belongs to no parameter. -/
  | unmatchedDefault (memberName companion target : String)
  /-- Several companion defaults belong to one parameter. -/
  | ambiguousDefault (parameter companion : String) (contributors : List String) (chosen : String)
deriving DecidableEq, Repr

/-- The text of a companion warning. -/
def CompanionWarning.message : CompanionWarning → String
  | noDefaultsFound target companion =>
    "no defaults in " ++ companion ++ " match any constructor of " ++ target
  | unmatchedDefault memberName companion target =>
    "default " ++ inQuotes memberName ++ " in " ++ companion ++ " matches no parameter of " ++
      target
  | ambiguousDefault parameter companion contributors chosen =>
    "parameter " ++ inQuotes parameter ++ " matches several defaults in " ++ companion ++ " (" ++
      commaList contributors ++ "); using " ++ inQuotes chosen

/-- A failure when a builder is finished. -/
inductive BuilderError
  | requiredFieldUnset (name : String)
deriving DecidableEq, Repr

/-- The text of a builder error. -/
def BuilderError.message : BuilderError → String
  | requiredFieldUnset name => "required field " ++ inQuotes name ++ " was not set"

/-- A malformed generator option. -/
inductive ConfigError
  | unknownOption (key : String)
  /-- The value is not of the form that its key expects. -/
  | invalidValue (key value expected : String)
deriving DecidableEq, Repr

/-- The text of a configuration error. -/
def ConfigError.message : ConfigError → String
  | unknownOption key => "unknown option " ++ inQuotes key
  | invalidValue key value expected =>
    "option " ++ inQuotes key ++ " expects " ++ expected ++ ", got " ++ inQuotes value

/-- Anything that can go wrong with a default. -/
inductive Problem
  | literal (error : LiteralError)
  | reference (error : ReferenceError)
  | structural (error : StructuralError)
  | companion (warning : CompanionWarning)
  | builder (error : BuilderError)
  | config (error : ConfigError)
deriving DecidableEq, Repr

namespace Problem

/-- The text of a problem. -/
def message : Problem → String
  | literal error => error.message
  | reference error => error.message
  | structural error => error.message
  | companion warning => warning.message
  | builder error => error.message
  | config error => error.message

end Problem

/-! ## Diagnostics

A diagnostic reports a problem with a target, where known with the parameter and the place of its
declaration. Errors abort their target and warnings do not.
-/

/-- A place in a source text: a line and a column, counted from one, and a length. Line zero means
that the place is not known. -/
structure Span where
  line : Nat
  column : Nat
  length : Nat
deriving DecidableEq, Repr

namespace Span

/-- The place that is not known. -/
def unknown : Span := ⟨0, 0, 0⟩

/-- The place between two characters. -/
def point (line column : Nat) : Span := ⟨line, column, 0⟩

/-- The place has no length. -/
def isEmpty (s : Span) : Bool :=
  s.length = 0

/-- The place is known. -/
def isKnown (s : Span) : Bool :=
  s.line ≠ 0

/-- The start of the place. -/
def display (s : Span) : String :=
  toString s.line ++ ":" ++ toString s.column

end Span

/-- Whether a problem aborts its target. -/
inductive Severity
  | warning
  | error
deriving DecidableEq, Repr

/-- The severity in words. -/
def Severity.display : Severity → String
  | warning => "warning"
  | error => "error"

/-- A reported problem. -/
structure Diagnostic where
  severity : Severity
  /-- The written form of the target. -/
  target : String
  parameter : Option String
  span : Span
  problem : Problem
deriving DecidableEq, Repr

namespace Diagnostic

/-- A problem that aborts its target. -/
def error (target : String) (problem : Problem) : Diagnostic :=
  ⟨.error, target, none, .unknown, problem⟩

/-- A problem that does not abort its target. -/
def warning (target : String) (problem : Problem) : Diagnostic :=
  ⟨.warning, target, none, .unknown, problem⟩

/-- A problem of one parameter that aborts the target. -/
def errorAt (target parameter : String) (span : Span) (problem : Problem) : Diagnostic :=
  ⟨.error, target, some parameter, span, problem⟩

/-- A problem of one parameter that does not abort the target. -/
def warningAt (target parameter : String) (problem : Problem) : Diagnostic :=
  ⟨.warning, target, some parameter, .unknown, problem⟩

/-- The diagnostic aborts its target. -/
def isError (d : Diagnostic) : Bool :=
  d.severity = .error

/-- The line of the diagnostic in a report. -/
def display (d : Diagnostic) : String :=
  d.severity.display ++ ": " ++ d.target ++
    (match d.parameter with
      | some parameter => ", parameter " ++ inQuotes parameter
      | none => "") ++
    (if d.span.isKnown then " at " ++ d.span.display else "") ++
    ": " ++ d.problem.message

/-- Some diagnostic of the list aborts its target. -/
def hasErrors (ds : List Diagnostic) : Bool :=
  ds.any isError

/-- The first diagnostic of the list that aborts its target. -/
def firstError? (ds : List Diagnostic) : Option Diagnostic :=
  ds.find? isError

/-- The lines of a list of diagnostics. -/
def report (ds : List Diagnostic) : String :=
  "\n".intercalate (ds.map display)

end Diagnostic

end DefaultArgs
