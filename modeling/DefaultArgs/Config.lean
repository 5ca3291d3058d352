import DefaultArgs.Diagnostic
import DefaultArgs.QualifiedName
import DefaultArgs.Text.Classes
import DefaultArgs.Text.Segments

/-!
# Configuration

The settings of a run have values of their own, which options replace.

## Main definitions

* `Config`: the settings of a run, with their defaults
* `isIdentifier text`, `isDottedName text`: the forms of names
* `Config.set config key value`: a setting changed by one pair
* `Config.ofOptions pairs`: the settings that all pairs describe
-/

namespace DefaultArgs

/-! ## Settings -/

/-- The settings of a run. -/
structure Config where
  /-- The method that starts a builder, unless the target names its own. -/
  entryPoint : String := "create"
  /-- The end of the names of builders. -/
  builderSuffix : String := "Builder"
  /-- The scope for generated code of types that cannot be annotated. -/
  utilityScope : QualifiedName := .global "Defaults"
  /-- Targets may be processed at the same time. No result depends on it. -/
  parallel : Bool := false
  /-- Companion defaults that belong to no parameter are warned of. -/
  warnUnmatched : Bool := true
deriving DecidableEq, Repr

/-! ## Options

Settings are given as pairs of a key and a value. Keys of other programs are ignored, white space
around values is dropped, and a later pair replaces an earlier one. An unknown key and a value that
is not of the form that its key expects are errors.
-/

/-- The start of the keys that are meant for the generator. -/
def optionPrefix : String := "defaultgen."

/-- The character can stand anywhere in an identifier. -/
def isIdentifierStart (c : Char) : Bool :=
  Text.isAlphabetic c || c = '_' || c = '$'

/-- The character can stand in an identifier after its first character. -/
def isIdentifierPart (c : Char) : Bool :=
  isIdentifierStart c || Text.isNumeric c

/-- The text is an identifier: a letter, an underscore or a dollar sign, followed by any count of
these and of numbers. -/
def isIdentifier (text : String) : Bool :=
  match text.toList with
  | [] => false
  | first :: rest => isIdentifierStart first && rest.all isIdentifierPart

/-- The text consists of identifiers with full stops between them. -/
def isDottedName (text : String) : Bool :=
  (Text.splitDots text).all isIdentifier

/-- The truth value that a text spells. -/
def readFlag? (text : String) : Option Bool :=
  if text = "true" then some true else if text = "false" then some false else none

/-- The identifier that a text is. -/
def readIdentifier? (text : String) : Option String :=
  if isIdentifier text then some text else none

/-- The qualified name that a text spells in full. -/
def readDottedName? (text : String) : Option QualifiedName :=
  if isDottedName text then some (.parse text) else none

namespace Config

/-- The value that an option reads, or the error that names what is expected instead. -/
def expect {α : Type} (read? : String → Option α) (expected key value : String) :
    Except ConfigError α :=
  match read? value with
  | some a => .ok a
  | none => .error (.invalidValue key value expected)

/-- The settings changed by one option. The key is given in full and without the start that marks
it as meant for the generator. -/
def setOption (config : Config) (key option value : String) : Except ConfigError Config :=
  match option with
  | "entryPoint" =>
    (expect readIdentifier? "an identifier" key value).map ({ config with entryPoint := · })
  | "builderSuffix" =>
    (expect readIdentifier? "an identifier" key value).map ({ config with builderSuffix := · })
  | "utilityNamespace" =>
    (expect readDottedName? "a dotted name" key value).map ({ config with utilityScope := · })
  | "parallel" =>
    (expect readFlag? "true or false" key value).map ({ config with parallel := · })
  | "warnUnmatched" =>
    (expect readFlag? "true or false" key value).map ({ config with warnUnmatched := · })
  | _ => .error (.unknownOption key)

/-- The settings changed by one pair of a key and a value. -/
def set (config : Config) (pair : String × String) : Except ConfigError Config :=
  match Text.after? optionPrefix.toList pair.1.toList with
  | none => .ok config
  | some option => config.setOption pair.1 (String.ofList option) (Text.trim pair.2)

/-- The settings that pairs of keys and values describe, applied in order. -/
def ofOptions (pairs : List (String × String)) : Except ConfigError Config :=
  pairs.foldlM set {}

end Config

end DefaultArgs
