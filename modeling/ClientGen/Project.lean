import ClientGen.Diagnostics.Level
import ClientGen.Naming
import ClientGen.Output.Emitters
import ClientGen.Toml.Reader

/-!
Project settings: what the settings file says, what the command line puts over it, and what comes of
both.
-/

namespace ClientGen

structure ProjectSection where
  source : Option String := none
  output : Option String := none
  basePackage : Option String := none
  format : Option OutputFormat := none
  logLevel : Option String := none

structure ProjectConfig where
  project : ProjectSection := {}
  generator : Settings := {}

structure Overrides where
  source : Option String := none
  output : Option String := none
  basePackage : Option String := none
  format : Option OutputFormat := none

structure ResolvedProject where
  source : String
  output : String
  basePackage : String
  format : OutputFormat
deriving DecidableEq, Repr

inductive ProjectError
  | invalidPackage (package : String)
  | unknownLevel (level : Level.Unknown)
  | invalidIdentifier (key value : String)
  | emptyOverride (schema : String)
  | noSource
  | noPackage

def ProjectError.message : ProjectError → String
  | invalidPackage package => "Invalid base package: " ++ package
  | unknownLevel level => level.message
  | invalidIdentifier key value =>
    "generator." ++ key ++ " is not a valid identifier: '" ++ value ++ "'"
  | emptyOverride schema => "Type override for '" ++ schema ++ "' cannot be empty"
  | noSource => "No API document given (use --source or [project] source)"
  | noPackage => "No base package given (use --package or [project] base_package)"

namespace ProjectConfig

def defaultFile : String := "cgraml.toml"

def isEmptyValue : Toml → Bool
  | .array [] | .tables [] | .table _ [] => true
  | _ => false

def readFormat? : Toml → Option OutputFormat
  | .text name => OutputFormat.ofName? name
  | .table _ [(name, v)] => if isEmptyValue v then OutputFormat.ofName? name else none
  | _ => none

def readSection? (t : Toml) : Option ProjectSection := do
  let fields ← Structured.fields? ["source", "output", "base_package", "format", "log_level"] t
  let text := Decode.optional? Structured.text? fields
  some {
    source := ← text "source"
    output := ← text "output"
    basePackage := ← text "base_package"
    format := ← Decode.optional? readFormat? fields "format"
    logLevel := ← text "log_level" }

def ofToml? (t : Toml) : Option ProjectConfig := do
  let fields ← Structured.fields? ["project", "generator"] t
  some {
    project := ← Decode.defaulted? readSection? fields "project" {}
    generator := ← Decode.defaulted? Settings.read? fields "generator" {} }

def parse? (text : String) : Option ProjectConfig := (Toml.read? text).bind ofToml?

def level (c : ProjectConfig) : Except ProjectError (Option Level) :=
  match c.project.logLevel with
  | none => .ok none
  | some text =>
    match Level.parse text with
    | .ok l => .ok (some l)
    | .error e => .error (.unknownLevel e)

def checkPackage (package : String) : Except ProjectError Unit :=
  if isPackage package then .ok () else .error (.invalidPackage package)

def identifiers (s : Settings) : List (String × String) :=
  [("api_map_class", s.apiMapClass), ("api_map_accessor", s.apiMapAccessor),
    ("parameters_method", s.parametersMethod), ("invoke_method", s.invokeMethod)]

def checkIdentifiers : List (String × String) → Except ProjectError Unit
  | [] => .ok ()
  | (key, value) :: rest =>
    if isIdentifier value then checkIdentifiers rest else .error (.invalidIdentifier key value)

def checkOverrides : List (String × String) → Except ProjectError Unit
  | [] => .ok ()
  | (schema, target) :: rest =>
    if Text.isBlank target.toList then .error (.emptyOverride schema) else checkOverrides rest

def validate (c : ProjectConfig) : Except ProjectError Unit := do
  if let some package := c.project.basePackage then checkPackage package
  let _ ← c.level
  checkIdentifiers (identifiers c.generator)
  checkOverrides c.generator.typeOverrides

def resolve (c : ProjectConfig) (o : Overrides) : Except ProjectError ResolvedProject := do
  let some source := o.source <|> c.project.source | throw .noSource
  let some basePackage := o.basePackage <|> c.project.basePackage | throw .noPackage
  checkPackage basePackage
  pure {
    source, basePackage
    output := (o.output <|> c.project.output).getD "generated"
    format := (o.format <|> c.project.format).getD .java }

end ProjectConfig

end ClientGen
