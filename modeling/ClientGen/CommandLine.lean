import ClientGen.Project

/-!
The command line. Arguments are taken from left to right, and the first fault ends the reading.
-/

namespace ClientGen.CommandLine

structure Options where
  source : Option String := none
  output : Option String := none
  package : Option String := none
  format : Option OutputFormat := none
  config : Option String := none
  level : Option Level := none
  strict : Bool := false
  dryRun : Bool := false

inductive Command
  | generate | check
deriving DecidableEq

inductive Request
  | run (command : Command) (options : Options)
  | help
  | version

inductive Fault
  | noCommand
  | unknown (argument : String)
  | noValue (option : String)
  | strayValue (option : String)
  | badValue (option value : String)
  | repeated (option : String)
deriving DecidableEq, Repr

def Fault.message : Fault → String
  | noCommand => "a command is required: generate or check"
  | unknown argument => "unexpected argument '" ++ argument ++ "'"
  | noValue option => "a value is required for '" ++ option ++ "'"
  | strayValue option => "'" ++ option ++ "' takes no value"
  | badValue option value => "invalid value '" ++ value ++ "' for '" ++ option ++ "'"
  | repeated option => "'" ++ option ++ "' cannot be used more than once"

inductive Switch
  | source | output | package | format | config | level | strict | dryRun | help | version
deriving DecidableEq

namespace Switch

def takesValue : Switch → Bool
  | strict | dryRun | help | version => false
  | _ => true

/-- Where a switch is known: before the command if `none`. -/
def isKnown (s : Switch) : Option Command → Bool
  | none => s = level || s = help || s = version
  | some .generate => s ≠ version
  | some .check => s = source || s = package || s = config || s = level || s = help

def ofLong? : String → Option Switch
  | "source" => some source
  | "output" => some output
  | "package" => some package
  | "format" => some format
  | "config" => some config
  | "log-level" => some level
  | "strict" => some strict
  | "dry-run" => some dryRun
  | "help" => some help
  | "version" => some version
  | _ => none

def ofShort? : Char → Option Switch
  | 's' => some source
  | 'o' => some output
  | 'p' => some package
  | 'f' => some format
  | 'c' => some config
  | 'h' => some help
  | 'V' => some version
  | _ => none

end Switch

structure Given where
  switch : Switch
  value : Option String

def given? (c : Option Command) (argument : String) : Option Given :=
  match argument.toList with
  | '-' :: '-' :: rest =>
    let name := rest.takeWhile (· ≠ '=')
    let value := match rest.dropWhile (· ≠ '=') with
      | [] => none
      | _ :: value => some (String.ofList value)
    (Switch.ofLong? (String.ofList name)).bind fun s =>
      if s.isKnown c then some ⟨s, value⟩ else none
  | '-' :: letter :: rest =>
    (Switch.ofShort? letter).bind fun s =>
      if !s.isKnown c then none
      else if rest = [] || !s.takesValue then some ⟨s, none⟩
      else some ⟨s, some (String.ofList (if rest.head? = some '=' then rest.tail else rest))⟩
  | _ => none

def isSwitchLike (argument : String) : Bool :=
  argument.toList.head? = some '-' && argument ≠ "-"

def setOnce {α : Type} (argument : String) (old : Option α) (new : Option α) (value : String) :
    Except Fault (Option α) :=
  if old.isSome then .error (.repeated argument)
  else
    match new with
    | none => .error (.badValue argument value)
    | some _ => .ok new

def Options.set (o : Options) (s : Switch) (argument value : String) : Except Fault Options :=
  match s with
  | .source => do pure { o with source := ← setOnce argument o.source (some value) value }
  | .output => do pure { o with output := ← setOnce argument o.output (some value) value }
  | .package => do pure { o with package := ← setOnce argument o.package (some value) value }
  | .config => do pure { o with config := ← setOnce argument o.config (some value) value }
  | .format => do
    pure { o with format := ← setOnce argument o.format (OutputFormat.ofName? value) value }
  | .level => do
    pure { o with level := ← setOnce argument o.level (Level.parse value).toOption value }
  | .strict | .dryRun | .help | .version => throw (.strayValue argument)

def Options.flag (o : Options) (s : Switch) (argument : String) : Except Fault Options :=
  match s with
  | .strict => if o.strict then throw (.repeated argument) else pure { o with strict := true }
  | .dryRun => if o.dryRun then throw (.repeated argument) else pure { o with dryRun := true }
  | _ => throw (.noValue argument)

/-- After `help` only a command may follow. -/
def helpFor : List String → Except Fault Request
  | [] | ["generate"] | ["check"] | ["help"] => .ok .help
  | argument :: _ => .error (.unknown argument)

/-- The options given before the command, and those given after it, of which a level wins. -/
def finish (c : Option Command) (outer inner : Options) : Except Fault Request :=
  match c with
  | none => .error .noCommand
  | some command => .ok (.run command { inner with level := inner.level <|> outer.level })

def scan (c : Option Command) (outer inner : Options) : List String → Except Fault Request
  | [] => finish c outer inner
  | argument :: rest =>
    if argument = "--" then
      match rest with
      | [] => finish c outer inner
      | stray :: _ => .error (.unknown stray)
    else if isSwitchLike argument then
      match given? c argument with
      | none => .error (.unknown argument)
      | some g =>
        match g.switch, g.value with
        | .help, none => .ok .help
        | .version, none => .ok .version
        | s, some value =>
          match inner.set s argument value with
          | .error e => .error e
          | .ok inner => scan c outer inner rest
        | s, none =>
          if s.takesValue then
            match rest with
            | [] => .error (.noValue argument)
            | value :: rest =>
              if isSwitchLike value then .error (.noValue argument)
              else
                match inner.set s argument value with
                | .error e => .error e
                | .ok inner => scan c outer inner rest
          else
            match inner.flag s argument with
            | .error e => .error e
            | .ok inner => scan c outer inner rest
    else
      match c, argument with
      | none, "generate" => scan (some .generate) inner {} rest
      | none, "check" => scan (some .check) inner {} rest
      | none, "help" => helpFor rest
      | _, _ => .error (.unknown argument)

def parse (arguments : List String) : Except Fault Request := scan none {} {} arguments

end ClientGen.CommandLine
