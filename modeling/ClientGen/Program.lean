import ClientGen.CommandLine
import ClientGen.Diagnostics.ConsoleLine
import ClientGen.Text.Quoted

/-!
The commands of the program, over any file system.
-/

namespace ClientGen

inductive RunError
  | configUnreadable (path : String) (fault : IoFault)
  | configMalformed
  | project (error : ProjectError)
  /-- The settings file as a whole is refused. -/
  | invalidProject (error : ProjectError)
  | documentUnreadable (path : String) (fault : IoFault)
  | documentMalformed (path : String)
  | document (error : DocumentError)
  | strict (failures : Nat)

def RunError.chain : RunError → List Link
  | configUnreadable path fault =>
    [.text ("Failed to read config: " ++ Text.quoted path), .text fault.message]
  | configMalformed => [.text "Failed to parse config", .toml]
  | project error => [.text error.message]
  | invalidProject error => [.text "Invalid project configuration", .text error.message]
  | documentUnreadable path fault =>
    [.text ("Failed to read API document: " ++ Text.quoted path), .text fault.message]
  | documentMalformed path =>
    [.text ("Invalid API document: " ++ Text.quoted path), .text "Failed to parse API document",
      .json]
  | document error => error.chain
  | strict failures =>
    [.text (toString failures ++ " class(es) failed to generate (strict mode)")]

structure Report (α : Type) where
  lines : List String := []
  events : List Event := []
  result : Except RunError α

namespace Program

variable {m : Type → Type} [Monad m] [Files m]

def loadConfigFrom (path : String) : m (Except RunError ProjectConfig) := do
  match ← Files.read path with
  | .error fault => pure (.error (.configUnreadable path fault))
  | .ok bytes =>
    match String.fromUTF8? bytes with
    | none => pure (.error (.configUnreadable path .notUtf8))
    | some text => pure (((ProjectConfig.parse? text).map .ok).getD (.error .configMalformed))

def loadConfig (path : Option String) : m (Except RunError ProjectConfig) := do
  match path with
  | some path => loadConfigFrom path
  | none =>
    if ← Files.isPresent (m := m) ProjectConfig.defaultFile then
      loadConfigFrom ProjectConfig.defaultFile
    else pure (.ok {})

def loadDocument (path : String) : m (Except RunError Document) := do
  match ← Files.read path with
  | .error fault => pure (.error (.documentUnreadable path fault))
  | .ok bytes =>
    pure (((Document.read? bytes.data.toList).map .ok).getD (.error (.documentMalformed path)))

def starting (p : ResolvedProject) : Event :=
  ⟨.info, Target.generation,
    "Generating " ++ p.format.name ++ " classes from " ++ p.source ++ " into " ++ p.output⟩

def generate (p : ResolvedProject) (settings : Settings) (strict dryRun : Bool)
    (collector : Collector) : m (Report Summary) := do
  match ← loadDocument p.source with
  | .error e => pure { result := .error e }
  | .ok document =>
    match LoadedDocument.load document settings p.basePackage with
    | (events, .error e) => pure { events, result := .error (.document e) }
    | (events, .ok loaded) => do
      let progress ←
        if dryRun then
          pure ((Generation.generateAll loaded settings p.basePackage Emitter.collecting).run []).1
        else
          Generation.generateAll loaded settings p.basePackage (Emitter.ofFormat p.format p.output)
      let events := events ++ [starting p] ++ progress.events
      let summary := progress.summary
      let (diagnostics, _) := (collector.recordAll events).drain
      pure {
        events
        lines := Generation.reportLines summary dryRun diagnostics
        result :=
          if strict && !summary.isClean then .error (.strict summary.failed.length)
          else .ok summary }

def checkLines (l : LoadedDocument) : List String :=
  let d := l.document
  let n := l.inventory
  (d.title.map ("✓ Title: " ++ ·)).toList ++ (d.baseUri.map ("✓ Base URI: " ++ ·)).toList ++
    ["✓ Schemas: " ++ toString n.schemas,
      "✓ Resources: " ++ toString n.resources,
      "✓ Parameters classes: " ++ toString n.parametersClasses,
      "✓ Linked-data relations: " ++ toString n.relations,
      "",
      "API document is valid!"]

def check (p : ResolvedProject) (settings : Settings) : m (Report Unit) := do
  let opening := "Checking API document: " ++ p.source
  match ← loadDocument p.source with
  | .error e => pure { lines := [opening], result := .error e }
  | .ok document =>
    match LoadedDocument.load document settings p.basePackage with
    | (events, .error e) => pure { lines := [opening], events, result := .error (.document e) }
    | (events, .ok loaded) =>
      pure { lines := opening :: checkLines loaded, events, result := .ok () }

def overrides (o : CommandLine.Options) : Overrides :=
  { source := o.source, output := o.output, basePackage := o.package, format := o.format }

structure Execution where
  lines : List String := []
  log : List Event := []
  error : Option (List Link) := none

def Execution.exitCode (e : Execution) : UInt32 := if e.error.isNone then 0 else 1

def Execution.failing (e : RunError) : Execution := { error := some e.chain }

def Execution.of {α : Type} (f : ConsoleFilter) (r : Report α) : Execution :=
  { lines := r.lines
    log := r.events.filter f.shows
    error := match r.result with
      | .ok _ => none
      | .error e => some e.chain }

/-- The settings file and the project that it and the command line make. A file that is refused as a
whole is reported through `refuse`. -/
def prepare (refuse : ProjectError → RunError) (path : Option String) (o : Overrides) :
    m (Except RunError (ProjectConfig × ResolvedProject)) := do
  match ← loadConfig path with
  | .error e => pure (.error e)
  | .ok config =>
    match config.validate, config.resolve o with
    | .error e, _ => pure (.error (refuse e))
    | .ok (), .error e => pure (.error (.project e))
    | .ok (), .ok project => pure (.ok (config, project))

/-- The console level: that of the command line, else that of the file, else the default. -/
def consoleLevel (given : Option Level) (config : ProjectConfig) : Level :=
  (given <|> config.level.toOption.join).getD .default

def run (command : CommandLine.Command) (o : CommandLine.Options) (filter : Option String) :
    m Execution := do
  match ← prepare .invalidProject o.config (overrides o) with
  | .error e => pure (.failing e)
  | .ok (config, project) =>
    let level := consoleLevel o.level config
    let console := ConsoleFilter.choose filter level
    match command with
    | .generate =>
      let collector : Collector := { threshold := Collector.thresholdFor level }
      let report ← generate project config.generator o.strict o.dryRun collector
      pure (.of console report)
    | .check =>
      let report ← check project config.generator
      pure (.of console report)

end Program

end ClientGen
