import ClientGen.Diagnostics.Collector
import ClientGen.Document.Load
import ClientGen.ModelClass
import ClientGen.ParametersClass

/-!
A generation run: every parameters class, then every model class, is made and handed to an emitter.
A failure is noted and the run goes on.

Emitters act in a monad of their own, so that one run serves emitters that write files and emitters
that only keep what they are given.
-/

namespace ClientGen

abbrev Emitter (m : Type → Type) : Type := ClassDecl → m (Except EmitError Unit)

def Emitter.collecting : Emitter (StateM (List ClassDecl)) := fun c => do
  modify (· ++ [c])
  pure (.ok ())

namespace ClassDecl

def emission (c : ClassDecl) : Event := ⟨.debug, Target.emission, "Emitted " ++ c.canonicalName⟩

def emitted (c : ClassDecl) : Except EmitError Unit → List Event × Except GenError ClassDecl
  | .ok () => ([c.emission], .ok c)
  | .error e => ([], .error (.emission c.canonicalName e))

end ClassDecl

inductive Task
  | parameters (service : Service)
  | model (name : String) (schema : Json)

namespace Task

def entity : Task → String
  | parameters service => service.uri
  | model name _ => name

def parse (package : String) : Task → Build ClassDecl
  | parameters service => ParametersClass.parse package service.uri service
  | model name schema => ModelClass.parse package name schema

end Task

def LoadedDocument.tasks (l : LoadedDocument) : List Task :=
  l.services.map .parameters ++ l.document.schemas.map fun (name, schema) => .model name schema

structure Summary where
  /-- Canonical names of the emitted classes, in order of emission. -/
  generated : List String := []
  /-- URIs of the resources without a parameters class. -/
  skipped : List String := []
  failed : List GenError := []
deriving DecidableEq, Repr

namespace Summary

def isClean (s : Summary) : Bool := s.failed.isEmpty

def skipping (service : String) : Event :=
  ⟨.info, Target.generation,
    "Resource " ++ service ++ " has no GET parameters; no parameters class"⟩

def failing (entity : String) (e : GenError) : Event :=
  ⟨.error, Target.generation,
    "Failed to generate " ++ e.subject ++ " (" ++ entity ++ "): " ++ e.message⟩

/-- A resource that has no GET parameters is skipped; every other error is a failure. -/
def record (s : Summary) (entity : String) : Except GenError ClassDecl → Summary × List Event
  | .ok c => ({ s with generated := s.generated ++ [c.canonicalName] }, [])
  | .error (.missingGetAction _ service) | .error (.emptyParameters _ service) =>
    ({ s with skipped := s.skipped ++ [service] }, [skipping service])
  | .error e => ({ s with failed := s.failed ++ [e] }, [failing entity e])

end Summary

namespace Generation

structure Progress where
  session : Session
  summary : Summary := {}
  events : List Event := []

def Progress.conclude (p : Progress) (entity : String) (session : Session) (events : List Event)
    (result : Except GenError ClassDecl) : Progress :=
  let (summary, noted) := p.summary.record entity result
  { session, summary, events := p.events ++ events ++ noted }

def step {m : Type → Type} [Monad m] (emit : Emitter m) (package : String) (p : Progress)
    (t : Task) : m Progress :=
  match (t.parse package).run p.session with
  | ⟨session, events, .error e⟩ => pure (p.conclude t.entity session events (.error e))
  | ⟨session, events, .ok c⟩ => do
    let (more, result) := c.emitted (← emit c)
    pure (p.conclude t.entity session (events ++ more) result)

def start (l : LoadedDocument) (settings : Settings) : Progress :=
  { session := (Session.new settings l.responseAt).withTypes l.types }

def generateAll {m : Type → Type} [Monad m] (l : LoadedDocument) (settings : Settings)
    (package : String) (emit : Emitter m) : m Progress :=
  l.tasks.foldlM (step emit package) (start l settings)

def codeLabel (code : Nat) : String :=
  let digits := toString code
  "E" ++ String.ofList (List.replicate (3 - digits.length) '0') ++ digits

/-- The report at the end of a run. Of the diagnostics it shows the warnings only, since errors
appear as failures. -/
def reportLines (s : Summary) (dryRun : Bool) (diagnostics : List Event) : List String :=
  let verb := if dryRun then "Built" else "Generated"
  let skipped :=
    if s.skipped = [] then []
    else ["  Skipped " ++ toString s.skipped.length ++ " resources without GET parameters"]
  let failures := s.failed.map fun e =>
    "✗ " ++ e.subject ++ " [" ++ codeLabel e.code ++ "]: " ++ e.message
  let warnings := diagnostics.filter (·.level = .warn)
  let warningLines :=
    if warnings = [] then []
    else
      ("  " ++ toString warnings.length ++ " warning(s):") ::
        warnings.map fun w => "  ! " ++ w.message
  ["✓ " ++ verb ++ " " ++ toString s.generated.length ++ " classes"] ++ skipped ++ failures ++
    warningLines

end Generation

end ClientGen
