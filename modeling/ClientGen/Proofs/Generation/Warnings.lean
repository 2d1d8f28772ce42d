import ClientGen.Proofs.Generation.DryRun

/-! The warnings of a run, from where they are logged to the lines of the report. Loading logs some
and each builder may log more; on the way through the collector none is lost and none is doubled,
and the report lists them in that order, unless the threshold is above them. -/

namespace ClientGen

def Event.isWarning (e : Event) : Bool := e.level = .warn

namespace Collector

variable {c : Collector}

def see (c : Collector) (e : Event) : Collector :=
  c.observe e.level e.target [(ConsoleFilter.eventField, .shown e.message)]

theorem see_eq_record (c : Collector) (e : Event) : c.see e = c.record e := by
  rw [see, observe, show Event.messageOf [(ConsoleFilter.eventField, .shown e.message)] = e.message
    from rfl]
  split
  · rfl
  · rename_i h
    exact (if_neg h).symm

theorem foldl_see (c : Collector) (events : List Event) :
    events.foldl see c = c.recordAll events := by
  rw [show see = record from funext fun c => funext fun e => see_eq_record c e]
  rfl

theorem warnings_drain (h : c.entries = []) (events : List Event) :
    (c.recordAll events).drain.1.filter Event.isWarning =
      if c.threshold ≤ .warn then events.filter Event.isWarning else [] := by
  have hdrain : (c.recordAll events).drain.1 = events.filter (c.isRecorded ·.level) := by
    rw [drain, entries_recordAll, h, List.nil_append]
  have hrecorded : ∀ e : Event, (e.isWarning && c.isRecorded e.level) =
      (e.isWarning && decide (c.threshold ≤ .warn)) := by
    intro e
    cases hlevel : e.isWarning with
    | false => rfl
    | true =>
      have hwarn : e.level = .warn := of_decide_eq_true hlevel
      rw [isRecorded, hwarn]
      rfl
  rw [hdrain, List.filter_filter]
  simp only [hrecorded]
  split <;> rename_i hthreshold <;> simp [hthreshold]

end Collector

namespace Task

variable {σ : Type}

def log (package : String) (s : Session) (t : Task) : List Event := ((t.parse package).run s).events

/-- What comes of a task in the end: a class that was made may still not be put out. -/
def settled (package : String) (emit : Emitter (StateM σ)) (s : Session) (w : σ) (t : Task) :
    Except GenError ClassDecl × σ :=
  match t.result package s with
  | .error e => (.error e, w)
  | .ok c => ((c.emitted ((emit c).run w).1).2, ((emit c).run w).2)

end Task

namespace Generation

variable {σ : Type} {package : String} {p : Progress}

def logs (package : String) : Session → List Task → List Event
  | _, [] => []
  | s, t :: ts => t.log package s ++ logs package (t.after package s) ts

def settlements (package : String) (emit : Emitter (StateM σ)) :
    Session → σ → List Task → List (Except GenError ClassDecl)
  | _, _, [] => []
  | s, w, t :: ts =>
    (t.settled package emit s w).1 ::
      settlements package emit (t.after package s) (t.settled package emit s w).2 ts

theorem isWarning_of_emitted (c : ClassDecl) (answer : Except EmitError Unit) :
    (c.emitted answer).1.filter Event.isWarning = [] := by
  cases answer <;> rfl

theorem isWarning_of_record (s : Summary) (entity : String) (r : Except GenError ClassDecl) :
    (s.record entity r).2.filter Event.isWarning = [] := by
  cases r with
  | ok c => rfl
  | error e => cases e <;> rfl

theorem warnings_conclude (p : Progress) (entity : String) (s : Session) (events : List Event)
    (r : Except GenError ClassDecl) :
    (p.conclude entity s events r).events.filter Event.isWarning =
      p.events.filter Event.isWarning ++ events.filter Event.isWarning := by
  simp only [Progress.conclude, List.filter_append, isWarning_of_record, List.append_nil]

theorem settled_step (emit : Emitter (StateM σ)) (package : String) (p : Progress) (t : Task)
    (w : σ) :
    ((step emit package p t).run w).2 = (t.settled package emit p.session w).2 ∧
      ((step emit package p t).run w).1.summary =
        p.summary.add (.of (t.settled package emit p.session w).1) ∧
      ((step emit package p t).run w).1.events.filter Event.isWarning =
        p.events.filter Event.isWarning ++ (t.log package p.session).filter Event.isWarning := by
  unfold Task.settled Task.result Task.log
  match hparse : (t.parse package).run p.session with
  | ⟨s, events, .error e⟩ =>
    rw [run_step_of_error hparse]
    exact ⟨rfl, summary_conclude .., warnings_conclude ..⟩
  | ⟨s, events, .ok c⟩ =>
    rw [run_step_of_ok hparse]
    refine ⟨rfl, summary_conclude .., ?_⟩
    rw [warnings_conclude, List.filter_append, isWarning_of_emitted, List.append_nil]

def addAll (s : Summary) (rs : List (Except GenError ClassDecl)) : Summary :=
  rs.foldl (fun s r => s.add (.of r)) s

theorem failed_addAll (s : Summary) (rs : List (Except GenError ClassDecl)) :
    (addAll s rs).failed = s.failed ++ unmade rs := by
  induction rs generalizing s with
  | nil => exact (List.append_nil _).symm
  | cons r rs ih =>
    have hfirst : (s.add (.of r)).failed = s.failed ++ (Verdict.of r).error?.toList := rfl
    rw [addAll, List.foldl_cons, ← addAll, ih, hfirst, unmade, unmade, List.filterMap_cons,
      List.append_assoc]
    cases (Verdict.of r).error? <;> rfl

theorem settled_run (emit : Emitter (StateM σ)) (package : String) (ts : List Task) (p : Progress)
    (w : σ) :
    ((ts.foldlM (step emit package) p).run w).1.summary =
        addAll p.summary (settlements package emit p.session w ts) ∧
      ((ts.foldlM (step emit package) p).run w).1.events.filter Event.isWarning =
        p.events.filter Event.isWarning ++
          (logs package p.session ts).filter Event.isWarning := by
  induction ts generalizing p w with
  | nil => exact ⟨rfl, (List.append_nil _).symm⟩
  | cons t ts ih =>
    obtain ⟨hworld, hsummary, hwarnings⟩ := settled_step emit package p t w
    have hsession := session_step emit package p t w
    rw [List.foldlM_cons, StateT.run_bind]
    -- the later tasks start where the first one ends, which is all that is known of it
    generalize (step emit package p t).run w = next at *
    obtain ⟨hlater, hmore⟩ := ih next.1 next.2
    constructor
    · refine hlater.trans ?_
      rw [hsession, hworld, hsummary]
      rfl
    · refine hmore.trans ?_
      rw [hsession, hwarnings, logs, List.filter_append, List.append_assoc]

def headLines (dryRun : Bool) (s : Summary) : List String :=
  ("✓ " ++ (if dryRun then "Built" else "Generated") ++ " " ++ toString s.generated.length ++
      " classes") ::
    if s.skipped = [] then []
    else ["  Skipped " ++ toString s.skipped.length ++ " resources without GET parameters"]

def failureLine (e : GenError) : String :=
  "✗ " ++ e.subject ++ " [" ++ codeLabel e.code ++ "]: " ++ e.message

def warningSection (warnings : List Event) : List String :=
  if warnings = [] then []
  else
    ("  " ++ toString warnings.length ++ " warning(s):") ::
      warnings.map fun w => "  ! " ++ w.message

theorem reportLines_eq (s : Summary) (dryRun : Bool) (diagnostics : List Event) :
    reportLines s dryRun diagnostics =
      headLines dryRun s ++ s.failed.map failureLine ++
        warningSection (diagnostics.filter Event.isWarning) := rfl

end Generation

namespace Program

open Generation

variable {ρ : Type} [Files (StateM ρ)] {t u : ρ} {project : ResolvedProject} {d : Document}
  {settings : Settings} {l : LoadedDocument}

/-- The report of a run in which these events were logged and the tasks settled like this. The
warnings are collected as far as the threshold lets them, and listed one by one. -/
structure Tells (report : Report Summary) (collector : Collector) (strict dryRun : Bool)
    (logged : List Event) (rs : List (Except GenError ClassDecl)) : Prop where
  result : report.result = outcome strict (addAll {} rs)
  events : report.events.filter Event.isWarning = logged.filter Event.isWarning
  collected : (report.events.foldl Collector.see collector).drain.1.filter Event.isWarning =
    if collector.threshold ≤ .warn then logged.filter Event.isWarning else []
  lines : report.lines = headLines dryRun (addAll {} rs) ++ (unmade rs).map failureLine ++
    if collector.threshold ≤ .warn then warningSection (logged.filter Event.isWarning) else []

theorem tells_reportOf {collector : Collector} (hempty : collector.entries = [])
    (strict dryRun : Bool) {loading logged : List Event} {p : Progress}
    {rs : List (Except GenError ClassDecl)} (hsummary : p.summary = addAll {} rs)
    (hwarnings : p.events.filter Event.isWarning = logged.filter Event.isWarning) :
    Tells (reportOf project strict dryRun collector loading p) collector strict dryRun
      (loading ++ logged) rs := by
  have hfailed : (addAll {} rs).failed = unmade rs := failed_addAll {} rs
  have hevents : (loading ++ [starting project] ++ p.events).filter Event.isWarning =
      (loading ++ logged).filter Event.isWarning := by
    simp only [List.filter_append, hwarnings]
    exact congrArg (· ++ _) (List.append_nil _)
  have hcollected := Collector.warnings_drain hempty (loading ++ [starting project] ++ p.events)
  rw [hevents] at hcollected
  refine ⟨?_, hevents, ?_, ?_⟩
  · rw [reportOf, hsummary]
  · rw [Collector.foldl_see]
    exact hcollected
  · rw [reportOf, reportLines_eq, hsummary, hfailed, hcollected]
    split <;> rfl

/-- What a run tells of warnings and failures, with files or without: every warning of loading and
of the builders is listed once, in the order of logging, and every class that failed has a line. -/
theorem warnings_of_generate (strict dryRun : Bool) {collector : Collector}
    (hempty : collector.entries = [])
    (hread : (loadDocument (m := StateM ρ) project.source).run t = (.ok d, u))
    (hl : (LoadedDocument.load d settings project.basePackage).2 = .ok l) :
    ∃ report u', (generate (m := StateM ρ) project settings strict dryRun collector).run t =
        (report, u') ∧
      Tells report collector strict dryRun
        ((LoadedDocument.load d settings project.basePackage).1 ++
          logs project.basePackage (start l settings).session l.tasks)
        (if dryRun then
          settlements project.basePackage Emitter.collecting (start l settings).session [] l.tasks
        else
          settlements project.basePackage (Emitter.ofFormat project.format project.output)
            (start l settings).session u l.tasks) := by
  cases dryRun with
  | true =>
    obtain ⟨hsummary, hwarnings⟩ :=
      settled_run Emitter.collecting project.basePackage l.tasks (start l settings) []
    exact ⟨_, u, run_dryRun_eq strict collector hread hl,
      tells_reportOf hempty strict true hsummary hwarnings⟩
  | false =>
    obtain ⟨hsummary, hwarnings⟩ :=
      settled_run (Emitter.ofFormat (m := StateM ρ) project.format project.output)
        project.basePackage l.tasks (start l settings) u
    exact ⟨_, _, run_generate_eq strict collector hread hl rfl,
      tells_reportOf hempty strict false hsummary hwarnings⟩

def noisy : Json :=
  .object
    [("schemas", .object
        [("order", .object
            [("properties", .object [("order-id", .object []), ("orderId", .object [])]),
              ("$linkedData", .object
                [("lines", .array [.text "lines"]), ("Lines", .array [.text "lines"])])]),
          ("line", .null)]),
      ("resources", .array
        [.object
            [("uri", .text "lines"),
              ("actions", .object
                [("trace", .object []),
                  ("get", .object [("queryParameters", .object
                    [("page-size", .object []), ("pageSize", .object [])])])])]])]

def noisyTree : FileTree := (FileTree.mk [] []).withFile "api.json" (noisy.pretty "").toUTF8

def noisyLines : List String :=
  ["✓ Built 2 classes",
    "✗ line [E005]: invalid schema for line: resource description is not a JSON object",
    "  4 warning(s):",
    "  ! Unknown HTTP verb 'trace' on lines; skipping",
    "  ! Duplicate parameter 'pageSize' on GET lines; keeping the first",
    "  ! Property 'orderId' of api.model.Order maps to existing field 'orderId'; skipping",
    "  ! Relation 'Lines' of api.model.Order clashes with existing method getLines(); " ++
      "both are kept"]

theorem warnings_of_noisyTree :
    ∃ d l report,
      (loadDocument (m := StateM FileTree) smallProject.source).run noisyTree =
        (.ok d, noisyTree) ∧
      (LoadedDocument.load d {} "api").2 = .ok l ∧ ({} : Collector).entries = [] ∧
      (generate (m := StateM FileTree) smallProject {} false true {}).run noisyTree =
        (report, noisyTree) ∧
      Tells report {} false true
        ((LoadedDocument.load d {} "api").1 ++ logs "api" (start l {}).session l.tasks)
        (settlements "api" Emitter.collecting (start l {}).session [] l.tasks) ∧
      report.lines = noisyLines := by
  have loaded : ((noisyTree.read smallProject.source).toOption.any fun bytes =>
      (Document.read? bytes.data.toList).any fun d =>
        (LoadedDocument.load d {} "api").2.toOption.any fun l =>
          decide ((reportOf smallProject false true {} (LoadedDocument.load d {} "api").1
            ((generateAll l {} "api" Emitter.collecting).run []).1).lines = noisyLines)) =
      true := by
    decide +kernel
  simp only [Option.any_eq_true, toOption_eq_some, decide_eq_true_eq] at loaded
  obtain ⟨bytes, hbytes, d, hd, l, hl, hlines⟩ := loaded
  have hread := run_loadDocument hbytes hd
  have hempty : ({} : Collector).entries = [] := rfl
  obtain ⟨report, u, hrun, htells⟩ := warnings_of_generate false true hempty hread hl
  obtain ⟨rfl, rfl⟩ := Prod.mk.inj (hrun.symm.trans (run_dryRun_eq false {} hread hl))
  exact ⟨d, l, _, hread, hl, hempty, hrun, htells, hlines⟩

end Program

end ClientGen
