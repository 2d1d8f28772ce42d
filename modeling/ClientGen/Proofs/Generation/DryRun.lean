import ClientGen.Proofs.Document.Validation
import ClientGen.Proofs.Generation.ClassFiles
import ClientGen.Proofs.Generation.Handing

/-! Runs of one document with different emitters. They make the same classes, and differ only in
what the emitters answer; so a dry run tells what a run that writes Java sources comes to, as long
as the files can be written. -/

namespace ClientGen

namespace Emitter

variable {ρ : Type} [Files (StateM ρ)] {c : ClassDecl}

theorem answer_writeFile (directory name text : String) (t : ρ) :
    ((writeFile (m := StateM ρ) directory name text).run t).1 = .ok () ∨
      ∃ fault, ((writeFile (m := StateM ρ) directory name text).run t).1 = .error (.io fault) := by
  unfold writeFile
  match hmade : (Files.createDirectories (m := StateM ρ) directory).run t with
  | (.error fault, u) =>
    rw [run_bind_of_run hmade]
    exact .inr ⟨fault, rfl⟩
  | (.ok (), u) =>
    rw [run_bind_of_run hmade]
    match hwritten : (Files.write (m := StateM ρ) (Path.join directory name) text.toUTF8).run u with
    | (.error fault, u') =>
      dsimp only
      rw [run_bind_of_run hwritten]
      exact .inr ⟨fault, rfl⟩
    | (.ok (), u') =>
      dsimp only
      rw [run_bind_of_run hwritten]
      exact .inl rfl

theorem answer_java (output : String) (hname : c.className ≠ "") (t : ρ) :
    ((java (m := StateM ρ) output c).run t).1 = .ok () ∨
      ∃ fault, ((java (m := StateM ρ) output c).run t).1 = .error (.io fault) := by
  unfold java
  rw [if_neg hname]
  exact answer_writeFile _ _ _ t

end Emitter

variable {d : Document} {loadSettings settings : Settings} {base package : String}
  {l : LoadedDocument}

theorem Task.Makes.className_ne_empty {s : Session} {t : Task} {c : ClassDecl}
    (hl : (LoadedDocument.load d loadSettings base).2 = .ok l) (ht : t ∈ l.tasks)
    (h : t.Makes package s c) : c.className ≠ "" := by
  obtain ⟨hvalid, rfl, -, -⟩ := LoadedDocument.load_eq_ok hl
  cases t with
  | parameters service =>
    obtain ⟨-, hclass⟩ := h.concerns
    intro hempty
    rw [hclass] at hempty
    have hchars := congrArg String.toList hempty
    simp at hchars
  | model name schema =>
    obtain ⟨-, hclass⟩ := h.concerns
    rw [hclass]
    apply Naming.capitalize_ne_empty
    have hentry := LoadedDocument.model_mem_tasks.mp ht
    exact (Document.validate_eq_ok_iff.mp hvalid).schemas (name, schema) hentry

namespace Generation

variable {σ : Type}

structure Runs (l : LoadedDocument) (settings : Settings) (package : String)
    (emit : Emitter (StateM σ)) (w : σ) (p : Progress) (w' : σ) (calls : List Call) : Prop where
  plain : (generateAll l settings package emit).run w = (p, w')
  recorded : (generateAll l settings package emit.recording).run (w, []) = (p, w', calls)

def SettledOnce (s : Summary) (name : String) : Prop :=
  s.generated.count name + s.failed.countP (fun e => e.code = 6 ∧ e.subject = name) = 1

theorem runs_emitter (l : LoadedDocument) (settings : Settings) (package : String)
    (emit : Emitter (StateM σ)) (w : σ) :
    ∃ p w' calls, Runs l settings package emit w p w' calls ∧
      Follows (resultsOf l settings package) calls p.summary ∧
      ∀ call ∈ calls, SettledOnce p.summary call.name := by
  obtain ⟨p, w', calls, hplain, hrecorded, hfollows, hnodup, -⟩ :=
    follows_generateAll (Q := fun _ _ => True) l settings package emit w
      (fun _ _ _ _ _ _ _ => trivial) trivial
  exact ⟨p, w', calls, ⟨hplain, hrecorded⟩, hfollows, fun call hcall => hfollows.once hnodup hcall⟩

theorem runs_java (hl : (LoadedDocument.load d loadSettings base).2 = .ok l)
    (settings : Settings) (package : String) [Files (StateM σ)] (output : String) (t : σ) :
    ∃ p t' calls, Runs l settings package (Emitter.java output) t p t' calls ∧
      Follows (resultsOf l settings package) calls p.summary ∧
      ∀ call ∈ calls, call.answer = .ok () ∨ ∃ fault, call.answer = .error (.io fault) := by
  obtain ⟨p, t', calls, hplain, hrecorded, hfollows, -, hanswers⟩ :=
    follows_generateAll (Q := fun calls _ => ∀ call ∈ calls,
        call.answer = .ok () ∨ ∃ fault, call.answer = .error (.io fault))
      l settings package (Emitter.java output) t (by
        intro task htask c calls u hmakes hcalls
        have hname := hmakes.className_ne_empty hl htask
        exact List.forall_mem_append.mpr
          ⟨hcalls, List.forall_mem_singleton.mpr (Emitter.answer_java output hname u)⟩)
      (fun _ h => absurd h List.not_mem_nil)
  exact ⟨p, t', calls, ⟨hplain, hrecorded⟩, hfollows, hanswers⟩

theorem Follows.summary_eq_dryRun {p dry : Progress} {calls : List Call} {classes : List ClassDecl}
    (h : Follows (resultsOf l settings package) calls p.summary)
    (hanswers : ∀ call ∈ calls, call.answer = .ok () ∨ ∃ fault, call.answer = .error (.io fault))
    (hfaultless : ∀ call ∈ calls, ∀ fault, call.answer ≠ .error (.io fault))
    (hdry : (generateAll l settings package Emitter.collecting).run [] = (dry, classes)) :
    p.summary = dry.summary := by
  have hall : ∀ call ∈ calls, call.answer = .ok () := by
    intro call hcall
    rcases hanswers call hcall with hok | ⟨fault, hio⟩
    · exact hok
    · exact absurd hio (hfaultless call hcall fault)
  exact (h.collects hall).summary_eq (collects_of_run hdry)

/-- Whatever two emitters answer, they are handed the same classes, and but for what they refuse the
runs end alike. An emitter of Java sources refuses a class for a fault of the file system only, and
without one it comes to the summary of a dry run. -/
theorem generateAll_with_emitters (hl : (LoadedDocument.load d loadSettings base).2 = .ok l)
    (settings : Settings) (package : String) :
    (∀ {σ τ : Type} (emit : Emitter (StateM σ)) (emit' : Emitter (StateM τ)) (w : σ) (u : τ),
      ∃ p w' calls q u' calls', Runs l settings package emit w p w' calls ∧
        Runs l settings package emit' u q u' calls' ∧
        calls.map Call.argument = calls'.map Call.argument ∧
        p.summary.skipped = q.summary.skipped ∧
        (p.summary.failed.filter fun e => e.code ≠ 6) =
          (q.summary.failed.filter fun e => e.code ≠ 6) ∧
        (∀ call ∈ calls, SettledOnce p.summary call.name) ∧
        ∀ call ∈ calls', SettledOnce q.summary call.name) ∧
    ∀ {ρ : Type} [Files (StateM ρ)] (output : String) (t : ρ),
      ∃ p t' calls dry classes, Runs l settings package (Emitter.java output) t p t' calls ∧
        (generateAll l settings package Emitter.collecting).run [] = (dry, classes) ∧
        (∀ call ∈ calls, ∀ reason, call.answer ≠ .error (.render reason)) ∧
        ((∀ call ∈ calls, ∀ fault, call.answer ≠ .error (.io fault)) →
          p.summary = dry.summary) := by
  constructor
  · intro σ τ emit emit' w u
    obtain ⟨p, w', calls, hruns, hfollows, honce⟩ := runs_emitter l settings package emit w
    obtain ⟨q, u', calls', hruns', hfollows', honce'⟩ := runs_emitter l settings package emit' u
    have hother : (fun e : GenError => decide (e.code ≠ 6)) = fun e => !e.isEmission := by
      funext e
      rw [GenError.isEmission, decide_not]
    refine ⟨p, w', calls, q, u', calls', hruns, hruns', ?_, ?_, ?_, honce, honce'⟩
    · rw [hfollows.handed, hfollows'.handed]
    · rw [hfollows.skipped, hfollows'.skipped]
    · rw [hother, hfollows.failed, hfollows'.failed]
  · intro ρ _ output t
    obtain ⟨p, t', calls, hruns, hfollows, hanswers⟩ := runs_java hl settings package output t
    rcases hdry : (generateAll l settings package Emitter.collecting).run [] with ⟨dry, classes⟩
    refine ⟨p, t', calls, dry, classes, hruns, rfl, ?_, ?_⟩
    · intro call hcall reason hrender
      rcases hanswers call hcall with hok | ⟨fault, hio⟩
      · rw [hok] at hrender
        cases hrender
      · rw [hio] at hrender
        cases hrender
    · exact fun hfaultless => hfollows.summary_eq_dryRun hanswers hfaultless hdry

theorem generateAll_with_emitters_of_orders :
    ∃ l, (LoadedDocument.load orderDocument {} "api").2 = .ok l ∧
      (∃ p w' calls q u' calls', Runs l {} "api" (limited 1) 0 p w' calls ∧
        Runs l {} "api" (limited 0) 0 q u' calls' ∧
        calls.map Call.argument = calls'.map Call.argument ∧
        p.summary.skipped = q.summary.skipped ∧
        (p.summary.failed.filter fun e => e.code ≠ 6) =
          (q.summary.failed.filter fun e => e.code ≠ 6) ∧
        (∀ call ∈ calls, SettledOnce p.summary call.name) ∧
        ∀ call ∈ calls', SettledOnce q.summary call.name) ∧
      ∃ p t' calls dry classes,
        Runs l {} "api" (Emitter.java (m := StateM FileTree) "out") (.mk [] []) p t' calls ∧
        (generateAll l {} "api" Emitter.collecting).run [] = (dry, classes) ∧
        p.summary = dry.summary := by
  have written : (LoadedDocument.load orderDocument {} "api").2.toOption.any (fun l =>
      ((generateAll l {} "api" (Emitter.java (m := StateM FileTree) "out").recording).run
        (.mk [] [], [])).2.2.all fun call => call.accepted?.isSome) = true := by
    decide +kernel
  simp only [Option.any_eq_true, toOption_eq_some, List.all_eq_true] at written
  obtain ⟨l, hl, hwritten⟩ := written
  obtain ⟨hemitters, hjava⟩ := generateAll_with_emitters hl {} "api"
  obtain ⟨p, t', calls, dry, classes, hruns, hdry, -, hsame⟩ :=
    hjava "out" (FileTree.mk [] [])
  refine ⟨l, hl, hemitters (limited 1) (limited 0) 0 0, p, t', calls, dry, classes, hruns, hdry,
    hsame ?_⟩
  intro call hcall fault hfault
  rw [hruns.recorded] at hwritten
  have haccepted := hwritten call hcall
  rw [Call.accepted?, hfault] at haccepted
  cases haccepted

end Generation

namespace Program

open Generation

variable {ρ : Type} [Files (StateM ρ)] {t u : ρ} {project : ResolvedProject}

theorem run_dryRun_eq (strict : Bool) (collector : Collector)
    (hread : (loadDocument (m := StateM ρ) project.source).run t = (.ok d, u))
    (hl : (LoadedDocument.load d settings project.basePackage).2 = .ok l) :
    (generate (m := StateM ρ) project settings strict true collector).run t =
      (reportOf project strict true collector
        (LoadedDocument.load d settings project.basePackage).1
        ((generateAll l settings project.basePackage Emitter.collecting).run []).1, u) := by
  match hload : LoadedDocument.load d settings project.basePackage with
  | (events, result) =>
    rw [hload] at hl
    obtain rfl : result = .ok l := hl
    have hloaded : (generate (m := StateM ρ) project settings strict true collector).run t = _ :=
      run_bind_of_run hread
    simp only [hload] at hloaded
    exact hloaded

theorem run_dryRun (strict : Bool) (collector : Collector)
    (hread : (loadDocument (m := StateM ρ) project.source).run t = (.ok d, u))
    (hl : (LoadedDocument.load d settings project.basePackage).2 = .ok l) :
    ∃ report, (generate (m := StateM ρ) project settings strict true collector).run t =
        (report, u) ∧ report.result = outcome strict
          ((generateAll l settings project.basePackage Emitter.collecting).run []).1.summary :=
  ⟨_, run_dryRun_eq strict collector hread hl, rfl⟩

/-- A dry run ends as the run does that writes Java sources, but for faults of the file system. -/
theorem generate_of_dryRun (strict : Bool) (collector : Collector)
    (hread : (loadDocument (m := StateM ρ) project.source).run t = (.ok d, u))
    (hl : (LoadedDocument.load d settings project.basePackage).2 = .ok l)
    (hformat : project.format = .java) :
    ∃ (rehearsal report : Report Summary) (p : Progress) (u' : ρ) (calls : List Call),
      (generate (m := StateM ρ) project settings strict true collector).run t = (rehearsal, u) ∧
      (generate (m := StateM ρ) project settings strict false collector).run t = (report, u') ∧
      Runs l settings project.basePackage (Emitter.java project.output) u p u' calls ∧
      ((∀ call ∈ calls, ∀ fault, call.answer ≠ .error (.io fault)) →
        report.result = rehearsal.result) := by
  obtain ⟨p, u', calls, hruns, hfollows, hanswers⟩ :=
    runs_java hl settings project.basePackage project.output u
  have hjava : Emitter.ofFormat (m := StateM ρ) project.format project.output =
      Emitter.java project.output := by
    rw [hformat]
    rfl
  obtain ⟨rehearsal, hrehearsal, hpredicted⟩ := run_dryRun strict collector hread hl
  obtain ⟨report, hreport, hresult⟩ :=
    run_generate_of_load strict collector hread hl (hjava ▸ hruns.plain)
  match hdry : (generateAll l settings project.basePackage Emitter.collecting).run [] with
  | (dry, classes) =>
    rw [hdry] at hpredicted
    refine ⟨rehearsal, report, p, u', calls, hrehearsal, hreport, hruns, fun hfaultless => ?_⟩
    rw [hresult, hpredicted, hfollows.summary_eq_dryRun hanswers hfaultless hdry]

end Program

end ClientGen
