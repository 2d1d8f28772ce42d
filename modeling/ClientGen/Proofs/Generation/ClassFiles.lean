import ClientGen.Program
import ClientGen.Proofs.Generation.Trace
import ClientGen.Proofs.Output.ClassFile
import ClientGen.Proofs.Project.Settings
import ClientGen.Proofs.Text.CaseMap

/-! The files of a run. As long as no schema has a slash in its name, a run writes below the output
directory only, no class overwrites the file of another, and in the end each file holds its own
class. With a slash in the name of a schema neither has to be so. -/

namespace ClientGen

open FileTree

def Task.Plain : Task → Prop
  | .parameters _ => True
  | .model name _ => '/' ∉ name.toList

theorem Task.Makes.plain {base : String} {s : Session} {t : Task} {c : ClassDecl}
    (h : t.Makes base s c) (hbase : isPackage base = true) (ht : t.Plain) : c.Plain := by
  cases t with
  | parameters service =>
    obtain ⟨hpackage, hclass⟩ := h.concerns
    constructor
    · rw [hpackage, isPackage_append, hbase]
      rfl
    · rw [hclass]
      simp [Service.typeName, Naming.slash_notMem_typeName]
  | model name schema =>
    obtain ⟨hpackage, hclass⟩ := h.concerns
    constructor
    · rw [hpackage, isPackage_append, hbase]
      rfl
    · rw [hclass]
      exact Naming.slash_notMem_capitalize ht

namespace Generation

variable {format : OutputFormat} {output : String} {before t t' : FileTree} {calls : List Call}
  {c : ClassDecl}

def accepted (calls : List Call) : List ClassDecl := calls.filterMap Call.accepted?

theorem accepted_append (calls more : List Call) :
    accepted (calls ++ more) = accepted calls ++ accepted more := List.filterMap_append

theorem name_of_accepted (h : c ∈ accepted calls) : c.canonicalName ∈ calls.map Call.name := by
  obtain ⟨call, hcall, haccepted⟩ := List.mem_filterMap.mp h
  rw [← Call.argument_of_accepted haccepted]
  exact List.mem_map_of_mem hcall

def places (format : OutputFormat) (output : String) (t : FileTree) (classes : List ClassDecl) :
    List (List String) :=
  classes.map fun c => t.resolve (format.file output c)

/-- The files of the classes are below the output directory, each at a place of its own, and hold
their classes. Everything else is as before, but for new directories. -/
structure FilesOf (format : OutputFormat) (output : String) (classes : List ClassDecl)
    (before after : FileTree) : Prop where
  below : ∀ place ∈ places format output before classes,
    ∃ names, names ≠ [] ∧ place = before.resolve output ++ names
  distinct : (places format output before classes).Nodup
  content : ∀ c ∈ classes, after.read (format.file output c) = .ok (format.content c)
  others : Kept (places format output before classes) before after

theorem FilesOf.kept {classes : List ClassDecl} (h : FilesOf format output classes before t)
    (hkept : Kept [] t t') : FilesOf format output classes before t' := by
  refine ⟨h.below, h.distinct, fun c hc => hkept.read (h.content c hc) List.not_mem_nil, ?_⟩
  simpa using h.others.trans hkept

theorem FilesOf.written {classes : List ClassDecl} (h : FilesOf format output classes before t)
    (hc : c.Plain)
    (hnew : before.resolve (format.file output c) ∉ places format output before classes)
    (hkept : Kept [t.resolve (format.file output c)] t t')
    (hread : t'.read (format.file output c) = .ok (format.content c)) :
    FilesOf format output (classes ++ [c]) before t' := by
  have hplaces : places format output before (classes ++ [c]) =
      places format output before classes ++ [before.resolve (format.file output c)] :=
    List.map_append
  rw [resolve_eq_of_home h.others.home] at hkept
  constructor
  · rw [hplaces]
    refine List.forall_mem_append.mpr ⟨h.below, List.forall_mem_singleton.mpr ?_⟩
    exact ⟨_, format.names_ne_nil c, format.resolve_file before output hc⟩
  · rw [hplaces]
    refine List.nodup_append.mpr ⟨h.distinct, List.nodup_singleton _, ?_⟩
    rintro place hplace _ hlast rfl
    obtain rfl := List.mem_singleton.mp hlast
    exact hnew hplace
  · refine List.forall_mem_append.mpr ⟨fun d hd => ?_, List.forall_mem_singleton.mpr hread⟩
    refine hkept.read (h.content d hd) ?_
    rw [resolve_eq_of_home h.others.home, List.mem_singleton]
    exact fun heq => hnew (heq ▸ List.mem_map_of_mem hd)
  · rw [hplaces]
    exact h.others.trans hkept

structure Written (format : OutputFormat) (output : String) (before : FileTree)
    (calls : List Call) (t : FileTree) : Prop where
  plain : ∀ c ∈ accepted calls, c.Plain
  files : FilesOf format output (accepted calls) before t

theorem Written.notMem_places (h : Written format output before calls t) (hc : c.Plain)
    (hnew : c.canonicalName ∉ calls.map Call.name) :
    before.resolve (format.file output c) ∉ places format output before (accepted calls) := by
  intro hplace
  obtain ⟨d, hd, hsame⟩ := List.mem_map.mp hplace
  rw [format.resolve_file before output (h.plain d hd),
    format.resolve_file before output hc] at hsame
  have hname := OutputFormat.canonicalName_eq_of_names (List.append_cancel_left hsame)
  exact hnew (hname ▸ name_of_accepted hd)

theorem Written.step (h : Written format output before calls t) (hc : c.Plain)
    (hnew : c.canonicalName ∉ calls.map Call.name) :
    Written format output before
      (calls ++ [⟨c, ((Emitter.ofFormat (m := StateM FileTree) format output c).run t).1⟩])
      ((Emitter.ofFormat (m := StateM FileTree) format output c).run t).2 := by
  have hdelivered := delivered_ofFormat format output c t
  generalize (Emitter.ofFormat (m := StateM FileTree) format output c).run t = answer at hdelivered
  cases hdelivered with
  | refused e hkept =>
    have hsame : accepted (calls ++ [⟨c, .error e⟩]) = accepted calls := by
      rw [accepted_append]
      exact List.append_nil _
    exact ⟨hsame ▸ h.plain, hsame ▸ h.files.kept hkept⟩
  | written hkept hread =>
    have hmore : accepted (calls ++ [⟨c, .ok ()⟩]) = accepted calls ++ [c] := accepted_append _ _
    constructor
    · rw [hmore]
      exact List.forall_mem_append.mpr ⟨h.plain, List.forall_mem_singleton.mpr hc⟩
    · rw [hmore]
      exact h.files.written hc (h.notMem_places hc hnew) hkept hread

theorem files_of_generateAll (l : LoadedDocument) (settings : Settings) {base : String}
    (format : OutputFormat) (output : String) (before : FileTree)
    (hbase : isPackage base = true) (hplain : ∀ t ∈ l.tasks, t.Plain) :
    ∃ p classes after,
      (generateAll (m := StateM FileTree) l settings base (Emitter.ofFormat format output)).run
        before = (p, after) ∧
        p.summary.generated = classes.map ClassDecl.canonicalName ∧
        (∀ c ∈ classes, ∃ t ∈ l.tasks, t.Makes base (start l settings).session c) ∧
        FilesOf format output classes before after := by
  have hstart : Written format output before [] before :=
    ⟨fun _ hc => absurd hc List.not_mem_nil, by simp [places, accepted], List.nodup_nil,
      by simp [accepted], .refl before⟩
  -- that all classes so far are in their files is what each call of the emitter preserves
  obtain ⟨ledger, calls, p, after, hrun, hp, ht, hwritten⟩ :=
    traced_generateAll l settings base (Emitter.ofFormat format output) before
      (fun t ht c calls w hmade hnew hw => hw.step (hmade.plain hbase (hplain t ht)) hnew) hstart
  refine ⟨p, accepted calls, after, hrun, ?_, fun c hc => ?_, hwritten.files⟩
  · rw [hp.generated, accepted, hp.emitted]
  · rw [accepted, hp.emitted] at hc
    obtain ⟨x, hx, hxc⟩ := List.mem_filterMap.mp hc
    exact ⟨x.task, hp.tasks ▸ List.mem_map_of_mem hx, ht.made x hx c hxc⟩

end Generation

namespace Program

open Generation

variable {t : FileTree} {bytes : ByteArray} {d : Document} {project : ResolvedProject}
  {settings : Settings} {l : LoadedDocument}

theorem run_loadDocument {source : String} (hread : t.read source = .ok bytes)
    (hd : Document.read? bytes.data.toList = some d) :
    (loadDocument (m := StateM FileTree) source).run t = (.ok d, t) := by
  have hfile : (Files.read (m := StateM FileTree) source).run t = (.ok bytes, t) := by
    rw [← hread]
    rfl
  refine (run_bind_of_run hfile).trans ?_
  simp only [hd]
  rfl

def outcome (strict : Bool) (s : Summary) : Except RunError Summary :=
  if strict && !s.isClean then .error (.strict s.failed.length) else .ok s

def reportOf (project : ResolvedProject) (strict dryRun : Bool) (collector : Collector)
    (loading : List Event) (p : Progress) : Report Summary :=
  let events := loading ++ [starting project] ++ p.events
  { events
    lines := reportLines p.summary dryRun (collector.recordAll events).drain.1
    result := outcome strict p.summary }

theorem run_generate_eq {ρ : Type} [Files (StateM ρ)] {t u u' : ρ} {p : Progress}
    (strict : Bool) (collector : Collector)
    (hread : (loadDocument (m := StateM ρ) project.source).run t = (.ok d, u))
    (hl : (LoadedDocument.load d settings project.basePackage).2 = .ok l)
    (hrun : (generateAll (m := StateM ρ) l settings project.basePackage
      (Emitter.ofFormat project.format project.output)).run u = (p, u')) :
    (generate (m := StateM ρ) project settings strict false collector).run t =
      (reportOf project strict false collector
        (LoadedDocument.load d settings project.basePackage).1 p, u') := by
  match hload : LoadedDocument.load d settings project.basePackage with
  | (events, result) =>
    rw [hload] at hl
    obtain rfl : result = .ok l := hl
    have hloaded : (generate (m := StateM ρ) project settings strict false collector).run t = _ :=
      run_bind_of_run hread
    simp only [hload] at hloaded
    exact hloaded.trans (run_bind_of_run hrun)

theorem run_generate_of_load {ρ : Type} [Files (StateM ρ)] {t u u' : ρ} {p : Progress}
    (strict : Bool) (collector : Collector)
    (hread : (loadDocument (m := StateM ρ) project.source).run t = (.ok d, u))
    (hl : (LoadedDocument.load d settings project.basePackage).2 = .ok l)
    (hrun : (generateAll (m := StateM ρ) l settings project.basePackage
      (Emitter.ofFormat project.format project.output)).run u = (p, u')) :
    ∃ report, (generate (m := StateM ρ) project settings strict false collector).run t =
        (report, u') ∧ report.result = outcome strict p.summary :=
  ⟨_, run_generate_eq strict collector hread hl hrun, rfl⟩

theorem run_generate (strict : Bool) (collector : Collector)
    (hread : t.read project.source = .ok bytes)
    (hd : Document.read? bytes.data.toList = some d)
    (hl : (LoadedDocument.load d settings project.basePackage).2 = .ok l)
    {p : Progress} {t' : FileTree}
    (hrun : (generateAll (m := StateM FileTree) l settings project.basePackage
      (Emitter.ofFormat project.format project.output)).run t = (p, t')) :
    ∃ report, (generate (m := StateM FileTree) project settings strict false collector).run t =
        (report, t') ∧ report.result = outcome strict p.summary :=
  run_generate_of_load strict collector (run_loadDocument hread hd) hl hrun

theorem isPackage_of_resolve {config : ProjectConfig} {o : Overrides}
    (h : config.resolve o = .ok project) : isPackage project.basePackage = true :=
  (ProjectConfig.resolve_eq_ok_iff.mp h).2.2.1

/-- A run over a document without a slash in the name of a schema: where its files are, and what
they hold in the end. -/
theorem files_of_generate {config : ProjectConfig} {o : Overrides}
    (hproject : config.resolve o = .ok project) (strict : Bool) (collector : Collector)
    (hread : t.read project.source = .ok bytes)
    (hd : Document.read? bytes.data.toList = some d)
    (hl : (LoadedDocument.load d settings project.basePackage).2 = .ok l)
    (hnames : ∀ entry ∈ d.schemas, '/' ∉ entry.1.toList) :
    ∃ (report : Report Summary) (p : Progress) (classes : List ClassDecl) (t' : FileTree),
      (generate (m := StateM FileTree) project settings strict false collector).run t =
        (report, t') ∧
      report.result = outcome strict p.summary ∧
      p.summary.generated = classes.map ClassDecl.canonicalName ∧
      (∀ c ∈ classes, ∃ task ∈ l.tasks,
        task.Makes project.basePackage (start l settings).session c) ∧
      FilesOf project.format project.output classes t t' := by
  obtain ⟨-, hdocument, -, -⟩ := LoadedDocument.load_eq_ok hl
  have hplain : ∀ task ∈ l.tasks, task.Plain := by
    intro task htask
    rw [LoadedDocument.tasks, hdocument] at htask
    rcases List.mem_append.mp htask with htask | htask
    · obtain ⟨service, -, rfl⟩ := List.mem_map.mp htask
      exact trivial
    · obtain ⟨entry, hentry, rfl⟩ := List.mem_map.mp htask
      exact hnames entry hentry
  obtain ⟨p, classes, t', hrun, hgenerated, hmade, hfiles⟩ :=
    files_of_generateAll l settings project.format project.output t
      (isPackage_of_resolve hproject) hplain
  obtain ⟨report, hreport, hresult⟩ := run_generate strict collector hread hd hl hrun
  exact ⟨report, p, classes, t', hreport, hresult, hgenerated, hmade, hfiles⟩

def treeOfSchemas (names : List String) : FileTree :=
  let document : Json := .object [("schemas", .object (names.map fun name => (name, .object [])))]
  (FileTree.mk [] []).withFile "api.json" (document.pretty "").toUTF8

def smallProject : ResolvedProject :=
  { source := "api.json", output := "out", basePackage := "api", format := .java }

theorem resolve_smallProject :
    ({} : ProjectConfig).resolve
      { source := some "api.json", output := some "out", basePackage := some "api" } =
        .ok smallProject := by rfl

theorem files_of_orders :
    ∃ (report : Report Summary) (p : Progress) (classes : List ClassDecl) (t' : FileTree),
      (generate (m := StateM FileTree) smallProject {} true false {}).run
        (treeOfSchemas ["order", "line.item"]) = (report, t') ∧
      report.result = outcome true p.summary ∧
      p.summary.generated = classes.map ClassDecl.canonicalName ∧
      FilesOf .java "out" classes (treeOfSchemas ["order", "line.item"]) t' := by
  have loaded : (((treeOfSchemas ["order", "line.item"]).read "api.json").toOption.any fun bytes =>
      (Document.read? bytes.data.toList).any fun d =>
        (LoadedDocument.load d {} "api").2.toOption.isSome &&
          d.schemas.all fun entry => !entry.1.toList.contains '/') = true := by
    decide +kernel
  simp only [Option.any_eq_true, Bool.and_eq_true, Option.isSome_iff_exists, toOption_eq_some,
    List.all_eq_true, Bool.not_eq_true', ← Bool.not_eq_true, List.contains_iff_mem] at loaded
  obtain ⟨bytes, hread, d, hd, ⟨l, hl⟩, hnames⟩ := loaded
  obtain ⟨report, p, classes, t', hrun, hresult, hgenerated, -, hfiles⟩ :=
    files_of_generate resolve_smallProject true {} hread hd hl hnames
  exact ⟨report, p, classes, t', hrun, hresult, hgenerated, hfiles⟩

def bare (name : String) : ClassDecl :=
  { packageName := "api.model", className := name, documentation := "Generated by cgraml." }

def strays : List String := ["A", "./A", "../../../B"]

theorem files_astray_of_slashes :
    ∃ (report : Report Summary) (s : Summary) (t' : FileTree),
      (generate (m := StateM FileTree) smallProject {} true false {}).run (treeOfSchemas strays) =
        (report, t') ∧
      report.result = .ok s ∧
      s.generated = strays.map (fun name => (bare name).canonicalName) ∧
      (treeOfSchemas strays).resolve "out" = ["out"] ∧
      (treeOfSchemas strays).resolve (OutputFormat.java.file "out" (bare "../../../B")) =
        ["B.java"] ∧
      t'.read "B.java" = .ok (OutputFormat.java.content (bare "../../../B")) ∧
      (treeOfSchemas strays).resolve (OutputFormat.java.file "out" (bare "./A")) =
        (treeOfSchemas strays).resolve (OutputFormat.java.file "out" (bare "A")) ∧
      t'.read (OutputFormat.java.file "out" (bare "A")) =
        .ok (OutputFormat.java.content (bare "./A")) ∧
      OutputFormat.java.content (bare "./A") ≠ OutputFormat.java.content (bare "A") := by
  have run : (match (generate (m := StateM FileTree) smallProject {} true false {}).run
      (treeOfSchemas strays) with
    | (report, t') =>
      report.result.toOption.any (fun s =>
          s.generated == strays.map fun name => (bare name).canonicalName) &&
        (t'.read "B.java").toOption.any (fun bytes =>
          decide (bytes = OutputFormat.java.content (bare "../../../B"))) &&
        (t'.read (OutputFormat.java.file "out" (bare "A"))).toOption.any fun bytes =>
          decide (bytes = OutputFormat.java.content (bare "./A"))) = true := by
    decide +kernel
  match hrun : (generate (m := StateM FileTree) smallProject {} true false {}).run
      (treeOfSchemas strays) with
  | (report, t') =>
    rw [hrun] at run
    simp only [Bool.and_eq_true, Option.any_eq_true, beq_iff_eq, decide_eq_true_eq,
      toOption_eq_some, exists_eq_right] at run
    obtain ⟨⟨⟨s, hs, hgenerated⟩, houtside⟩, hoverwritten⟩ := run
    exact ⟨report, s, t', rfl, hs, hgenerated, by decide +kernel, by decide +kernel, houtside,
      by decide +kernel, hoverwritten, by decide +kernel⟩

end Program

end ClientGen
