import ClientGen.Proofs.Generation.ClassFiles
import ClientGen.Proofs.Generation.Handing
import ClientGen.Proofs.Generation.References
import ClientGen.Proofs.ModelClass.Layout
import Mathlib.Algebra.GroupWithZero.Nat

/-! What a clean run makes of a document, and what a check counts without making it: a model class
for every schema, a parameters class for every resource with GET parameters, and two methods for
every relation. -/

namespace ClientGen

theorem Task.Makes.hasParameters {package : String} {s : Session} {service : Service}
    {c : ClassDecl} (h : (Task.parameters service).Makes package s c) :
    service.hasParameters = true := by
  obtain ⟨registry, s', events, hrun⟩ := h
  exact ParametersClass.hasParameters_of_parse hrun

def linkedData (schema : Json) : List (String × Json) :=
  ((schema.get? "$linkedData").bind Json.members?).getD []

theorem Document.relationCount_eq_sum (d : Document) :
    d.relationCount = (d.schemas.map fun entry => (linkedData entry.2).length).sum := by
  have run : ∀ (schemas : List (String × Json)) (n : Nat),
      (schemas.filterMap fun entry => (entry.2.get? "$linkedData").bind Json.members?).foldl
        (fun n relations => n + relations.length) n =
          n + (schemas.map fun entry => (linkedData entry.2).length).sum := by
    intro schemas
    induction schemas with
    | nil => exact fun n => rfl
    | cons entry schemas ih =>
      intro n
      rw [List.map_cons, List.sum_cons, linkedData, List.filterMap_cons]
      cases (entry.2.get? "$linkedData").bind Json.members? with
      | none =>
        rw [ih, Option.getD_none, List.length_nil, Nat.zero_add]
      | some relations =>
        rw [List.foldl_cons, ih, Option.getD_some, Nat.add_assoc]
  exact (run d.schemas 0).trans (Nat.zero_add _)

namespace Generation

variable {package : String} {s : Session} {services : List Service}
  {schemas : List (String × Json)} {rs : List (Except GenError ClassDecl)} {ps ms : List ClassDecl}

theorem skipped_of_clean {e : GenError} (clean : unmade (.error e :: rs) = []) :
    ∃ uri, Verdict.of (.error e) = .skipped uri := by
  cases hu : e.unserved? with
  | none =>
    rw [unmade, List.filterMap_cons, Verdict.of_failure hu] at clean
    cases clean
  | some uri => exact ⟨uri, Verdict.of_unserved hu⟩

theorem parameters_of_results
    (h : List.Forall₂ (fun service r => (Task.parameters service).ComesTo package s r) services rs)
    (clean : unmade rs = []) :
    List.Forall₂ (fun service c => (Task.parameters service).Makes package s c)
        (services.filter Service.hasParameters) (made rs) ∧
      unserved rs = (services.filter fun service => !service.hasParameters).map Service.uri := by
  induction h with
  | nil => exact ⟨.nil, rfl⟩
  | @cons service r services rs hr _ ih =>
    cases r with
    | ok c =>
      obtain ⟨hmade, hunserved⟩ := ih clean
      have hmakes := hr.makes
      have hserved : service.hasParameters = true := hmakes.hasParameters
      rw [List.filter_cons_of_pos hserved, List.filter_cons_of_neg (by simp [hserved])]
      exact ⟨.cons hmakes hmade, hunserved⟩
    | error e =>
      obtain ⟨uri, hskipped⟩ := skipped_of_clean clean
      have hconcerns := hr.concerns
      rw [hskipped] at hconcerns
      obtain ⟨rfl, hnone⟩ := hconcerns
      have hclean : unmade (.error e :: rs) = unmade rs := by
        rw [unmade, List.filterMap_cons, hskipped]
        rfl
      have hmore : unserved (.error e :: rs) = service.uri :: unserved rs := by
        rw [unserved, List.filterMap_cons, hskipped]
        rfl
      obtain ⟨hmade, hunserved⟩ := ih (hclean.symm.trans clean)
      rw [List.filter_cons_of_neg (by simp [hnone]), List.filter_cons_of_pos (by simp [hnone]),
        hmore, hunserved]
      exact ⟨hmade, rfl⟩

theorem models_of_results
    (h : List.Forall₂ (fun entry r => (Task.model entry.1 entry.2).ComesTo package s r) schemas rs)
    (clean : unmade rs = []) :
    List.Forall₂ (fun entry c => (Task.model entry.1 entry.2).Makes package s c) schemas
      (made rs) := by
  induction h with
  | nil => exact .nil
  | @cons entry r schemas rs hr _ ih =>
    cases r with
    | ok c => exact .cons hr.makes (ih clean)
    | error e =>
      obtain ⟨uri, hskipped⟩ := skipped_of_clean clean
      have hconcerns := hr.concerns
      rw [hskipped] at hconcerns
      exact hconcerns.elim

/-- A clean run: the parameters classes and the model classes in the order of the document, and the
resources that have none. -/
structure Complete (package : String) (s : Session) (l : LoadedDocument) (skipped : List String)
    (ps ms : List ClassDecl) : Prop where
  parameters : List.Forall₂ (fun service c => (Task.parameters service).Makes package s c)
    (l.services.filter Service.hasParameters) ps
  models : List.Forall₂ (fun entry c => (Task.model entry.1 entry.2).Makes package s c)
    l.document.schemas ms
  skipped : skipped = (l.services.filter fun service => !service.hasParameters).map Service.uri

theorem complete_of_run {l : LoadedDocument} {settings : Settings} {p : Progress}
    {classes : List ClassDecl}
    (hrun : (generateAll l settings package Emitter.collecting).run [] = (p, classes))
    (clean : p.summary.isClean = true) :
    ∃ ps ms, classes = ps ++ ms ∧
      Complete package (start l settings).session l p.summary.skipped ps ms := by
  have hcollects := collects_of_run hrun
  have hclean : unmade (resultsOf l settings package) = [] :=
    hcollects.failed.symm.trans (List.isEmpty_iff.mp clean)
  obtain ⟨rs, hresults, hmodels⟩ := resultsOf_eq l settings package
  rw [hresults, unmade, List.filterMap_append, List.append_eq_nil_iff] at hclean
  obtain ⟨hparameters, hskipped⟩ := parameters_of_results
    (List.forall₂_map_left_iff.mp (comesTo_results package _ _)) hclean.1
  refine ⟨_, _, ?_, hparameters, models_of_results hmodels hclean.2, ?_⟩
  · rw [hcollects.collected, hresults, made, List.filterMap_append]
    rfl
  · rw [hcollects.skipped, hresults, unserved, List.filterMap_append, ← unserved, ← unserved,
      hskipped, unserved_of_models hmodels, List.append_nil]

def parametersClasses (package : String) (classes : List ClassDecl) : List ClassDecl :=
  classes.filter fun c => c.packageName = package ++ "." ++ parametersPackage

def fieldCount (classes : List ClassDecl) : Nat := (classes.map fun c => c.fields.size).sum

def methodCount (classes : List ClassDecl) : Nat := (classes.map fun c => c.methods.length).sum

/-- The classes and the summary of a run, set against what was counted before it. -/
structure Tallies (n : LoadedDocument.Inventory) (package : String) (s : Summary)
    (classes : List ClassDecl) : Prop where
  generated : s.generated = classes.map ClassDecl.canonicalName
  parts : classes = parametersClasses package classes ++ modelClasses package classes
  schemas : n.schemas = (modelClasses package classes).length
  parameters : n.parametersClasses = (parametersClasses package classes).length
  resources : n.resources = (parametersClasses package classes).length + s.skipped.length
  methods : methodCount (modelClasses package classes) =
    3 * fieldCount (modelClasses package classes) + 2 * n.relations

theorem Tallies.relations {n : LoadedDocument.Inventory} {s : Summary} {classes : List ClassDecl}
    (h : Tallies n package s classes) :
    n.relations = (methodCount (modelClasses package classes) -
      3 * fieldCount (modelClasses package classes)) / 2 := by
  have hmethods := h.methods
  omega

theorem methodCount_of_models
    (h : List.Forall₂ (fun entry c => (Task.model entry.1 entry.2).Makes package s c) schemas ms) :
    methodCount ms =
      3 * fieldCount ms + 2 * (schemas.map fun entry => (linkedData entry.2).length).sum := by
  induction h with
  | nil => rfl
  | @cons entry c schemas ms hmakes _ ih =>
    obtain ⟨m, hm, hmade⟩ := hmakes.model
    have hrelations : m.relations = linkedData entry.2 := (ModelSchema.read_eq_ok hm).2
    have hlength := hmade.length_methods
    rw [hrelations] at hlength
    simp only [methodCount, fieldCount, List.map_cons, List.sum_cons] at ih ⊢
    omega

section Complete

variable {l : LoadedDocument} {skipped : List String}

theorem parameters_ne_model (package : String) :
    package ++ "." ++ parametersPackage ≠ package ++ "." ++ modelPackage := by
  intro h
  have hchars := congrArg String.toList h
  simp [parametersPackage, modelPackage] at hchars

theorem filter_packageName_of_eq {name : String} {classes : List ClassDecl}
    (h : ∀ c ∈ classes, c.packageName = name) :
    classes.filter (fun c => c.packageName = name) = classes := by
  rw [List.filter_eq_self]
  exact fun c hc => decide_eq_true (h c hc)

theorem filter_packageName_of_ne {name other : String} {classes : List ClassDecl}
    (h : ∀ c ∈ classes, c.packageName = name) (hne : name ≠ other) :
    classes.filter (fun c => c.packageName = other) = [] := by
  rw [List.filter_eq_nil_iff]
  intro c hc
  rw [h c hc, decide_eq_true_eq]
  exact hne

theorem Complete.packageName_parameters (h : Complete package s l skipped ps ms) :
    ∀ c ∈ ps, c.packageName = package ++ "." ++ parametersPackage := by
  intro c hc
  obtain ⟨service, -, hmakes⟩ := h.parameters.exists_of_mem_right hc
  exact hmakes.concerns.1

theorem Complete.packageName_models (h : Complete package s l skipped ps ms) :
    ∀ c ∈ ms, c.packageName = package ++ "." ++ modelPackage := by
  intro c hc
  obtain ⟨entry, -, hmakes⟩ := h.models.exists_of_mem_right hc
  exact hmakes.concerns.1

theorem Complete.parametersClasses (h : Complete package s l skipped ps ms) :
    parametersClasses package (ps ++ ms) = ps := by
  have hne := (parameters_ne_model package).symm
  rw [Generation.parametersClasses, List.filter_append,
    filter_packageName_of_eq h.packageName_parameters,
    filter_packageName_of_ne h.packageName_models hne, List.append_nil]

theorem Complete.modelClasses (h : Complete package s l skipped ps ms) :
    modelClasses package (ps ++ ms) = ms := by
  have hne := parameters_ne_model package
  rw [Generation.modelClasses, List.filter_append,
    filter_packageName_of_ne h.packageName_parameters hne,
    filter_packageName_of_eq h.packageName_models, List.nil_append]

theorem Complete.tallies {summary : Summary} (h : Complete package s l summary.skipped ps ms)
    (hgenerated : summary.generated = (ps ++ ms).map ClassDecl.canonicalName) :
    Tallies l.inventory package summary (ps ++ ms) := by
  have hserved : l.inventory.parametersClasses = ps.length := by
    rw [← h.parameters.length_eq, ← List.countP_eq_length_filter]
    rfl
  have hunserved : summary.skipped.length =
      l.services.countP fun service => !service.hasParameters := by
    rw [h.skipped, List.length_map, List.countP_eq_length_filter]
  constructor
  · exact hgenerated
  · rw [h.parametersClasses, h.modelClasses]
  · rw [h.modelClasses, ← h.models.length_eq]
    rfl
  · rw [h.parametersClasses, hserved]
  · have hsplit := List.length_eq_countP_add_countP Service.hasParameters (l := l.services)
    rw [h.parametersClasses, ← hserved, hunserved]
    simp only [Bool.not_eq_true, Bool.decide_eq_false] at hsplit
    exact hsplit
  · rw [h.modelClasses, methodCount_of_models h.models, ← Document.relationCount_eq_sum]
    rfl

end Complete

end Generation

namespace Program

open Generation

variable {d : Document} {project : ResolvedProject} {settings : Settings} {l : LoadedDocument}

def headingLines (source : String) (d : Document) : List String :=
  ("Checking API document: " ++ source) ::
    ((d.title.map ("✓ Title: " ++ ·)).toList ++ (d.baseUri.map ("✓ Base URI: " ++ ·)).toList)

def countLines (n : LoadedDocument.Inventory) : List String :=
  ["✓ Schemas: " ++ toString n.schemas,
    "✓ Resources: " ++ toString n.resources,
    "✓ Parameters classes: " ++ toString n.parametersClasses,
    "✓ Linked-data relations: " ++ toString n.relations,
    "",
    "API document is valid!"]

theorem run_check {ρ : Type} [Files (StateM ρ)] {t t' : ρ}
    (hl : (LoadedDocument.load d settings project.basePackage).2 = .ok l)
    (hread : (loadDocument (m := StateM ρ) project.source).run t = (.ok d, t')) :
    ∃ report, (check (m := StateM ρ) project settings).run t = (report, t') ∧
      report.result = .ok () ∧
      report.lines = headingLines project.source d ++ countLines l.inventory := by
  obtain ⟨-, rfl, -, -⟩ := LoadedDocument.load_eq_ok hl
  match hload : LoadedDocument.load l.document settings project.basePackage with
  | (events, result) =>
    rw [hload] at hl
    obtain rfl : result = .ok l := hl
    have hchecked : (check (m := StateM ρ) project settings).run t = _ := run_bind_of_run hread
    simp only [hload] at hchecked
    exact ⟨_, hchecked, rfl, rfl⟩

/-- Before a run that ends clean, a check tells what the run makes: it prints the number of model
classes, of resources with and without a class, of parameters classes, and of the relations, which
have two methods each besides the three that each field has. -/
theorem check_of_clean_run (project : ResolvedProject) {p : Progress} {classes : List ClassDecl}
    (hl : (LoadedDocument.load d settings project.basePackage).2 = .ok l)
    (hrun : (generateAll l settings project.basePackage Emitter.collecting).run [] = (p, classes))
    (clean : p.summary.isClean = true) :
    Tallies l.inventory project.basePackage p.summary classes ∧
      ∀ {ρ : Type} [Files (StateM ρ)] (t t' : ρ),
        (loadDocument (m := StateM ρ) project.source).run t = (.ok d, t') →
          ∃ report, (check (m := StateM ρ) project settings).run t = (report, t') ∧
            report.result = .ok () ∧
            report.lines = headingLines project.source d ++ countLines
              { schemas := (modelClasses project.basePackage classes).length
                resources := (parametersClasses project.basePackage classes).length +
                  p.summary.skipped.length
                parametersClasses := (parametersClasses project.basePackage classes).length
                relations := (methodCount (modelClasses project.basePackage classes) -
                  3 * fieldCount (modelClasses project.basePackage classes)) / 2 } := by
  obtain ⟨ps, ms, rfl, hcomplete⟩ := complete_of_run hrun clean
  have htallies := hcomplete.tallies (collects_of_run hrun).generated
  refine ⟨htallies, fun t t' hread => ?_⟩
  obtain ⟨report, hreport, hresult, hlines⟩ := run_check hl hread
  refine ⟨report, hreport, hresult, hlines.trans ?_⟩
  rw [← htallies.schemas, ← htallies.resources, ← htallies.parameters, ← htallies.relations]

def stock : Json :=
  .object
    [("schemas", .object
        [("order", .object
            [("properties", .object [("order-id", .object []), ("orderId", .object [])]),
              ("$linkedData", .object
                [("lines", .array [.text "lines"]), ("buyer", .array [.text "customers"])])]),
          ("line", .object [("$linkedData", .null)])]),
      ("resources", .array
        [.object
            [("uri", .text "orders"),
              ("actions", .object
                [("Get", .object [("queryParameters", .object [("from", .object [])])])])],
          .object [("uri", .text "lines"), ("actions", .object [("GET", .object [])])],
          .object [("uri", .text "customers")]])]

def stockTree : FileTree := (FileTree.mk [] []).withFile "api.json" (stock.pretty "").toUTF8

theorem check_of_clean_run_over_stock :
    ∃ d l p classes report, (LoadedDocument.load d {} "api").2 = .ok l ∧
      (generateAll l {} "api" Emitter.collecting).run [] = (p, classes) ∧
      p.summary.isClean = true ∧ Tallies l.inventory "api" p.summary classes ∧
      l.inventory = ⟨2, 3, 1, 2⟩ ∧
      (check (m := StateM FileTree) smallProject {}).run stockTree = (report, stockTree) ∧
      report.result = .ok () := by
  have clean : ((stockTree.read "api.json").toOption.any fun bytes =>
      (Document.read? bytes.data.toList).any fun d =>
        (LoadedDocument.load d {} "api").2.toOption.any fun l =>
          ((generateAll l {} "api" Emitter.collecting).run []).1.summary.isClean &&
            decide (l.inventory = ⟨2, 3, 1, 2⟩)) = true := by
    decide +kernel
  simp only [Option.any_eq_true, toOption_eq_some, Bool.and_eq_true, decide_eq_true_eq] at clean
  obtain ⟨bytes, hread, d, hd, l, hl, hclean, hinventory⟩ := clean
  obtain ⟨htallies, hcheck⟩ := check_of_clean_run smallProject hl rfl hclean
  obtain ⟨report, hreport, hresult, -⟩ := hcheck stockTree stockTree (run_loadDocument hread hd)
  exact ⟨d, l, _, _, report, hl, rfl, hclean, htallies, hinventory, hreport, hresult⟩

end Program

end ClientGen
