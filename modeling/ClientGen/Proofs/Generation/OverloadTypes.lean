import ClientGen.Proofs.Document.GetParameters
import ClientGen.Proofs.Generation.CleanRun
import ClientGen.Proofs.Generation.Overloads

/-! Which parameters classes the explicit overloads of a run refer to. Every relation has its
explicit overload, and so a reference to the parameters class of a type name; the class is there
just where a resource of that type name has GET parameters. -/

namespace ClientGen

namespace Generation

variable {d : Document} {loadSettings settings : Settings} {base package : String}
  {l : LoadedDocument} {p : Progress} {classes : List ClassDecl} {c : ClassDecl}

theorem task_of_modelClass (h : Collected package (start l settings).session l.tasks p classes)
    (hc : c ∈ modelClasses package classes) :
    ∃ entry ∈ l.document.schemas,
      (Task.model entry.1 entry.2).Makes package (start l settings).session c := by
  obtain ⟨hmem, hpackage⟩ := List.mem_filter.mp hc
  obtain ⟨t, ht, hmakes⟩ := h.made c hmem
  cases t with
  | parameters service =>
    have hpackage : c.packageName = package ++ "." ++ modelPackage := of_decide_eq_true hpackage
    exact absurd (hmakes.concerns.1.symm.trans hpackage) (parameters_ne_model package)
  | model name schema =>
    exact ⟨(name, schema), LoadedDocument.model_mem_tasks.mp ht, hmakes⟩

theorem generated_parametersClass_iff (hl : (LoadedDocument.load d loadSettings base).2 = .ok l)
    (h : Collected package (start l settings).session l.tasks p classes)
    (clean : p.summary.isClean = true) (segment : String) :
    Navigation.parametersClass package segment ∈ p.summary.generated ↔
      ∃ r ∈ d.resources, r.hasParameters = true ∧ r.typeName = Naming.typeName segment := by
  obtain ⟨-, -, -, hservices⟩ := LoadedDocument.load_eq_ok hl
  have hname : ∀ service : Service,
      Navigation.parametersClass package segment = ParametersClass.canonicalName package service ↔
        Naming.typeName segment = service.typeName := fun service => parametersClass_eq_iff
  rw [h.names, List.mem_map]
  constructor
  · rintro ⟨c, hc, hcanonical⟩
    obtain ⟨t, ht, hmakes⟩ := h.made c hc
    have htask := hmakes.canonicalName.symm.trans hcanonical
    cases t with
    | parameters service =>
      have hservice := LoadedDocument.parameters_mem_tasks.mp ht
      obtain ⟨r, hr, hof⟩ := hservices.exists_of_mem_right hservice
      refine ⟨r, hr, ?_, ?_⟩
      · rw [← hof.hasParameters]
        exact hmakes.hasParameters
      · rw [← hof.typeName]
        exact ((hname service).mp htask.symm).symm
    | model name schema =>
      have hservice := (hname { uri := segment }).mpr rfl
      have hmodel : TypeTable.modelType package name =
        Navigation.parametersClass package segment := htask
      exact absurd (hservice.symm.trans hmodel.symm)
        (ParametersClass.canonicalName_ne_modelType package _ name)
  · rintro ⟨r, hr, hserved, htype⟩
    obtain ⟨service, hservice, hof⟩ := hservices.exists_of_mem_left hr
    obtain ⟨c, hc, hmakes⟩ :=
      h.parametersClass clean hservice (hof.hasParameters.trans hserved)
    have hcanonical : Navigation.parametersClass package segment =
        ParametersClass.canonicalName package service :=
      (hname service).mpr (hof.typeName.trans htype).symm
    exact ⟨c, hc, hmakes.canonicalName.trans hcanonical.symm⟩

theorem overloads_of_relations {s : Session} {entity : String} {m : ModelSchema}
    (h : ModelClass.Made s package entity m c) :
    ∃ pairs, List.Forall₂ (ModelClass.OverloadsOf s package c) m.relations pairs ∧
      ModelClass.navigationMethods c = pairs.flatMap fun q => [q.derived, q.explicit] := by
  obtain ⟨pairs, hpairs, hmethods⟩ := ModelClass.exists_overloads h.paths
  exact ⟨pairs, hpairs, h.navigationMethods_eq.trans hmethods⟩

/-- After a clean run every relation of a model class has its two overloads. Unless the path leads to
a nested resource, what the explicit one takes is an instance of the parameters class of the last
segment's type name, which is the type name of the resource that the path leads to, if any; and this
class was generated just where a resource of the type name has GET parameters. -/
theorem overload_types_of_clean (hl : (LoadedDocument.load d loadSettings base).2 = .ok l)
    (hrun : (generateAll l settings package Emitter.collecting).run [] = (p, classes))
    (clean : p.summary.isClean = true) :
    ∀ c ∈ modelClasses package classes, ∃ entry ∈ d.schemas, ∃ m,
      (Task.model entry.1 entry.2).Makes package (start l settings).session c ∧
      ModelSchema.read entry.1 entry.2 = .ok m ∧
      (∃ pairs,
        List.Forall₂ (ModelClass.OverloadsOf (start l settings).session package c) m.relations
          pairs ∧
        ModelClass.navigationMethods c = pairs.flatMap fun q => [q.derived, q.explicit]) ∧
      ∀ relation ∈ m.relations, ∃ path last parameter,
        Overloads (start l settings).session package c relation path parameter ∧
        path.getLast? = some last ∧
        ((∀ r, Service.select? l.services path = some r → ¬ r.Nested path) →
          parameter.type = Navigation.parametersClass package last ∧
          (∀ r, Service.select? l.services path = some r →
            parameter.type = ParametersClass.canonicalName package r) ∧
          (parameter.type ∈ p.summary.generated ↔ ∃ r ∈ d.resources,
            r.hasParameters = true ∧ r.typeName = Naming.typeName last)) := by
  obtain ⟨-, hdocument, -, -⟩ := LoadedDocument.load_eq_ok hl
  have hcollected := collected_of_run hrun
  intro c hc
  obtain ⟨entry, hentry, hmakes⟩ := task_of_modelClass hcollected hc
  obtain ⟨m, hm, hmade⟩ := hmakes.model
  refine ⟨entry, hdocument ▸ hentry, m, hmakes, hm, overloads_of_relations hmade,
    fun relation hrelation => ?_⟩
  obtain ⟨path, last, hlast, hoverloads⟩ := overloads_of_made hmade hrelation
  refine ⟨path, last, _, hoverloads, hlast, fun hplain => ⟨rfl, fun r hr => ?_, ?_⟩⟩
  · exact parametersClass_eq_iff.mpr ((Service.typeName_last_eq_iff hlast hr).mpr (hplain r hr))
  · exact generated_parametersClass_iff hl hcollected clean last

def plainOrders : Document :=
  { schemas :=
      [("customer", .object
          [("$linkedData", .object
            [("orders", .array [.text "Orders"]), ("items", .array [.text "Items"])])])]
    resources :=
      [{ uri := "/orders", actions := [("get", {})] },
        { uri := "/items"
          actions := [("get", { queryParameters := [("page", .object [])] })] }] }

theorem paths_of_plain_orders : ∀ entry ∈ plainOrders.schemas, ∀ relation ∈ linkedData entry.2,
    (ModelClass.path? relation.2).all (fun path => path.length == 1) = true := by
  decide +kernel

theorem overload_types_of_plain_orders :
    ∃ l p classes, (LoadedDocument.load plainOrders {} "api").2 = .ok l ∧
      (generateAll l {} "api" Emitter.collecting).run [] = (p, classes) ∧
      p.summary.isClean = true ∧
      ∀ c ∈ modelClasses "api" classes, ∃ entry ∈ plainOrders.schemas, ∃ m,
        ModelSchema.read entry.1 entry.2 = .ok m ∧
        (∃ pairs,
          List.Forall₂ (ModelClass.OverloadsOf (start l {}).session "api" c) m.relations pairs ∧
          ModelClass.navigationMethods c = pairs.flatMap fun q => [q.derived, q.explicit]) ∧
        ∀ relation ∈ m.relations, ∃ path last parameter,
          Overloads (start l {}).session "api" c relation path parameter ∧
          path.getLast? = some last ∧
          parameter.type = Navigation.parametersClass "api" last ∧
          (parameter.type ∈ p.summary.generated ↔ ∃ r ∈ plainOrders.resources,
            r.hasParameters = true ∧ r.typeName = Naming.typeName last) := by
  have clean : ((LoadedDocument.load plainOrders {} "api").2.toOption.any fun l =>
      ((generateAll l {} "api" Emitter.collecting).run []).1.summary.isClean) = true := by
    decide +kernel
  obtain ⟨l, hload, clean⟩ := exists_of_any_toOption clean
  refine ⟨l, _, _, hload, rfl, clean, fun c hc => ?_⟩
  obtain ⟨entry, hentry, m, -, hm, hmethods, hrelations⟩ :=
    overload_types_of_clean hload rfl clean c hc
  refine ⟨entry, hentry, m, hm, hmethods, fun relation hrelation => ?_⟩
  obtain ⟨path, last, parameter, hoverloads, hlast, htype⟩ := hrelations relation hrelation
  have hlength : path.length = 1 := by
    have hrelations : m.relations = linkedData entry.2 := (ModelSchema.read_eq_ok hm).2
    have hone := paths_of_plain_orders entry hentry relation (hrelations ▸ hrelation)
    rw [hoverloads.path] at hone
    simpa using hone
  -- a path of one segment leads to no nested resource
  obtain ⟨htype, -, hgenerated⟩ := htype fun r _ hnested => by
    obtain ⟨segment, hsegment, -⟩ := hnested.2
    have hpositive := List.length_pos_of_mem hsegment
    rw [List.length_dropLast, hlength] at hpositive
    omega
  exact ⟨path, last, parameter, hoverloads, hlast, htype, hgenerated⟩

theorem overload_type_missing :
    ∃ l p classes, (LoadedDocument.load plainOrders {} "api").2 = .ok l ∧
      (generateAll l {} "api" Emitter.collecting).run [] = (p, classes) ∧
      p.summary.isClean = true ∧
      ∃ c ∈ modelClasses "api" classes, ∃ method ∈ ModelClass.navigationMethods c,
        ∃ q ∈ method.parameters, q.type = "api.parameters.OrdersParameters" ∧
          q.type ∉ p.summary.generated := by
  have run : ((LoadedDocument.load plainOrders {} "api").2.toOption.any fun l =>
      let (p, classes) := (generateAll l {} "api" Emitter.collecting).run []
      p.summary.isClean && (modelClasses "api" classes).any fun c =>
        (ModelClass.navigationMethods c).any fun method => method.parameters.any fun q =>
          q.type == "api.parameters.OrdersParameters" &&
            !p.summary.generated.contains q.type) = true := by
    decide +kernel
  obtain ⟨l, hload, run⟩ := exists_of_any_toOption run
  match hrun : (generateAll l {} "api" Emitter.collecting).run [] with
  | (p, classes) =>
    rw [hrun] at run
    refine ⟨l, p, classes, hload, hrun, ?_⟩
    simpa only [Bool.and_eq_true, Bool.not_eq_true', List.contains_iff_mem, ← Bool.not_eq_true,
      List.any_eq_true, beq_iff_eq] using run

end Generation

end ClientGen
