import ClientGen.Proofs.Document.Order
import ClientGen.Proofs.Generation.Handing

/-! Runs over the same document in another order. Three rules let the first one win: for the
response at the end of a path, for the name of a class, and for the target of a type. Where no two
resources and no two schemas share a name, none of them shows. -/

namespace ClientGen

structure LoadedDocument.Distinct (l : LoadedDocument) : Prop where
  services : (l.services.map Service.typeName).Nodup
  schemas : (l.document.schemas.map fun entry => Naming.capitalize entry.1).Nodup

namespace LoadedDocument

variable {l l' : LoadedDocument} {d : Document}

theorem Distinct.nodup_canonicalName (h : l.Distinct) (package : String) :
    (l.tasks.map (Task.canonicalName package)).Nodup := by
  have hservices : ((l.services.map Task.parameters).map (Task.canonicalName package)).Nodup := by
    rw [List.map_map, List.nodup_iff_pairwise_ne, List.pairwise_map]
    have := List.pairwise_map.mp (List.nodup_iff_pairwise_ne.mp h.services)
    exact this.imp (fun hne heq => hne (ParametersClass.canonicalName_inj.mp heq))
  have hschemas : ((l.document.schemas.map fun entry => Task.model entry.1 entry.2).map
      (Task.canonicalName package)).Nodup := by
    rw [List.map_map, List.nodup_iff_pairwise_ne, List.pairwise_map]
    have := List.pairwise_map.mp (List.nodup_iff_pairwise_ne.mp h.schemas)
    exact this.imp (fun hne heq => hne (TypeTable.modelType_inj.mp heq))
  rw [tasks, List.map_append, List.nodup_append]
  refine ⟨hservices, hschemas, ?_⟩
  intro name hname other hother heq
  obtain ⟨_, hservice, rfl⟩ := List.mem_map.mp hname
  obtain ⟨service, -, rfl⟩ := List.mem_map.mp hservice
  obtain ⟨_, hschema, rfl⟩ := List.mem_map.mp hother
  obtain ⟨entry, -, rfl⟩ := List.mem_map.mp hschema
  exact ParametersClass.canonicalName_ne_modelType package service entry.1 heq

theorem Reordered.perm_tasks (h : Reordered d l l') (hschemas : d.schemas.Perm l.document.schemas) :
    l'.tasks.Perm l.tasks := by
  rw [tasks, tasks, h.document]
  exact (h.services.map _).append (hschemas.map _)

theorem Reordered.distinct (h : Reordered d l l') (hschemas : d.schemas.Perm l.document.schemas)
    (hl : l.Distinct) : l'.Distinct := by
  refine ⟨(h.services.map _).nodup_iff.mpr hl.services, ?_⟩
  rw [h.document]
  exact (hschemas.map _).nodup_iff.mpr hl.schemas

end LoadedDocument

namespace Generation

variable {l l' : LoadedDocument} {d : Document} {settings : Settings} {package : String}

theorem resultsOf_of_distinct (h : l.Distinct) (settings : Settings) (package : String) :
    resultsOf l settings package =
      l.tasks.map (Task.result package (start l settings).session) :=
  results_of_distinct (h.nodup_canonicalName package) (fun _ _ => rfl)

theorem resultsOf_perm (h : LoadedDocument.Reordered d l l')
    (hschemas : d.schemas.Perm l.document.schemas) (hl : l.Distinct) (settings : Settings)
    (package : String) :
    (resultsOf l' settings package).Perm (resultsOf l settings package) := by
  have halike : (start l' settings).session.Alike (start l settings).session :=
    ⟨rfl, h.resolve, Service.responseAt_perm h.services hl.services⟩
  have hresult : Task.result package (start l' settings).session =
      Task.result package (start l settings).session :=
    funext fun _ => Task.result_congr halike rfl
  rw [resultsOf_of_distinct hl, resultsOf_of_distinct (h.distinct hschemas hl), hresult]
  exact (h.perm_tasks hschemas).map _

/-- A document with distinct names may be put in any order: it is accepted again, and what is
generated, skipped and failed is the same but for the order. -/
theorem generateAll_of_reordered {loadSettings : Settings} {base : String}
    (hl : (LoadedDocument.load d loadSettings base).2 = .ok l)
    (hresources : (d.resources.map fun r => Naming.typeName r.uri).Nodup)
    (hschemas : (d.schemas.map fun entry => Naming.capitalize entry.1).Nodup)
    {resources : List Resource} {schemas : List (String × Json)}
    (hpermuted : resources.Perm d.resources ∧ schemas.Perm d.schemas)
    (settings : Settings) (package : String) :
    ∃ l', (LoadedDocument.load { d with schemas := schemas, resources := resources }
        loadSettings base).2 = .ok l' ∧
      ∃ p classes p' classes',
        (generateAll l settings package Emitter.collecting).run [] = (p, classes) ∧
        (generateAll l' settings package Emitter.collecting).run [] = (p', classes') ∧
        classes'.Perm classes ∧ p'.summary.generated.Perm p.summary.generated ∧
        p'.summary.skipped.Perm p.summary.skipped ∧ p'.summary.failed.Perm p.summary.failed := by
  obtain ⟨-, hdocument, -, -⟩ := LoadedDocument.load_eq_ok hl
  have hdistinct : l.Distinct := by
    refine ⟨?_, hdocument ▸ hschemas⟩
    have htypeNames : l.services.map Service.typeName =
        (l.services.map Service.uri).map Naming.typeName := List.map_map.symm
    rw [htypeNames, LoadedDocument.uris_of_load hl, List.map_map]
    exact hresources
  obtain ⟨l', hl', hreordered⟩ := LoadedDocument.load_of_perm hl hpermuted.2 hpermuted.1
  have hresults := resultsOf_perm hreordered (hdocument ▸ hpermuted.2) hdistinct settings package
  match hrun : (generateAll l settings package Emitter.collecting).run [],
    hrun' : (generateAll l' settings package Emitter.collecting).run [] with
  | (p, classes), (p', classes') =>
    have hp := collects_of_run hrun
    have hp' := collects_of_run hrun'
    have hclasses : classes'.Perm classes := by
      rw [hp.collected, hp'.collected]
      exact hresults.filterMap _
    refine ⟨l', hl', p, classes, p', classes', rfl, hrun', hclasses, ?_, ?_, ?_⟩
    · rw [hp.generated, hp'.generated]
      exact hclasses.map _
    · rw [hp.skipped, hp'.skipped]
      exact hresults.filterMap _
    · rw [hp.failed, hp'.failed]
      exact hresults.filterMap _

def ordersAndParts : Document :=
  { schemas :=
      [("order", .object
          [("properties", .object [("part", .object [("$ref", .text "part")])]),
            ("$linkedData", .object [("parts", .array [.text "orders", .text "parts"])])]),
        ("part", .object [("properties", .text "none")]),
        ("line item", .object [])]
    resources :=
      [{ uri := "/orders/parts"
         actions := [("GET",
          { queryParameters := [("since", .object [("type", .text "date")])]
            responses := some ⟨some "part", none⟩ })] },
        { uri := "/parts", actions := [("post", {})] }] }

theorem generateAll_of_reversed_orders :
    ∃ l l' p classes p' classes', (LoadedDocument.load ordersAndParts {} "api").2 = .ok l ∧
      (LoadedDocument.load { ordersAndParts with
        schemas := ordersAndParts.schemas.reverse
        resources := ordersAndParts.resources.reverse } {} "api").2 = .ok l' ∧
      (generateAll l {} "api" Emitter.collecting).run [] = (p, classes) ∧
      (generateAll l' {} "api" Emitter.collecting).run [] = (p', classes') ∧
      classes'.Perm classes ∧ p'.summary.skipped.Perm p.summary.skipped ∧
      p'.summary.failed.Perm p.summary.failed := by
  have loaded : (LoadedDocument.load ordersAndParts {} "api").2.toOption.isSome = true := by
    decide +kernel
  simp only [Option.isSome_iff_exists, toOption_eq_some] at loaded
  obtain ⟨l, hl⟩ := loaded
  obtain ⟨l', hl', p, classes, p', classes', hrun, hrun', hclasses, -, hskipped, hfailed⟩ :=
    generateAll_of_reordered hl (by decide +kernel) (by decide +kernel)
      ⟨List.reverse_perm _, List.reverse_perm _⟩ {} "api"
  exact ⟨l, l', p, classes, p', classes', hl, hl', hrun, hrun', hclasses, hskipped, hfailed⟩

end Generation

end ClientGen
