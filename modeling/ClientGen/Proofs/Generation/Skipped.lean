import ClientGen.Proofs.Generation.DryRun
import ClientGen.Proofs.Generation.Resources

/-! Resources without GET parameters. They are skipped, unless an earlier resource took the name of
the class that they would not have had anyway: then they are failures. -/

namespace ClientGen

namespace Generation

variable {d : Document} {loadSettings settings : Settings} {base package : String}
  {l : LoadedDocument} {resources : List Resource}

theorem mem_unmade {rs : List (Except GenError ClassDecl)} {e : GenError} (h : e ∈ unmade rs) :
    .error e ∈ rs := by
  obtain ⟨result, hresult, he⟩ := List.mem_filterMap.mp h
  cases result with
  | ok c => cases he
  | error e' =>
    cases hu : e'.unserved? with
    | none =>
      rw [Verdict.of_failure hu] at he
      obtain rfl := Option.some.inj he
      exact hresult
    | some uri =>
      rw [Verdict.of_unserved hu] at he
      cases he

theorem filter_free_eq_iff {all : List Resource} :
    (resources.filter fun r => !r.hasParameters && !r.shadowed all).map Resource.uri =
        (resources.filter fun r => !r.hasParameters).map Resource.uri ↔
      ∀ r ∈ resources, r.hasParameters = false → r.shadowed all = false := by
  have hfilter : (resources.filter fun r => !r.hasParameters && !r.shadowed all) =
      (resources.filter fun r => !r.hasParameters).filter fun r => !r.shadowed all := by
    rw [List.filter_filter]
    simp only [Bool.and_comm]
  rw [hfilter]
  constructor
  · intro h r hr hnone
    have hlength := congrArg List.length h
    rw [List.length_map, List.length_map, List.length_filter_eq_length_iff] at hlength
    have hfree := hlength r (List.mem_filter.mpr ⟨hr, by rw [hnone]; rfl⟩)
    simpa using hfree
  · intro h
    congr 1
    rw [List.filter_eq_self]
    intro r hr
    obtain ⟨hmem, hnone⟩ := List.mem_filter.mp hr
    rw [h r hmem (by simpa using hnone)]
    rfl

/-- Every resource is settled in one of three ways, each in the order of the document: it fails
where an earlier resource took the name of its class, else it is skipped if it has no GET
parameters, and else its class is handed to the emitter. The skipped ones are not all those without
GET parameters as soon as one of these fails. -/
theorem skipped_of_generateAll {σ : Type} (hl : (LoadedDocument.load d loadSettings base).2 = .ok l)
    (settings : Settings) (package : String) (emit : Emitter (StateM σ)) (w : σ) :
    ∃ p w' calls, Runs l settings package emit w p w' calls ∧
      p.summary.skipped = (d.resources.filter fun r =>
        !r.hasParameters && !r.shadowed d.resources).map Resource.uri ∧
      (∃ others, (p.summary.failed.filter fun e => e.code ≠ 6) =
          ((d.resources.filter fun r => r.shadowed d.resources).map fun r =>
            .duplicateClass (r.parametersClass package)) ++ others ∧
        ∀ e ∈ others, ∃ entry ∈ d.schemas, ∃ registry, (Task.model entry.1 entry.2).result package
          { (start l settings).session with registry := registry } = .error e) ∧
      (∃ others, calls.map Call.name =
          ((d.resources.filter fun r => r.hasParameters && !r.shadowed d.resources).map
            (Resource.parametersClass package)) ++ others ∧
        ∀ name ∈ others, ∃ entry ∈ d.schemas, name = TypeTable.modelType package entry.1) ∧
      (p.summary.skipped = (d.resources.filter fun r => !r.hasParameters).map Resource.uri ↔
        ∀ r ∈ d.resources, r.hasParameters = false → r.shadowed d.resources = false) := by
  obtain ⟨p, w', calls, hruns, hfollows, -⟩ := runs_emitter l settings package emit w
  obtain ⟨rs, ms, hresults, hresources, hmodels⟩ := resultsOf_load hl settings package
  have hskipped : p.summary.skipped = (d.resources.filter fun r =>
      !r.hasParameters && !r.shadowed d.resources).map Resource.uri := by
    rw [hfollows.skipped, hresults, unserved, List.filterMap_append, ← unserved, ← unserved,
      unserved_of_becomes hresources, unserved_of_models hmodels, List.append_nil]
  refine ⟨p, w', calls, hruns, hskipped, ⟨unmade ms, ?_, ?_⟩,
    ⟨(made ms).map ClassDecl.canonicalName, ?_, ?_⟩, ?_⟩
  · have hfailed := hfollows.failed
    rw [hresults, unmade, List.filterMap_append, ← unmade, ← unmade,
      unmade_of_becomes hresources] at hfailed
    rw [← hfailed]
    simp only [GenError.isEmission, decide_not]
  · intro e he
    exact hmodels.exists_of_mem_right (mem_unmade he)
  · have hhanded : calls.map Call.name = (calls.map Call.argument).map ClassDecl.canonicalName := by
      rw [List.map_map]
      rfl
    rw [hhanded, hfollows.handed, hresults, made, List.filterMap_append, List.map_append, ← made,
      ← made, names_of_becomes hresources]
  · intro name hname
    obtain ⟨c, hc, rfl⟩ := List.mem_map.mp hname
    obtain ⟨result, hresult, hok⟩ := List.mem_filterMap.mp hc
    rw [toOption_eq_some.mp hok] at hresult
    obtain ⟨entry, hentry, hmodel⟩ := hmodels.exists_of_mem_right hresult
    exact ⟨entry, hentry, hmodel.makes.canonicalName⟩
  · rw [hskipped]
    exact filter_free_eq_iff

def sameNameOrders : Document :=
  { schemas := []
    resources :=
      [{ uri := "/orders"
         actions := [("get",
          { queryParameters := [("page", .object [("type", .text "integer")])] })] },
        { uri := "/orders/", actions := [("post", {})] },
        { uri := "/customers" }] }

theorem skipped_of_same_name_orders :
    ∃ l p w' calls, (LoadedDocument.load sameNameOrders {} "api").2 = .ok l ∧
      Runs l {} "api" Emitter.collecting [] p w' calls ∧
      p.summary.skipped = ["/customers"] ∧
      (∃ others, calls.map Call.name = "api.parameters.OrdersParameters" :: others ∧
        ∀ name ∈ others, ∃ entry ∈ sameNameOrders.schemas,
          name = TypeTable.modelType "api" entry.1) := by
  have loads : (LoadedDocument.load sameNameOrders {} "api").2.toOption.isSome = true := by
    decide +kernel
  obtain ⟨l, hl⟩ := Option.isSome_iff_exists.mp loads
  have hload := toOption_eq_some.mp hl
  obtain ⟨p, w', calls, hruns, hskipped, -, hhanded, -⟩ :=
    skipped_of_generateAll hload {} "api" Emitter.collecting []
  have huris : (sameNameOrders.resources.filter fun r =>
      !r.hasParameters && !r.shadowed sameNameOrders.resources).map Resource.uri =
        ["/customers"] := by
    decide +kernel
  have hnames : (sameNameOrders.resources.filter fun r =>
      r.hasParameters && !r.shadowed sameNameOrders.resources).map
        (Resource.parametersClass "api") = ["api.parameters.OrdersParameters"] := by
    decide +kernel
  rw [hnames] at hhanded
  exact ⟨l, p, w', calls, hload, hruns, hskipped.trans huris, hhanded⟩

theorem unserved_resource_fails :
    ∃ l p classes, (LoadedDocument.load sameNameOrders {} "api").2 = .ok l ∧
      (generateAll l {} "api" Emitter.collecting).run [] = (p, classes) ∧
      (sameNameOrders.resources.filter fun r => !r.hasParameters).map Resource.uri =
        ["/orders/", "/customers"] ∧
      p.summary.skipped = ["/customers"] ∧
      p.summary.failed = [.duplicateClass "api.parameters.OrdersParameters"] := by
  have run : ((LoadedDocument.load sameNameOrders {} "api").2.toOption.any fun l =>
      let p := ((generateAll l {} "api" Emitter.collecting).run []).1
      decide (p.summary.skipped = ["/customers"]) &&
        decide (p.summary.failed = [.duplicateClass "api.parameters.OrdersParameters"])) = true := by
    decide +kernel
  obtain ⟨l, hload, run⟩ := exists_of_any_toOption run
  have huris : (sameNameOrders.resources.filter fun r => !r.hasParameters).map Resource.uri =
      ["/orders/", "/customers"] := by
    decide +kernel
  match hrun : (generateAll l {} "api" Emitter.collecting).run [] with
  | (p, classes) =>
    rw [hrun] at run
    simp only [Bool.and_eq_true, decide_eq_true_eq] at run
    exact ⟨l, p, classes, hload, hrun, huris, run.1, run.2⟩

end Generation

end ClientGen
