import ClientGen.Proofs.Generation.DryRun
import ClientGen.Proofs.Generation.Resources

/-! Query parameters on their way into generated classes. The class of a resource has a field for
each parameter under the first verb that reads as GET. A second spelling of the verb is another
entry of the resource, which nothing reads. -/

namespace ClientGen

namespace Generation

variable {d : Document} {loadSettings settings : Settings} {base package : String}
  {l : LoadedDocument} {rs : List (Except GenError ClassDecl)} {c : ClassDecl} {r : Resource}

theorem owner_of_result (h : List.Forall₂ (Becomes package d.resources) d.resources rs)
    (hdistinct : (d.resources.map Resource.uri).Nodup) (hc : .ok c ∈ rs)
    (hname : c.canonicalName = r.parametersClass package) :
    ∃ owner ∈ d.resources, Resource.owner? d.resources r.typeName = some owner ∧
      ∀ n, c.fields.contains n = true ↔
        ∃ q ∈ owner.getParameters, n = Naming.fieldName q.1 := by
  obtain ⟨owner, hmem, hbecomes⟩ := h.exists_of_mem_right hc
  cases hbecomes with
  | made _ free served name fields =>
    have htype : owner.typeName = r.typeName :=
      Resource.parametersClass_inj.mp (name.symm.trans hname)
    have howner := Resource.owner?_of_not_shadowed hmem hdistinct served free
    rw [htype] at howner
    exact ⟨owner, hmem, howner, fields⟩

/-- The fields of a parameters class are those of the GET parameters of the resource that owns its
name, no more and no less. A parameter has its field, under whichever verb it is declared, wherever
no other verb reads as GET. -/
theorem fields_of_generateAll {σ : Type} (hl : (LoadedDocument.load d loadSettings base).2 = .ok l)
    (settings : Settings) (package : String) (emit : Emitter (StateM σ)) (w : σ) :
    ∃ p w' calls, Runs l settings package emit w p w' calls ∧
      p.summary.generated = (calls.filterMap Call.accepted?).map ClassDecl.canonicalName ∧
      ∀ c ∈ calls.filterMap Call.accepted?, ∀ r ∈ d.resources,
        c.canonicalName = r.parametersClass package →
          ∃ owner ∈ d.resources, Resource.owner? d.resources r.typeName = some owner ∧
            (∀ n, c.fields.contains n = true ↔
              ∃ q ∈ owner.getParameters, n = Naming.fieldName q.1) ∧
            ∀ entry ∈ owner.actions, HttpMethod.parse? entry.1 = some .get →
              (∀ other ∈ owner.actions, HttpMethod.parse? other.1 = some .get → other = entry) →
                ∀ q ∈ entry.2.queryParameters,
                  c.fields.contains (Naming.fieldName q.1) = true := by
  obtain ⟨hvalid, -, -, -⟩ := LoadedDocument.load_eq_ok hl
  have hdistinct := (Document.validate_eq_ok_iff.mp hvalid).distinct
  obtain ⟨p, w', calls, hruns, hfollows, -⟩ := runs_emitter l settings package emit w
  obtain ⟨rs, ms, hresults, hresources, hmodels⟩ := resultsOf_load hl settings package
  refine ⟨p, w', calls, hruns, hfollows.generated, fun c hc r hr hname => ?_⟩
  have hmade : c ∈ made (resultsOf l settings package) := by
    obtain ⟨call, hcall, haccepted⟩ := List.mem_filterMap.mp hc
    rw [← hfollows.handed, ← Call.argument_of_accepted haccepted]
    exact List.mem_map_of_mem hcall
  obtain ⟨result, hresult, hok⟩ := List.mem_filterMap.mp hmade
  rw [toOption_eq_some.mp hok, hresults] at hresult
  rcases List.mem_append.mp hresult with hresult | hresult
  · obtain ⟨owner, hmem, howner, hfields⟩ := owner_of_result hresources hdistinct hresult hname
    refine ⟨owner, hmem, howner, hfields, fun entry hentry hverb hsingle q hq => ?_⟩
    have hparameters : owner.getParameters = entry.2.queryParameters :=
      Resource.getParameters_of_single hentry hverb hsingle
    rw [hfields]
    exact ⟨q, hparameters ▸ hq, rfl⟩
  · obtain ⟨entry, -, hmodel⟩ := hmodels.exists_of_mem_right hresult
    have hmodelName := hmodel.makes.canonicalName
    exact absurd (hname.symm.trans hmodelName) (r.parametersClass_ne_modelType package entry.1)

def customersResource : Resource :=
  { uri := "/customers"
    actions := [("Get", { queryParameters := [("name", .object [])] })] }

def spelledTwice : Document :=
  { schemas := []
    resources :=
      [{ uri := "/orders"
         actions :=
          [("GET", { queryParameters := [("page", .object [("type", .text "integer")])] }),
            ("get", { queryParameters := [("since", .object [("type", .text "date")])] })] },
        customersResource] }

theorem fields_of_spelled_twice :
    ∃ l p w' calls, (LoadedDocument.load spelledTwice {} "api").2 = .ok l ∧
      Runs l {} "api" Emitter.collecting [] p w' calls ∧
      ∃ c ∈ calls.filterMap Call.accepted?,
        c.canonicalName = "api.parameters.CustomersParameters" ∧
        c.fields.contains (Naming.fieldName "name") = true := by
  have run : ((LoadedDocument.load spelledTwice {} "api").2.toOption.any fun l =>
      ((generateAll l {} "api" Emitter.collecting).run []).1.summary.generated.contains
        "api.parameters.CustomersParameters") = true := by
    decide +kernel
  obtain ⟨l, hload, hgenerated⟩ := exists_of_any_toOption run
  obtain ⟨p, w', calls, hruns, hnames, hfields⟩ :=
    fields_of_generateAll hload {} "api" Emitter.collecting []
  rw [hruns.plain, hnames, List.contains_iff_mem] at hgenerated
  obtain ⟨c, hc, hname⟩ := List.mem_map.mp hgenerated
  have hclass : customersResource.parametersClass "api" = "api.parameters.CustomersParameters" := by
    decide +kernel
  obtain ⟨owner, hmem, howner, -, hsingle⟩ :=
    hfields c hc customersResource (by simp [spelledTwice]) (hname.trans hclass.symm)
  have huri : (Resource.owner? spelledTwice.resources customersResource.typeName).map
      Resource.uri = some "/customers" := by
    decide +kernel
  rw [howner] at huri
  have hself : owner = customersResource := by
    simp only [spelledTwice, List.mem_cons, List.not_mem_nil, or_false] at hmem
    rcases hmem with rfl | rfl
    · exact absurd huri (by decide)
    · rfl
  subst hself
  refine ⟨l, p, w', calls, hload, hruns, c, hc, hname, ?_⟩
  exact hsingle _ List.mem_cons_self (by decide)
    (fun other hother _ => List.mem_singleton.mp hother) ("name", .object []) List.mem_cons_self

theorem second_spelling_lost :
    ∃ l p classes, (LoadedDocument.load spelledTwice {} "api").2 = .ok l ∧
      (generateAll l {} "api" Emitter.collecting).run [] = (p, classes) ∧
      p.summary.isClean = true ∧
      (∃ r ∈ spelledTwice.resources, r.parametersClass "api" = "api.parameters.OrdersParameters" ∧
        ∃ entry ∈ r.actions, HttpMethod.parse? entry.1 = some .get ∧
          entry.2.queryParameters.map Prod.fst = ["since"]) ∧
      "api.parameters.OrdersParameters" ∈ p.summary.generated ∧
      ∀ c ∈ classes, c.canonicalName = "api.parameters.OrdersParameters" →
        c.fields.contains (Naming.fieldName "since") = false := by
  have run : ((LoadedDocument.load spelledTwice {} "api").2.toOption.any fun l =>
      let (p, classes) := (generateAll l {} "api" Emitter.collecting).run []
      p.summary.isClean &&
        spelledTwice.resources.any (fun r =>
          r.parametersClass "api" == "api.parameters.OrdersParameters" &&
            r.actions.any fun entry => HttpMethod.parse? entry.1 == some .get &&
              entry.2.queryParameters.map Prod.fst == ["since"]) &&
        p.summary.generated.contains "api.parameters.OrdersParameters" &&
        classes.all fun c => c.canonicalName != "api.parameters.OrdersParameters" ||
          !c.fields.contains (Naming.fieldName "since")) = true := by
    decide +kernel
  obtain ⟨l, hload, run⟩ := exists_of_any_toOption run
  match hrun : (generateAll l {} "api" Emitter.collecting).run [] with
  | (p, classes) =>
    rw [hrun] at run
    simp only [Bool.and_eq_true, List.contains_iff_mem, List.any_eq_true, List.all_eq_true,
      beq_iff_eq] at run
    obtain ⟨⟨⟨clean, hdeclared⟩, hgenerated⟩, hmissing⟩ := run
    refine ⟨l, p, classes, hload, hrun, clean, hdeclared, hgenerated, ?_⟩
    intro c hc hname
    have hnone := hmissing c hc
    rw [hname] at hnone
    simpa using hnone

end Generation

end ClientGen
