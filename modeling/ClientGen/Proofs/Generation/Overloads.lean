import ClientGen.Proofs.Generation.References
import ClientGen.Proofs.Service.Selection

/-! The parameters object of an explicit overload. Its type is named after the last segment of the
path alone, while the resource that the path leads to may have the whole path for its URI, and then
its parameters class is named after all of it. The two agree just where no earlier segment
counts. -/

namespace ClientGen

namespace Generation

variable {d : Document} {settings : Settings} {base : String} {l : LoadedDocument} {p : Progress}
  {classes : List ClassDecl}

theorem parametersClass_eq_iff {segment typeName : String} :
    Navigation.parametersClass base segment =
        base ++ "." ++ parametersPackage ++ "." ++ (typeName ++ "Parameters") ↔
      Naming.typeName segment = typeName := by
  simp only [Navigation.parametersClass, String.append_assoc, String.append_right_inj,
    String.append_left_inj]

theorem parametersClass_eq_canonicalName_iff {s : Session} {r : Service} {o : ClassDecl}
    {path : List String} {last : String} (hlast : path.getLast? = some last)
    (hr : Service.select? l.services path = some r) (ho : (Task.parameters r).Makes base s o) :
    (Navigation.parametersArgument base last).type = o.canonicalName ↔ ¬ r.Nested path := by
  obtain ⟨hpackage, hclass⟩ := ho.concerns
  rw [← Service.typeName_last_eq_iff hlast hr, ClassDecl.canonicalName, hpackage, hclass]
  exact parametersClass_eq_iff

/-- The class has the explicit overload of the relation, which leads over the path and takes the
parameter. -/
structure Overloads (s : Session) (base : String) (c : ClassDecl) (relation : String × Json)
    (path : List String) (parameter : Field) : Prop where
  path : ModelClass.path? relation.2 = some path
  method : ∃ pair, ModelClass.pairAt s base c.fields.toList relation = some pair ∧
    pair.explicit ∈ c.methods ∧ pair.explicit.parameters = [parameter]

theorem overloads_of_made {s : Session} {entity : String} {m : ModelSchema} {c : ClassDecl}
    (h : ModelClass.Made s base entity m c) {relation : String × Json}
    (hrelation : relation ∈ m.relations) :
    ∃ path last, path.getLast? = some last ∧
      Overloads s base c relation path (Navigation.parametersArgument base last) := by
  obtain ⟨pair, hpair⟩ := Option.isSome_iff_exists.mp (h.paths relation hrelation)
  have hexplicit : pair.explicit ∈ c.methods := by
    rw [h.methods]
    refine List.mem_append_right _ (List.mem_flatMap.mpr ⟨relation, hrelation, ?_⟩)
    exact ModelClass.mem_navigation.mpr ⟨pair, hpair, .inr rfl⟩
  obtain ⟨path, last, hpath, hlast, rfl⟩ := ModelClass.pairAt_eq_some hpair
  exact ⟨path, last, hlast, hpath, _, hpair, hexplicit, rfl⟩

/-- After a clean run every relation has its explicit overload. Where the resource at the end of the
path has GET parameters, its parameters class was generated, and the overload takes an instance of
that class just where the resource is not nested. -/
theorem explicit_parameter_of_clean (hl : (LoadedDocument.load d settings base).2 = .ok l)
    (hrun : (generateAll l settings base Emitter.collecting).run [] = (p, classes))
    (clean : p.summary.isClean = true) {entry : String × Json} (hentry : entry ∈ d.schemas) :
    ∃ c ∈ classes, ∃ m, (Task.model entry.1 entry.2).Makes base (start l settings).session c ∧
      ModelSchema.read entry.1 entry.2 = .ok m ∧
      ∀ relation ∈ m.relations, ∃ path parameter,
        Overloads (start l settings).session base c relation path parameter ∧
        ∀ r, Service.select? l.services path = some r → r.hasParameters = true →
          ∃ o ∈ classes, (Task.parameters r).Makes base (start l settings).session o ∧
            (parameter.type = o.canonicalName ↔ ¬ r.Nested path) := by
  obtain ⟨-, hdocument, -, -⟩ := LoadedDocument.load_eq_ok hl
  have hcollected := collected_of_run hrun
  obtain ⟨c, hc, hmade⟩ := hcollected.modelClass clean (hdocument ▸ hentry)
  obtain ⟨m, hm, hshape⟩ := hmade.model
  refine ⟨c, hc, m, hmade, hm, fun relation hrelation => ?_⟩
  obtain ⟨path, last, hlast, hoverloads⟩ := overloads_of_made hshape hrelation
  refine ⟨path, _, hoverloads, fun r hr hparameters => ?_⟩
  obtain ⟨hmem, -⟩ := Service.select?_eq_some hlast hr
  obtain ⟨o, ho, hmakes⟩ := hcollected.parametersClass clean hmem hparameters
  exact ⟨o, ho, hmakes, parametersClass_eq_canonicalName_iff hlast hr hmakes⟩

def customerOrders : Document :=
  { schemas :=
      [("order", .object []),
        ("customer", .object
          [("properties", .object [("customerId", .object [("type", .text "integer")])]),
            ("$linkedData", .object
              [("orders", .array [.text "Customers/{customerId}", .text "Orders"]),
                ("all", .array [.text "orders/all"])])])]
    resources := ["/customers/{customerId}/orders", "/orders/all"].map fun uri =>
      { uri
        actions := [("get",
          { queryParameters := [("since", .object [("type", .text "date")])]
            responses := some ⟨some "order", none⟩ })] } }

theorem explicit_parameter_of_customer_orders :
    ∃ l p classes, (LoadedDocument.load customerOrders {} "api").2 = .ok l ∧
      (generateAll l {} "api" Emitter.collecting).run [] = (p, classes) ∧
      p.summary.isClean = true ∧ ∀ entry ∈ customerOrders.schemas, ∃ c ∈ classes, ∃ m,
        ModelSchema.read entry.1 entry.2 = .ok m ∧
        ∀ relation ∈ m.relations, ∃ path parameter,
          Overloads (start l {}).session "api" c relation path parameter ∧
          ∀ r, Service.select? l.services path = some r → r.hasParameters = true →
            ∃ o ∈ classes, (parameter.type = o.canonicalName ↔ ¬ r.Nested path) := by
  have clean : ((LoadedDocument.load customerOrders {} "api").2.toOption.any fun l =>
      ((generateAll l {} "api" Emitter.collecting).run []).1.summary.isClean) = true := by
    decide +kernel
  rw [Option.any_eq_true] at clean
  obtain ⟨l, hl, clean⟩ := clean
  rw [toOption_eq_some] at hl
  refine ⟨l, _, _, hl, rfl, clean, fun entry hentry => ?_⟩
  obtain ⟨c, hc, m, -, hm, hrelations⟩ := explicit_parameter_of_clean hl rfl clean hentry
  refine ⟨c, hc, m, hm, fun relation hrelation => ?_⟩
  obtain ⟨path, parameter, hoverloads, hparameter⟩ := hrelations relation hrelation
  refine ⟨path, parameter, hoverloads, fun r hr hparameters => ?_⟩
  obtain ⟨o, ho, -, hiff⟩ := hparameter r hr hparameters
  exact ⟨o, ho, hiff⟩

theorem nested_parameters_class_missing :
    ∃ l p classes, (LoadedDocument.load customerOrders {} "api").2 = .ok l ∧
      (generateAll l {} "api" Emitter.collecting).run [] = (p, classes) ∧
      p.summary.isClean = true ∧
      (∃ r, Service.select? l.services ["Customers/{customerId}", "Orders"] = some r ∧
        r.hasParameters = true ∧ r.typeName = "CustomersCustomerIdOrders") ∧
      "api.parameters.CustomersCustomerIdOrdersParameters" ∈ p.summary.generated ∧
      "api.parameters.OrdersParameters" ∉ p.summary.generated ∧
      ∃ c ∈ classes, c.canonicalName = "api.model.Customer" ∧
        ∃ m ∈ c.methods, m.name = "getOrders" ∧
          m.parameters.map Field.type = ["api.parameters.OrdersParameters"] := by
  have run : ((LoadedDocument.load customerOrders {} "api").2.toOption.any fun l =>
      let (p, classes) := (generateAll l {} "api" Emitter.collecting).run []
      p.summary.isClean &&
        (Service.select? l.services ["Customers/{customerId}", "Orders"]).any (fun r =>
          r.hasParameters && r.typeName == "CustomersCustomerIdOrders") &&
        p.summary.generated.contains "api.parameters.CustomersCustomerIdOrdersParameters" &&
        !p.summary.generated.contains "api.parameters.OrdersParameters" &&
        classes.any fun c => c.canonicalName == "api.model.Customer" &&
          c.methods.any fun m => m.name == "getOrders" &&
            m.parameters.map Field.type == ["api.parameters.OrdersParameters"]) = true := by
    decide +kernel
  rw [Option.any_eq_true] at run
  obtain ⟨l, hl, run⟩ := run
  rw [toOption_eq_some] at hl
  match hrun : (generateAll l {} "api" Emitter.collecting).run [] with
  | (p, classes) =>
    rw [hrun] at run
    refine ⟨l, p, classes, hl, hrun, ?_⟩
    simpa only [Bool.and_eq_true, Bool.not_eq_true', List.contains_iff_mem, ← Bool.not_eq_true,
      Option.any_eq_true, List.any_eq_true, beq_iff_eq, and_assoc] using run

end Generation

end ClientGen
