import ClientGen.Proofs.Generation.Trace
import ClientGen.Proofs.Navigation.Inference
import ClientGen.Proofs.TypeTable.Targets

/-! The types that generated classes refer to. A clean run leaves no reference open: whatever a
field, an accessor or a navigation method names is a type of the target language, an override, or
a model class of the same run. -/

namespace ClientGen

namespace Task

variable {package name : String} {s : Session} {t : Task} {c : ClassDecl}

theorem Makes.model {schema : Json} (h : (Task.model name schema).Makes package s c) :
    ∃ m, ModelSchema.read name schema = .ok m ∧ ModelClass.Made s package name m c := by
  obtain ⟨registry, s', events, hrun⟩ := h
  obtain ⟨m, hm, hc⟩ := ModelClass.made_of_parse hrun
  exact ⟨m, hm, hc.head, hc.declared, hc.covered, hc.methods, hc.paths⟩

theorem Makes.parameters {service : Service} (h : (Task.parameters service).Makes package s c) :
    ParametersClass.Made s package service c := by
  obtain ⟨registry, s', events, hrun⟩ := h
  have hc := ParametersClass.made_of_parse hrun
  exact ⟨hc.head, hc.declared, hc.methods⟩

theorem Makes.canonicalName_model {schema : Json}
    (h : (Task.model name schema).Makes package s c) :
    c.canonicalName = TypeTable.modelType package name := by
  obtain ⟨hpackage, hclass⟩ := h.concerns
  rw [ClassDecl.canonicalName, hpackage, hclass, TypeTable.modelType]

def accessors : Task → ClassDecl → List Method
  | parameters _, c => ParametersClass.accessors c
  | model .., c => ModelClass.accessors c

def navigation (t : Task) (c : ClassDecl) : List Method := c.methods.drop (t.accessors c).length

theorem Makes.methods (h : t.Makes package s c) :
    c.methods = t.accessors c ++ t.navigation c := by
  cases t with
  | parameters service =>
    rw [navigation, accessors, h.parameters.methods, List.drop_length, List.append_nil]
  | model name schema =>
    obtain ⟨m, -, hc⟩ := h.model
    exact hc.methods_eq

theorem type_of_accessor (t : Task) {m : Method} (hm : m ∈ t.accessors c) {q : Field}
    (hq : q ∈ m.parameters) : ∃ f ∈ c.fields.toList, q.type = f.type := by
  cases t with
  | parameters service =>
    obtain ⟨f, hf, hm⟩ := List.mem_flatMap.mp hm
    have hm : m = .getter f ∨ m = .fluent c.className f := by simpa using hm
    rcases hm with rfl | rfl
    · simp [Method.getter] at hq
    · obtain rfl := List.mem_singleton.mp hq
      exact ⟨f, hf, rfl⟩
  | model name schema =>
    obtain ⟨f, hf, hm⟩ := List.mem_flatMap.mp hm
    have hm : m = .getter f ∨ m = .setter f ∨ m = .fluent c.className f := by
      simpa [accessorsOf] using hm
    rcases hm with rfl | rfl | rfl
    · simp [Method.getter] at hq
    · obtain rfl := List.mem_singleton.mp hq
      exact ⟨f, hf, rfl⟩
    · obtain rfl := List.mem_singleton.mp hq
      exact ⟨f, hf, rfl⟩

theorem Makes.returnType (h : t.Makes package s c) {m : Method} (hm : m ∈ t.navigation c) :
    ∃ path, m.returnType = some (s.typeAt path) := by
  cases t with
  | parameters service =>
    rw [navigation, accessors, h.parameters.methods, List.drop_length] at hm
    simp at hm
  | model name schema =>
    obtain ⟨n, -, hc⟩ := h.model
    change m ∈ ModelClass.navigationMethods c at hm
    rw [hc.navigationMethods_eq] at hm
    obtain ⟨relation, -, hm⟩ := List.mem_flatMap.mp hm
    obtain ⟨pair, hpair, hm⟩ := ModelClass.mem_navigation.mp hm
    obtain ⟨path, last, -, -, rfl⟩ := ModelClass.pairAt_eq_some hpair
    exact ⟨path, by rcases hm with rfl | rfl <;> rfl⟩

end Task

namespace Generation

def modelClasses (base : String) (classes : List ClassDecl) : List ClassDecl :=
  classes.filter fun c => c.packageName = base ++ "." ++ modelPackage

inductive Known (settings : Settings) (base : String) (classes : List ClassDecl) : String → Prop
  | builtin (entry : String × String) (h : entry ∈ TypeTable.primitives) :
    Known settings base classes entry.2
  | override (entry : String × String) (h : entry ∈ settings.typeOverrides) :
    Known settings base classes entry.2
  | fallback : Known settings base classes genericType
  | model (c : ClassDecl) (h : c ∈ modelClasses base classes) :
    Known settings base classes c.canonicalName

structure Refers (known : String → Prop) (t : Task) (c : ClassDecl) : Prop where
  methods : c.methods = t.accessors c ++ t.navigation c
  fields : ∀ f ∈ c.fields.toList, TypeTable.ListOrOne known f.type
  values : ∀ m ∈ t.accessors c, ∀ q ∈ m.parameters, TypeTable.ListOrOne known q.type
  results : ∀ m ∈ t.navigation c, ∃ type, m.returnType = some type ∧ known type

variable {d : Document} {settings : Settings} {base : String} {l : LoadedDocument}
  {known : String → Prop} {t : Task} {c : ClassDecl}

theorem type_of_field (hl : (LoadedDocument.load d settings base).2 = .ok l)
    (ht : t ∈ l.tasks) (h : t.Makes base (start l settings).session c) {f : Field}
    (hf : f ∈ c.fields.toList) : ∃ property, f.type = (l.types.propertyType property).1 := by
  cases t with
  | parameters service =>
    have hservice := LoadedDocument.parameters_mem_tasks.mp ht
    obtain ⟨action, haction, parameter, hparameter, rfl⟩ := h.parameters.declared f hf
    obtain ⟨_, _, property, hproperty⟩ :=
      LoadedDocument.declared_of_load hl hservice haction hparameter
    obtain ⟨-, -, rfl⟩ := TypeTable.propertyField_eq_ok hproperty
    exact ⟨property, rfl⟩
  | model name schema =>
    obtain ⟨m, -, hc⟩ := h.model
    obtain ⟨entry, -, hentry⟩ := hc.declared f hf
    obtain ⟨-, -, rfl⟩ := TypeTable.propertyField_eq_ok hentry
    exact ⟨entry.2, rfl⟩

theorem refers_of_makes (hl : (LoadedDocument.load d settings base).2 = .ok l)
    (hleads : l.types.Leads known) (hgeneric : known genericType) (ht : t ∈ l.tasks)
    (h : t.Makes base (start l settings).session c) : Refers known t c := by
  have hfields : ∀ f ∈ c.fields.toList, TypeTable.ListOrOne known f.type := by
    intro f hf
    obtain ⟨property, hproperty⟩ := type_of_field hl ht h hf
    rw [hproperty]
    exact hleads.propertyType hgeneric property
  refine ⟨h.methods, hfields, ?_, ?_⟩
  · intro m hm q hq
    obtain ⟨f, hf, htype⟩ := t.type_of_accessor hm hq
    rw [htype]
    exact hfields f hf
  · intro m hm
    obtain ⟨path, hpath⟩ := h.returnType hm
    refine ⟨_, hpath, ?_⟩
    unfold Session.typeAt
    cases (start l settings).session.responseAt path with
    | none => exact hgeneric
    | some response => exact hleads.resolve hgeneric response.schema

/-- After a clean run every schema stands for its own model class, and the classes refer to each
other, to overrides and to types of the target language only. -/
theorem references_closed {p : Progress} {classes : List ClassDecl}
    (hl : (LoadedDocument.load d settings base).2 = .ok l)
    (hrun : (generateAll l settings base Emitter.collecting).run [] = (p, classes))
    (clean : p.summary.isClean = true) :
    p.summary.generated = classes.map ClassDecl.canonicalName ∧
      (∀ entry ∈ d.schemas, ∃ c ∈ modelClasses base classes,
        (Task.model entry.1 entry.2).Makes base (start l settings).session c ∧
          l.types.resolve entry.1 = c.canonicalName) ∧
      ∀ c ∈ classes, ∃ t ∈ l.tasks, t.Makes base (start l settings).session c ∧
        Refers (Known settings base classes) t c := by
  obtain ⟨-, hdocument, htypes, -⟩ := LoadedDocument.load_eq_ok hl
  have hcollected := collected_of_run hrun
  have hmodel : ∀ entry ∈ d.schemas, ∃ c ∈ modelClasses base classes,
      (Task.model entry.1 entry.2).Makes base (start l settings).session c := by
    intro entry hentry
    obtain ⟨c, hc, hmade⟩ := hcollected.modelClass clean (hdocument ▸ hentry)
    exact ⟨c, List.mem_filter.mpr ⟨hc, decide_eq_true hmade.concerns.1⟩, hmade⟩
  -- the table names a class for each schema; that the run made it is where cleanness comes in
  have hleads : l.types.Leads (Known settings base classes) := by
    rw [htypes]
    refine LoadedDocument.leads_typesOf settings base d .builtin .override ?_
    intro entry hentry
    obtain ⟨c, hc, hmade⟩ := hmodel entry hentry
    rw [← hmade.canonicalName_model]
    exact .model c hc
  refine ⟨hcollected.names, ?_, ?_⟩
  · intro entry hentry
    obtain ⟨c, hc, hmade⟩ := hmodel entry hentry
    refine ⟨c, hc, hmade, ?_⟩
    rw [htypes, LoadedDocument.resolve_schema settings base hentry, hmade.canonicalName_model]
  · intro c hc
    obtain ⟨t, ht, hmade⟩ := hcollected.made c hc
    exact ⟨t, ht, hmade, refers_of_makes hl hleads .fallback ht hmade⟩

def pricing : Settings := { typeOverrides := [("money", "java.math.BigDecimal")] }

def pricedOrders : Document :=
  { schemas :=
      [("customer", .object
          [("properties", .object [("name", .object [("type", .text "string")])])]),
        ("order", .object
          [("properties", .object
            [("total", .object [("type", .text "money")]),
              ("buyer", .object [("$ref", .text "customer")]),
              ("placed", .object [("type", .array [.text "null", .text "date"])]),
              ("parts", .object
                [("type", .text "array"), ("items", .object [("$ref", .text "order")])])]),
            ("$linkedData", .object [("customer", .array [.text "customers"])])])]
    resources :=
      [{ uri := "customers"
         actions := [("get",
          { queryParameters := [("order", .object [("type", .text "order")])]
            responses := some ⟨some "customer", none⟩ })] }] }

theorem references_closed_of_priced_orders :
    ∃ l p classes, (LoadedDocument.load pricedOrders pricing "api").2 = .ok l ∧
      (generateAll l pricing "api" Emitter.collecting).run [] = (p, classes) ∧
      p.summary.isClean = true ∧ l.types.resolve "order" = "api.model.Order" ∧
      ∀ c ∈ classes, ∃ t ∈ l.tasks, Refers (Known pricing "api" classes) t c := by
  have clean : ((LoadedDocument.load pricedOrders pricing "api").2.toOption.any fun l =>
      ((generateAll l pricing "api" Emitter.collecting).run []).1.summary.isClean &&
        l.types.resolve "order" == "api.model.Order") = true := by
    decide +kernel
  rw [Option.any_eq_true] at clean
  obtain ⟨l, hl, clean⟩ := clean
  obtain ⟨clean, horder⟩ := Bool.and_eq_true_iff.mp clean
  rw [toOption_eq_some] at hl
  obtain ⟨-, -, hclasses⟩ := references_closed hl rfl clean
  refine ⟨l, _, _, hl, rfl, clean, eq_of_beq horder, fun c hc => ?_⟩
  obtain ⟨t, ht, -, hrefers⟩ := hclasses c hc
  exact ⟨t, ht, hrefers⟩

end Generation

end ClientGen
