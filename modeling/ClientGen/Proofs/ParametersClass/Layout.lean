import ClientGen.Proofs.ParametersClass.Result

/-! The layout of a parameters class. The first parameter of a name has the field, as it was
declared but private, and each later one has a warning; every field has a getter and a fluent
method, and nothing sets a field otherwise. -/

namespace ClientGen.ParametersClass

variable {package entity : String} {service : Service} {c : ClassDecl} {s s' : Session}
  {events : List Event}

structure Layout (s : Session) (package entity : String) (service : Service) (action : Action)
    (c : ClassDecl) (events : List Event) : Prop where
  head : c.head = start s.settings package service
  fields : c.fields.toList =
    (keptBy Field.name action.parameters).map fun p => { p with visibility := .priv }
  methods : c.methods = c.fields.toList.flatMap fun f => [.getter f, .fluent c.className f]
  returning : ∀ m ∈ c.methods, m.returnType.isSome
  logged : events =
    (droppedBy Field.name action.parameters).map (fun p => repeated service p.name) ++
      [parsed c entity]

theorem isSome_returnType {className : String} {fields : List Field} :
    ∀ m ∈ fields.flatMap fun f => [Method.getter f, Method.fluent className f],
      m.returnType.isSome := by
  intro m hm
  obtain ⟨f, -, hm⟩ := List.mem_flatMap.mp hm
  rcases List.mem_pair.mp hm with rfl | rfl
  · rfl
  · rfl

theorem layout_of_parse (h : (parse package entity service).run s = ⟨s', events, .ok c⟩) :
    ∃ action, service.action? .get = some action ∧
      Layout s package entity service action c events := by
  obtain ⟨action, owner, notes, haction, hrun, rfl, -, rfl⟩ := run_parse_eq_ok h
  have howner := takesFirst_of_parameters rfl hrun
  have hfields : owner.fields.toList = (keptBy Field.name action.parameters).map fun p =>
      { p with visibility := .priv } := by
    have hmap := howner.fields.map_eq (g := id) fun _ _ hmakes => hmakes
    rwa [List.map_id] at hmap
  have hmethods : (owner.addMethods (accessors owner)).methods = accessors owner := by
    show owner.methods ++ accessors owner = accessors owner
    rw [methods_of_parameters howner]
    rfl
  refine ⟨action, haction, howner.head, hfields, hmethods, ?_, ?_⟩
  · rw [hmethods]
    exact isSome_returnType
  · rw [howner.warned]
    rfl

/-- What comes of a service is known from the registry and its first GET action: the class of the
parameters, or the first error that applies. -/
theorem outcome_of_parse (s : Session) (package entity : String) (service : Service) :
    (∀ e, ((parse package entity service).run s).result = .error e ↔
        FirstCause s.registry package service e) ∧
      ((∃ c, ((parse package entity service).run s).result = .ok c) ↔
        ∃ action, Makeable s.registry package service action) ∧
      ∀ c, ((parse package entity service).run s).result = .ok c →
        ∃ action, Makeable s.registry package service action ∧
          Layout s package entity service action c
            ((parse package entity service).run s).events := by
  have hforetold := foretold_parse s package entity service
  have hmakeable := hforetold.exists_ok_iff.trans cause?_eq_none_iff
  refine ⟨fun e => (hforetold.result_eq_error_iff e).trans cause?_eq_some_iff, hmakeable,
    fun c hc => ?_⟩
  obtain ⟨action, hmade⟩ := hmakeable.mp ⟨c, hc⟩
  match hrun : (parse package entity service).run s, hc with
  | ⟨s', events, .ok _⟩, rfl =>
  obtain ⟨found, hfound, hlayout⟩ := layout_of_parse hrun
  rw [Service.action?_eq_some_iff.mpr hmade.get] at hfound
  obtain rfl := Option.some.inj hfound
  exact ⟨action, hmade, hlayout⟩

def spannedOrders : Service :=
  { uri := "/orders"
    actions :=
      [⟨.post, [], none⟩,
        ⟨.get,
          [{ name := "from", type := "Integer", description := some "first day" },
            { name := "to", type := "Integer", visibility := .pub },
            { name := "from", type := "String" }], none⟩,
        ⟨.get, [], none⟩] }

theorem outcome_of_spannedOrders :
    let s := Session.new {} fun _ => none
    let o := (parse "api" "orders" spannedOrders).run s
    ((parse "api" "orders" spannedOrders).run o.session).result =
        .error (.duplicateClass "api.parameters.OrdersParameters") ∧
      ∃ c action, o.result = .ok c ∧
        (droppedBy Field.name action.parameters).map Field.type = ["String"] ∧
        Layout s "api" "orders" spannedOrders action c o.events := by
  intro s o
  obtain ⟨hfails, -, -⟩ := outcome_of_parse o.session "api" "orders" spannedOrders
  obtain ⟨-, hmakes, hlayout⟩ := outcome_of_parse s "api" "orders" spannedOrders
  have hget : IsFirst (fun a => a.method = .get) spannedOrders.actions
      (spannedOrders.actions[1]) :=
    ⟨rfl, [⟨.post, [], none⟩], [⟨.get, [], none⟩], rfl, by simp⟩
  obtain ⟨c, hc⟩ := hmakes.mpr ⟨_, rfl, hget, by decide⟩
  obtain ⟨action, hmade, hlayout⟩ := hlayout c hc
  refine ⟨(hfails _).mpr (.registered (by decide +kernel)), c, action, hc, ?_, hlayout⟩
  have hsame := Service.action?_eq_some_iff.mpr hmade.get
  rw [Service.action?_eq_some_iff.mpr hget] at hsame
  obtain rfl := Option.some.inj hsame
  decide +kernel

end ClientGen.ParametersClass
