import ClientGen.Document.Load
import ClientGen.Proofs.List.Forall

/-! What loading makes of a document: one service for every resource, in order, with the actions
under known verbs and a field for every query parameter. -/

namespace ClientGen.LoadedDocument

variable {types : TypeTable} {uri verb : String}

theorem map_eq_ok_iff {ε α β : Type} {r : Except ε α} {f : α → β} {b : β} :
    r.map f = .ok b ↔ ∃ a, r = .ok a ∧ b = f a := by
  cases r <;> simp [Except.map, eq_comm]

theorem parametersOf_eq_ok_iff {entries : List (String × Json)} {fields : List Field} :
    parametersOf types uri verb entries = .ok fields ↔
      List.Forall₂ (fun entry f => types.propertyField uri entry.1 entry.2 = .ok f) entries
        fields := by
  induction entries generalizing fields with
  | nil =>
    rw [parametersOf, Except.ok.injEq, List.forall₂_nil_left_iff, eq_comm]
  | cons entry rest ih =>
    obtain ⟨name, property⟩ := entry
    rw [List.forall₂_cons_left_iff, parametersOf]
    cases types.propertyField uri name property with
    | error e => simp
    | ok f => simp [map_eq_ok_iff, ih]

def known (entry : String × DeclaredAction) : Bool := (HttpMethod.parse? entry.1).isSome

structure IsActionOf (types : TypeTable) (uri : String) (entry : String × DeclaredAction)
    (a : Action) : Prop where
  method : HttpMethod.parse? entry.1 = some a.method
  parameters : List.Forall₂ (fun q f => types.propertyField uri q.1 q.2 = .ok f)
    entry.2.queryParameters a.parameters
  response : a.response = responseOf entry.2

theorem isActionOf_iff {d : DeclaredAction} {method : HttpMethod} {a : Action}
    (h : HttpMethod.parse? verb = some method) :
    IsActionOf types uri (verb, d) a ↔
      ∃ parameters, parametersOf types uri verb d.queryParameters = .ok parameters ∧
        a = ⟨method, parameters, responseOf d⟩ := by
  constructor
  · rintro ⟨hmethod, hparameters, hresponse⟩
    obtain rfl := Option.some.inj (h.symm.trans hmethod)
    exact ⟨a.parameters, parametersOf_eq_ok_iff.mpr hparameters, by rw [← hresponse]⟩
  · rintro ⟨parameters, hparameters, rfl⟩
    exact ⟨h, parametersOf_eq_ok_iff.mp hparameters, rfl⟩

theorem actionsOf_eq_ok_iff {declared : List (String × DeclaredAction)} {actions : List Action} :
    (actionsOf types uri declared).2 = .ok actions ↔
      List.Forall₂ (IsActionOf types uri) (declared.filter known) actions := by
  induction declared generalizing actions with
  | nil =>
    rw [actionsOf, Except.ok.injEq, List.filter_nil, List.forall₂_nil_left_iff, eq_comm]
  | cons entry rest ih =>
    obtain ⟨verb, d⟩ := entry
    rw [actionsOf]
    cases hverb : HttpMethod.parse? verb with
    | none =>
      rw [List.filter_cons_of_neg (by simp [known, hverb])]
      exact ih
    | some method =>
      rw [List.filter_cons_of_pos (by simp [known, hverb]), List.forall₂_cons_left_iff]
      simp only [isActionOf_iff hverb, ← ih]
      cases parametersOf types uri verb d.queryParameters with
      | error e => simp
      | ok parameters =>
        simp [map_eq_ok_iff]

theorem events_actionsOf {declared : List (String × DeclaredAction)} {actions : List Action}
    (h : (actionsOf types uri declared).2 = .ok actions) :
    (actionsOf types uri declared).1 =
      (declared.filter (!known ·)).map fun entry => unknownVerb entry.1 uri := by
  induction declared generalizing actions with
  | nil => rfl
  | cons entry rest ih =>
    obtain ⟨verb, d⟩ := entry
    rw [actionsOf] at h ⊢
    cases hverb : HttpMethod.parse? verb with
    | none =>
      rw [hverb] at h
      rw [List.filter_cons_of_pos (by simp [known, hverb]), List.map_cons, ← ih h]
    | some method =>
      rw [List.filter_cons_of_neg (by simp [known, hverb])]
      cases hparameters : parametersOf types uri verb d.queryParameters with
      | error e => simp [hverb, hparameters] at h
      | ok parameters =>
        simp only [hverb, hparameters, map_eq_ok_iff] at h
        obtain ⟨rest, hrest, -⟩ := h
        exact ih hrest

theorem actionsOf_eq_ok {declared : List (String × DeclaredAction)} {actions : List Action}
    (h : (actionsOf types uri declared).2 = .ok actions) :
    ∀ a ∈ actions, ∃ verb d, (verb, d) ∈ declared ∧ HttpMethod.parse? verb = some a.method ∧
      parametersOf types uri verb d.queryParameters = .ok a.parameters := by
  intro a ha
  obtain ⟨⟨verb, d⟩, hmem, haction⟩ := (actionsOf_eq_ok_iff.mp h).exists_of_mem_right ha
  exact ⟨verb, d, List.mem_of_mem_filter hmem, haction.method,
    parametersOf_eq_ok_iff.mpr haction.parameters⟩

structure IsServiceOf (types : TypeTable) (r : Resource) (service : Service) : Prop where
  uri : service.uri = r.uri
  description : service.description = r.description
  actions : (actionsOf types r.uri r.actions).2 = .ok service.actions

theorem isServiceOf_iff {r : Resource} {service : Service} :
    IsServiceOf types r service ↔
      ∃ actions, (actionsOf types r.uri r.actions).2 = .ok actions ∧
        service = ⟨r.uri, r.description, actions⟩ := by
  constructor
  · rintro ⟨huri, hdescription, hactions⟩
    exact ⟨service.actions, hactions, by rw [← huri, ← hdescription]⟩
  · rintro ⟨actions, hactions, rfl⟩
    exact ⟨rfl, rfl, hactions⟩

theorem servicesOf_cons (r : Resource) (rest : List Resource) :
    (servicesOf types (r :: rest)).2 = match (actionsOf types r.uri r.actions).2 with
      | .error e => .error e
      | .ok actions => (servicesOf types rest).2.map (⟨r.uri, r.description, actions⟩ :: ·) := by
  rw [servicesOf]
  split <;> rename_i hactions <;> simp only [hactions]

theorem servicesOf_eq_ok_iff {resources : List Resource} {services : List Service} :
    (servicesOf types resources).2 = .ok services ↔
      List.Forall₂ (IsServiceOf types) resources services := by
  induction resources generalizing services with
  | nil =>
    rw [servicesOf, Except.ok.injEq, List.forall₂_nil_left_iff, eq_comm]
  | cons r rest ih =>
    rw [List.forall₂_cons_left_iff, servicesOf_cons]
    simp only [isServiceOf_iff, ← ih]
    cases (actionsOf types r.uri r.actions).2 with
    | error e => simp
    | ok actions =>
      simp [map_eq_ok_iff]

theorem events_servicesOf {resources : List Resource} {services : List Service}
    (h : (servicesOf types resources).2 = .ok services) :
    (servicesOf types resources).1 = resources.flatMap fun r =>
      (r.actions.filter (!known ·)).map fun entry => unknownVerb entry.1 r.uri := by
  induction resources generalizing services with
  | nil => rfl
  | cons r rest ih =>
    rw [servicesOf] at h ⊢
    cases hactions : actionsOf types r.uri r.actions with
    | mk events actions =>
      cases actions with
      | error e => simp [hactions] at h
      | ok actions =>
        simp only [hactions, map_eq_ok_iff] at h ⊢
        obtain ⟨more, hmore, -⟩ := h
        have hevents := events_actionsOf (congrArg Prod.snd hactions)
        rw [hactions] at hevents
        rw [List.flatMap_cons, ← hevents, ih hmore]

variable {d : Document} {settings : Settings} {package : String} {l : LoadedDocument}

theorem load_eq_ok_iff : (load d settings package).2 = .ok l ↔
    d.validate = .ok () ∧ l.document = d ∧ l.types = typesOf settings package d ∧
      List.Forall₂ (IsServiceOf l.types) d.resources l.services := by
  unfold load
  cases d.validate with
  | error e => simp
  | ok _ =>
    simp only [map_eq_ok_iff, servicesOf_eq_ok_iff, true_and]
    constructor
    · rintro ⟨services, hservices, rfl⟩
      exact ⟨rfl, rfl, hservices⟩
    · rintro ⟨hdocument, htypes, hservices⟩
      exact ⟨l.services, htypes ▸ hservices, by rw [← htypes, ← hdocument]⟩

theorem load_eq_ok (h : (load d settings package).2 = .ok l) :
    d.validate = .ok () ∧ l.document = d ∧ l.types = typesOf settings package d ∧
      List.Forall₂ (IsServiceOf l.types) d.resources l.services :=
  load_eq_ok_iff.mp h

theorem uris_of_load (h : (load d settings package).2 = .ok l) :
    l.services.map Service.uri = d.resources.map Resource.uri := by
  obtain ⟨-, -, -, hservices⟩ := load_eq_ok h
  exact hservices.map_eq fun _ _ hr => hr.uri

theorem events_load (h : (load d settings package).2 = .ok l) :
    (load d settings package).1 = d.resources.flatMap fun r =>
      (r.actions.filter (!known ·)).map fun entry => unknownVerb entry.1 r.uri := by
  obtain ⟨hvalid, -, htypes, hservices⟩ := load_eq_ok h
  unfold load
  rw [hvalid]
  exact events_servicesOf (servicesOf_eq_ok_iff.mpr (htypes ▸ hservices))

theorem declared_of_load (h : (load d settings package).2 = .ok l) {service : Service}
    (hs : service ∈ l.services) {action : Action} (ha : action ∈ service.actions) {f : Field}
    (hf : f ∈ action.parameters) :
    ∃ entity name property, l.types.propertyField entity name property = .ok f := by
  obtain ⟨-, -, -, hservices⟩ := load_eq_ok h
  obtain ⟨r, -, hr⟩ := hservices.exists_of_mem_right hs
  obtain ⟨verb, d, -, -, hparameters⟩ := actionsOf_eq_ok hr.actions action ha
  obtain ⟨entry, -, hentry⟩ := (parametersOf_eq_ok_iff.mp hparameters).exists_of_mem_right hf
  exact ⟨r.uri, entry.1, entry.2, hentry⟩

end ClientGen.LoadedDocument
