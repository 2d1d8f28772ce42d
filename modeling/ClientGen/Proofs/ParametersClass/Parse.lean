import ClientGen.ParametersClass
import ClientGen.Proofs.Class.FieldSource
import ClientGen.Proofs.Session.Admission

/-! The steps that a parameters class is made in, and the class that comes of them: private fields
named like the parameters of the GET action, and then the accessors of each. -/

namespace ClientGen.ParametersClass

open Build

variable {package entity : String} {service : Service} {c c' : ClassDecl} {s s' : Session}
  {events : List Event}

theorem run_addParameter (service : Service) (c : ClassDecl) (parameter : Field) (s : Session) :
    (addParameter service c parameter).run s =
      if c.fields.contains parameter.name then
        ⟨s, [repeated service parameter.name], .ok c⟩
      else ⟨s, [], .ok (c.addField { parameter with visibility := .priv })⟩ := by
  unfold addParameter
  rw [ClassDecl.tryAddField_eq]
  cases htaken : c.fields.contains parameter.name with
  | true =>
    have hsame : c.addField { parameter with visibility := .priv } = c :=
      ClassDecl.addField_of_contains htaken
    simp only [hsame]
    rfl
  | false => rfl

theorem addParameter_eq_ok {parameter : Field}
    (h : (addParameter service c parameter).run s = ⟨s', events, .ok c'⟩) :
    c.fields.contains parameter.name = true ∧ c' = c ∧
        events = [repeated service parameter.name] ∨
      c.fields.contains parameter.name = false ∧
        c' = c.addField { parameter with visibility := .priv } ∧ events = [] := by
  rw [run_addParameter] at h
  split at h <;> rename_i htaken <;>
    simp only [Outcome.mk.injEq, Except.ok.injEq] at h <;> obtain ⟨-, rfl, rfl⟩ := h
  · exact .inl ⟨htaken, rfl, rfl⟩
  · exact .inr ⟨by simpa using htaken, rfl, rfl⟩

theorem reads_addParameter (service : Service) (c : ClassDecl) (parameter : Field) :
    Reads (addParameter service c parameter) := by
  intro s
  rw [run_addParameter]
  split <;> rfl

theorem confined_addParameter {P : Event → Prop} {Q : GenError → Prop} (service : Service)
    (h : ∀ name, P (repeated service name)) (c : ClassDecl) (parameter : Field) :
    Confined P Q (addParameter service c parameter) := by
  intro s
  rw [run_addParameter]
  split <;> simp [h]

def parameterFields (service : Service) : FieldSource Field where
  key := Field.name
  Makes parameter f := f = { parameter with visibility := .priv }
  methods _ := []
  warning parameter := repeated service parameter.name
  name_of_makes h := h ▸ rfl

variable {empty : ClassDecl} {parameters : List Field}

theorem addedBy_addParameter :
    (parameterFields service).AddedBy empty.head s (addParameter service) := by
  refine ⟨reads_addParameter service, fun {c _ parameter _ _} _ h => ?_⟩
  obtain ⟨htaken, rfl, rfl⟩ | ⟨hfresh, rfl, rfl⟩ := addParameter_eq_ok h
  · exact .taken htaken
  · have hclass : c.addField { parameter with visibility := .priv } =
        (c.addField { parameter with visibility := .priv }).addMethods [] := by
      rw [ClassDecl.addMethods, List.append_nil]
    rw [hclass]
    exact .fresh rfl hfresh

theorem takesFirst_of_parameters (hempty : empty.fields.toList = [])
    (h : (parameters.foldlM (addParameter service) empty).run s = ⟨s', events, .ok c⟩) :
    (parameterFields service).TakesFirst empty parameters c events :=
  FieldSource.takesFirst_of_run addedBy_addParameter hempty h

theorem methods_of_parameters
    (h : (parameterFields service).TakesFirst empty parameters c events) :
    c.methods = empty.methods := by
  rw [h.methods, show (parameterFields service).methods = fun _ => [] from rfl,
    List.flatMap_eq_nil_iff.mpr fun _ _ => rfl, List.append_nil]

def assemble (package : String) (service : Service) : Build ClassDecl := do
  let empty := start (← Build.session).settings package service
  Build.ensureNew empty.canonicalName
  match service.action? .get with
  | none => Build.fail (.missingGetAction empty.canonicalName service.uri)
  | some action =>
    if action.parameters = [] then
      Build.fail (.emptyParameters empty.canonicalName service.uri)
    let owner ← action.parameters.foldlM (addParameter service) empty
    pure (owner.addMethods (accessors owner))

theorem parse_eq (package entity : String) (service : Service) :
    parse package entity service =
      assemble package service >>= fun c => enroll c (parsed c entity) := by
  unfold parse assemble
  cases service.action? .get with
  | none => simp only [Build.bind_assoc, Build.fail_bind]
  | some action =>
    by_cases h : action.parameters = []
    · simp only [h, if_true, Build.bind_assoc, Build.fail_bind]
    · simp only [h, if_false, enroll, Build.bind_assoc, Build.pure_bind]

theorem reads_assemble (package : String) (service : Service) :
    Reads (assemble package service) := by
  refine reads_session.bind (fun t => (reads_ensureNew _).bind (fun _ => ?_))
  split
  · exact reads_fail _
  · rename_i action _
    split
    · exact (reads_fail _).bind (fun _ => (Reads.foldlM (reads_addParameter service) _ _).bind
        (fun _ => reads_pure _))
    · exact (Reads.foldlM (reads_addParameter service) _ _).bind (fun _ => reads_pure _)

theorem admits_parse (package entity : String) (service : Service) :
    Admits (parse package entity service) := by
  rw [parse_eq]
  exact (reads_assemble package service).admits (fun c => admits_enroll c _)

theorem run_assemble_eq_ok (h : (assemble package service).run s = ⟨s', events, .ok c⟩) :
    ∃ action owner, service.action? .get = some action ∧
      (action.parameters.foldlM (addParameter service) (start s.settings package service)).run s =
        ⟨s, events, .ok owner⟩ ∧
      c = owner.addMethods (accessors owner) := by
  unfold assemble at h
  rw [run_session_bind] at h
  have hrest := run_ensureNew_bind_eq_ok h
  split at hrest
  · simp at hrest
  · rename_i action haction
    split at hrest
    · simp at hrest
    · obtain ⟨owner, first, second, howner, hpure, rfl⟩ :=
        (Reads.foldlM (reads_addParameter service) _ _).run_bind_eq_ok hrest
      simp only [run_pure, Outcome.mk.injEq, Except.ok.injEq] at hpure
      obtain ⟨-, rfl, rfl⟩ := hpure
      exact ⟨action, owner, haction, by simpa using howner, rfl⟩

theorem hasParameters_of_parse
    (h : (parse package entity service).run s = ⟨s', events, .ok c⟩) :
    service.hasParameters = true := by
  rw [parse_eq] at h
  obtain ⟨making, hmade, -, -⟩ := (reads_assemble package service).run_bind_enroll_eq_ok h
  unfold assemble at hmade
  rw [run_session_bind] at hmade
  have hrest := run_ensureNew_bind_eq_ok hmade
  split at hrest
  · simp at hrest
  · rename_i action haction
    split at hrest
    · simp at hrest
    · rename_i hsome
      simp [Service.hasParameters, haction, hsome]

theorem run_parse_eq_ok
    (h : (parse package entity service).run s = ⟨s', events, .ok c⟩) :
    ∃ action owner notes, service.action? .get = some action ∧
      (action.parameters.foldlM (addParameter service) (start s.settings package service)).run s =
        ⟨s, notes, .ok owner⟩ ∧
      c = owner.addMethods (accessors owner) ∧
      s' = s.admitting c.canonicalName ∧ events = notes ++ [parsed c entity] := by
  rw [parse_eq] at h
  obtain ⟨making, hmade, rfl, rfl⟩ := (reads_assemble package service).run_bind_enroll_eq_ok h
  obtain ⟨action, owner, haction, howner, hc⟩ := run_assemble_eq_ok hmade
  exact ⟨action, owner, making, haction, howner, hc, rfl, rfl⟩

structure Made (s : Session) (package : String) (service : Service) (c : ClassDecl) : Prop where
  head : c.head = start s.settings package service
  declared : ∀ f ∈ c.fields.toList, ∃ action ∈ service.actions, ∃ parameter ∈ action.parameters,
    f = { parameter with visibility := .priv }
  methods : c.methods = accessors c

theorem made_of_parse
    (h : (parse package entity service).run s = ⟨s', events, .ok c⟩) :
    Made s package service c := by
  obtain ⟨action, owner, notes, haction, hrun, rfl, -, -⟩ := run_parse_eq_ok h
  have howner := takesFirst_of_parameters rfl hrun
  refine ⟨howner.head, ?_, ?_⟩
  · intro f hf
    obtain ⟨parameter, hparameter, hf⟩ := howner.exists_of_mem hf
    exact ⟨action, List.mem_of_find?_eq_some haction, parameter, hparameter, hf⟩
  · show owner.methods ++ accessors owner = accessors owner
    rw [methods_of_parameters howner]
    rfl

end ClientGen.ParametersClass
