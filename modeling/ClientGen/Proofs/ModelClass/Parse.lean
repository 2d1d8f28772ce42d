import ClientGen.Proofs.Class.FieldSource
import ClientGen.Proofs.Class.Signatures
import ClientGen.Proofs.ModelClass.Schema
import ClientGen.Proofs.Session.Admission
import ClientGen.Proofs.TypeTable.PropertyField

/-! The steps that a model class is made in, each as one equation, and the class that comes of
them: the fields with their accessors first, then two methods for every relation. -/

namespace ClientGen

def Session.typeAt (s : Session) (path : List String) : String :=
  ((s.responseAt path).map fun response => s.types.resolve response.schema).getD genericType

namespace Navigation

open Build

variable {package relation : String} {owner : ClassDecl} {path : List String} {s : Session}

def unanswered (s : Session) (path : List String) : List Event :=
  if (s.responseAt path).isSome then [] else [missingResponse path.getLast?]

theorem run_returnType (path : List String) (s : Session) :
    (returnType path).run s = ⟨s, unanswered s path, .ok (s.typeAt path)⟩ := by
  unfold returnType unanswered Session.typeAt
  rw [run_session_bind]
  cases s.responseAt path <;> rfl

theorem run_synthesize {last : String} (h : path.getLast? = some last) :
    (synthesize owner package relation path).run s =
      ⟨s, unanswered s path ++ [synthesized owner (methodName relation) path],
        .ok (pair s.settings package owner.fields.toList relation (s.typeAt path) path last)⟩ := by
  unfold synthesize
  rw [h]
  simp only [run_session_bind]
  rw [run_bind_of_ok (run_returnType path s)]
  simp only [run_log_bind, run_pure, pair]

end Navigation

namespace ModelClass

open Build

variable {package entity : String} {c c' : ClassDecl} {s s' : Session} {events : List Event}

theorem run_addProperty (entity : String) (c : ClassDecl) (property : String × Json)
    (s : Session) :
    (addProperty entity c property).run s =
      match s.types.propertyField entity property.1 property.2 with
      | .error e => ⟨s, [], .error e⟩
      | .ok f =>
        if c.fields.contains f.name then ⟨s, [taken c property.1 f.name], .ok c⟩
        else ⟨s, [], .ok (withAccessors c f)⟩ := by
  obtain ⟨name, schema⟩ := property
  unfold addProperty
  rw [run_session_bind]
  cases h : s.types.propertyField entity name schema with
  | error e => rfl
  | ok f =>
    show (if c.fields.contains f.name then _ else _ : Build ClassDecl).run s =
      if c.fields.contains f.name then _ else _
    split <;> rfl

theorem addProperty_eq_ok {property : String × Json}
    (h : (addProperty entity c property).run s = ⟨s', events, .ok c'⟩) :
    ∃ f, s.types.propertyField entity property.1 property.2 = .ok f ∧
      (c.fields.contains f.name = true ∧ c' = c ∧ events = [taken c property.1 f.name] ∨
        c.fields.contains f.name = false ∧ c' = withAccessors c f ∧ events = []) := by
  rw [run_addProperty] at h
  split at h
  · cases h
  · rename_i f hf
    refine ⟨f, hf, ?_⟩
    split at h <;> rename_i htaken <;>
      simp only [Outcome.mk.injEq, Except.ok.injEq] at h <;> obtain ⟨-, rfl, rfl⟩ := h
    · exact .inl ⟨htaken, rfl, rfl⟩
    · exact .inr ⟨by simpa using htaken, rfl, rfl⟩

theorem reads_addProperty (entity : String) (c : ClassDecl) (property : String × Json) :
    Reads (addProperty entity c property) := by
  intro s
  rw [run_addProperty]
  split
  · rfl
  · split <;> rfl

theorem confined_addProperty {P : Event → Prop} {Q : GenError → Prop}
    (hP : ∀ c property field, P (taken c property field))
    (entity : String) (hQ : ∀ fault, Q (.invalidSchema entity fault)) (c : ClassDecl)
    (property : String × Json) : Confined P Q (addProperty entity c property) := by
  intro s
  rw [run_addProperty]
  split
  · rename_i e he
    refine ⟨by simp, fun e' h => ?_⟩
    obtain rfl := Except.error.inj h
    obtain ⟨fault, rfl⟩ := TypeTable.propertyField_eq_error he
    exact hQ fault
  · split <;> simp [hP]

theorem getLast?_of_path? {services : Json} {path : List String} (h : path? services = some path) :
    ∃ last, path.getLast? = some last := by
  unfold path? at h
  split at h
  · obtain ⟨first, hfirst, rest, hrest, rfl⟩ := by
      simpa only [List.mapM_cons, Option.bind_eq_bind, Option.bind_eq_some_iff, Option.pure_def,
        Option.some.injEq] using h
    exact ⟨_, List.getLast?_eq_some_getLast (List.cons_ne_nil first rest)⟩
  · simp at h

def pairAt (s : Session) (package : String) (fields : List Field) (relation : String × Json) :
    Option NavigationPair := do
  let path ← path? relation.2
  let last ← path.getLast?
  some (Navigation.pair s.settings package fields relation.1 (s.typeAt path) path last)

def clashEvents (c : ClassDecl) (relation : String) : List Event :=
  if clashes c (Navigation.methodName relation) then
    [clash c relation (Navigation.methodName relation)]
  else []

def relationEvents (s : Session) (c : ClassDecl) (relation : String × Json) : List Event :=
  let path := (path? relation.2).getD []
  Navigation.unanswered s path ++
    [Navigation.synthesized c (Navigation.methodName relation.1) path] ++
    clashEvents c relation.1

theorem mem_relationEvents {relation : String × Json} {e : Event}
    (h : e ∈ relationEvents s c relation) :
    e.level = .debug ∨ e = clash c relation.1 (Navigation.methodName relation.1) := by
  rw [relationEvents, List.mem_append, List.mem_append, List.mem_singleton] at h
  rcases h with (hanswer | rfl) | hclash
  · unfold Navigation.unanswered at hanswer
    split at hanswer
    · cases hanswer
    · obtain rfl := List.mem_singleton.mp hanswer
      exact .inl rfl
  · exact .inl rfl
  · unfold clashEvents at hclash
    split at hclash
    · exact .inr (List.mem_singleton.mp hclash)
    · cases hclash

theorem run_addRelation (package : String) (c : ClassDecl) (relation : String × Json)
    (s : Session) :
    (addRelation package c relation).run s =
      match pairAt s package c.fields.toList relation with
      | none => ⟨s, [], .error (.malformedLinkedData c.canonicalName relation.1)⟩
      | some p => ⟨s, relationEvents s c relation, .ok (c.addMethods [p.derived, p.explicit])⟩ := by
  obtain ⟨name, services⟩ := relation
  unfold addRelation pairAt relationEvents clashEvents
  dsimp only
  cases h : path? services with
  | none => rfl
  | some path =>
    obtain ⟨last, hl⟩ := getLast?_of_path? h
    simp only [Option.bind_eq_bind, Option.bind_some, hl, Option.getD_some]
    rw [run_bind_of_ok (Navigation.run_synthesize hl)]
    have hname : (Navigation.pair s.settings package c.fields.toList name (s.typeAt path) path
        last).derived.name = Navigation.methodName name := rfl
    simp only [hname]
    split <;> simp

theorem addRelation_eq_ok {relation : String × Json}
    (h : (addRelation package c relation).run s = ⟨s', events, .ok c'⟩) :
    ∃ p, pairAt s package c.fields.toList relation = some p ∧
      c' = c.addMethods [p.derived, p.explicit] ∧ events = relationEvents s c relation := by
  rw [run_addRelation] at h
  split at h
  · cases h
  · rename_i p hp
    simp only [Outcome.mk.injEq, Except.ok.injEq] at h
    obtain ⟨-, rfl, rfl⟩ := h
    exact ⟨p, hp, rfl, rfl⟩

theorem reads_addRelation (package : String) (c : ClassDecl) (relation : String × Json) :
    Reads (addRelation package c relation) := by
  intro s
  rw [run_addRelation]
  split <;> rfl

theorem confined_addRelation {P : Event → Prop} {Q : GenError → Prop}
    (hP : ∀ s c relation, ∀ e ∈ relationEvents s c relation, P e)
    (hQ : ∀ canonical relation, Q (.malformedLinkedData canonical relation))
    (package : String) (c : ClassDecl) (relation : String × Json) :
    Confined P Q (addRelation package c relation) := by
  intro s
  rw [run_addRelation]
  split
  · simp [hQ]
  · exact ⟨hP s c relation, by simp⟩

def accessors (c : ClassDecl) : List Method :=
  c.fields.toList.flatMap (accessorsOf c.className)

def navigation (s : Session) (package : String) (fields : List Field)
    (relation : String × Json) : List Method :=
  ((pairAt s package fields relation).map fun p => [p.derived, p.explicit]).getD []

theorem taken_eq_of_head (h : c.head = c'.head) (property field : String) :
    taken c property field = taken c' property field := by
  rw [taken, taken, ClassDecl.canonicalName_eq_of_head h]

def propertyFields (s : Session) (entity : String) (empty : ClassDecl) :
    FieldSource (String × Json) where
  key property := Naming.fieldName property.1
  Makes property f := s.types.propertyField entity property.1 property.2 = .ok f
  methods := accessorsOf empty.className
  warning property := taken empty property.1 (Naming.fieldName property.1)
  name_of_makes := TypeTable.name_of_propertyField

variable {empty : ClassDecl} {properties : List (String × Json)}

theorem addedBy_addProperty :
    (propertyFields s entity empty).AddedBy empty.head s (addProperty entity) := by
  refine ⟨reads_addProperty entity, fun {c c' property _ _} hhead h => ?_⟩
  obtain ⟨f, hf, hcases⟩ := addProperty_eq_ok h
  rw [TypeTable.name_of_propertyField hf] at hcases
  obtain ⟨htaken, rfl, rfl⟩ | ⟨hfresh, rfl, rfl⟩ := hcases
  · rw [taken_eq_of_head hhead]
    exact .taken htaken
  · have hclass : withAccessors c f =
        (c.addField f).addMethods (accessorsOf empty.className f) := by
      rw [← ClassDecl.className_eq_of_head hhead]
      rfl
    rw [hclass]
    exact .fresh hf hfresh

theorem takesFirst_of_properties (hempty : empty.fields.toList = [])
    (h : (properties.foldlM (addProperty entity) empty).run s = ⟨s', events, .ok c⟩) :
    (propertyFields s entity empty).TakesFirst empty properties c events :=
  FieldSource.takesFirst_of_run addedBy_addProperty hempty h

theorem methods_of_properties (hempty : empty.methods = [])
    (h : (propertyFields s entity empty).TakesFirst empty properties c events) :
    c.methods = accessors c := by
  rw [h.methods, hempty, List.nil_append, accessors, ClassDecl.className_eq_of_head h.head]
  rfl

structure HasRelations (s : Session) (package : String) (owner : ClassDecl)
    (relations : List (String × Json)) (c : ClassDecl) : Prop where
  head : c.head = owner.head
  fields : c.fields = owner.fields
  methods : c.methods = owner.methods ++
    relations.flatMap (navigation s package owner.fields.toList)
  paths : ∀ r ∈ relations, (pairAt s package owner.fields.toList r).isSome

theorem HasRelations.step {owner : ClassDecl} {done : List (String × Json)}
    {relation : String × Json} (hc : HasRelations s package owner done c)
    (h : (addRelation package c relation).run s = ⟨s', events, .ok c'⟩) :
    HasRelations s package owner (done ++ [relation]) c' := by
  obtain ⟨p, hp, rfl, -⟩ := addRelation_eq_ok h
  rw [hc.fields] at hp
  refine ⟨hc.head, hc.fields, ?_, ?_⟩
  · simp [ClassDecl.addMethods, hc.methods, navigation, hp]
  · intro r hr
    rcases List.mem_append.mp hr with hr | hr
    · exact hc.paths r hr
    · obtain rfl := List.mem_singleton.mp hr
      simp [hp]

theorem hasRelations_of_run {owner : ClassDecl} {relations : List (String × Json)}
    (h : (relations.foldlM (addRelation package) owner).run s = ⟨s', events, .ok c⟩) :
    HasRelations s package owner relations c :=
  foldlM_induction (reads_addRelation package)
    (P := fun done c _ => HasRelations s package owner done c)
    (fun _ _ _ _ _ _ hc h => hc.step h) [] []
    ⟨rfl, rfl, by simp, by simp⟩ h

def assemble (package entity : String) (schema : Json) : Build ClassDecl := do
  let m ← Build.ofExcept (ModelSchema.read entity schema)
  let empty := start (← Build.session).settings package entity m.description
  Build.ensureNew empty.canonicalName
  let owner ← m.properties.foldlM (addProperty entity) empty
  m.relations.foldlM (addRelation package) owner

theorem parse_eq (package entity : String) (schema : Json) :
    parse package entity schema =
      assemble package entity schema >>= fun c => enroll c (parsed c) := by
  simp only [parse, assemble, enroll, Build.bind_assoc]

theorem reads_assemble (package entity : String) (schema : Json) :
    Reads (assemble package entity schema) := by
  refine (reads_ofExcept _).bind (fun m => reads_session.bind (fun t => ?_))
  refine (reads_ensureNew _).bind (fun _ => ?_)
  exact (Reads.foldlM (reads_addProperty entity) _ _).bind
    (fun owner => Reads.foldlM (reads_addRelation package) _ owner)

theorem admits_parse (package entity : String) (schema : Json) :
    Admits (parse package entity schema) := by
  rw [parse_eq]
  exact (reads_assemble package entity schema).admits (fun c => admits_enroll c _)

theorem run_assemble_eq_ok {schema : Json}
    (h : (assemble package entity schema).run s = ⟨s', events, .ok c⟩) :
    ∃ m owner first second, ModelSchema.read entity schema = .ok m ∧
      (m.properties.foldlM (addProperty entity)
        (start s.settings package entity m.description)).run s = ⟨s, first, .ok owner⟩ ∧
      (m.relations.foldlM (addRelation package) owner).run s = ⟨s, second, .ok c⟩ ∧
      events = first ++ second := by
  obtain rfl := (reads_assemble package entity schema).session_eq h
  unfold assemble at h
  obtain ⟨m, e₁, e₂, hm, hrest, rfl⟩ := (reads_ofExcept _).run_bind_eq_ok h
  rw [run_ofExcept, Outcome.mk.injEq] at hm
  obtain ⟨-, rfl, hm⟩ := hm
  rw [run_session_bind] at hrest
  obtain ⟨owner, first, second, hfields, hrelations, rfl⟩ :=
    (Reads.foldlM (reads_addProperty entity) _ _).run_bind_eq_ok (run_ensureNew_bind_eq_ok hrest)
  exact ⟨m, owner, first, second, hm, hfields, hrelations, rfl⟩

theorem run_parse_eq_ok {schema : Json}
    (h : (parse package entity schema).run s = ⟨s', events, .ok c⟩) :
    ∃ m owner first second, ModelSchema.read entity schema = .ok m ∧
      (m.properties.foldlM (addProperty entity)
        (start s.settings package entity m.description)).run s = ⟨s, first, .ok owner⟩ ∧
      (m.relations.foldlM (addRelation package) owner).run s = ⟨s, second, .ok c⟩ ∧
      s' = s.admitting c.canonicalName ∧ events = first ++ second ++ [parsed c] := by
  rw [parse_eq] at h
  obtain ⟨making, hmade, rfl, rfl⟩ := (reads_assemble package entity schema).run_bind_enroll_eq_ok h
  obtain ⟨m, owner, first, second, hm, hproperties, hrelations, rfl⟩ := run_assemble_eq_ok hmade
  exact ⟨m, owner, first, second, hm, hproperties, hrelations, rfl, rfl⟩

end ModelClass

end ClientGen
