import ClientGen.Proofs.ModelClass.Parse
import ClientGen.Proofs.Session.Foretold

/-! Why a schema has no model class. The schema as a whole is looked at first, then whether the
class is new, then one property after the other, and the relations last; the first cause is the one
that is reported. -/

namespace ClientGen

namespace ModelClass

open Build

variable {package entity canonical : String} {schema : Json} {s : Session}
  {property relation : String × Json}

structure IsProperty (property : String × Json) : Prop where
  object : ∃ members, property.2 = .object members
  named : ∃ c ∈ property.1.toList, c.isAlphanum = true

inductive PropertyFault (property : String × Json) : SchemaFault → Prop
  | notObject (h : ∀ members, property.2 ≠ .object members) :
    PropertyFault property (.propertyNotObject property.1)
  | unnamed {members : List (String × Json)} (hobject : property.2 = .object members)
    (h : ∀ c ∈ property.1.toList, c.isAlphanum = false) :
    PropertyFault property (.propertyUnnamed property.1)

def IsPath (services : Json) : Prop :=
  ∃ path : List String, path ≠ [] ∧ "" ∉ path ∧ services = .array (path.map .text)

def propertyFault? (property : String × Json) : Option SchemaFault :=
  match property.2.members? with
  | none => some (.propertyNotObject property.1)
  | some _ =>
    if Naming.fieldName property.1 = "" then some (.propertyUnnamed property.1) else none

theorem propertyFault?_eq_none_iff : propertyFault? property = none ↔ IsProperty property := by
  have hnamed : ¬Naming.fieldName property.1 = "" ↔
      ∃ c ∈ property.1.toList, c.isAlphanum = true := by
    rw [Naming.fieldName_eq_empty_iff]
    simp
  unfold propertyFault?
  constructor
  · intro h
    split at h
    · cases h
    · rename_i members hmembers
      split at h
      · cases h
      · rename_i hname
        exact ⟨⟨members, Json.members?_eq_some_iff.mp hmembers⟩, hnamed.mp hname⟩
  · rintro ⟨⟨members, hobject⟩, hname⟩
    rw [Json.members?_eq_some_iff.mpr hobject]
    exact if_neg (hnamed.mpr hname)

theorem propertyFault?_eq_some_iff {fault : SchemaFault} :
    propertyFault? property = some fault ↔ PropertyFault property fault := by
  unfold propertyFault?
  constructor
  · intro h
    split at h
    · rename_i hmembers
      obtain rfl := Option.some.inj h
      exact .notObject (Json.members?_eq_none_iff.mp hmembers)
    · rename_i members hmembers
      split at h
      · rename_i hname
        obtain rfl := Option.some.inj h
        exact .unnamed (Json.members?_eq_some_iff.mp hmembers)
          (Naming.fieldName_eq_empty_iff.mp hname)
      · cases h
  · intro h
    cases h with
    | notObject h => rw [Json.members?_eq_none_iff.mpr h]
    | unnamed hobject h =>
      rw [Json.members?_eq_some_iff.mpr hobject]
      exact if_pos (Naming.fieldName_eq_empty_iff.mpr h)

theorem mapM_services_eq_some {items : List Json} {path : List String} :
    (items.mapM fun item => item.text?.filter (· ≠ "")) = some path ↔
      "" ∉ path ∧ items = path.map .text := by
  induction items generalizing path with
  | nil =>
    cases path <;> simp
  | cons item items ih =>
    simp only [List.mapM_cons, Option.bind_eq_bind, Option.bind_eq_some_iff, Option.pure_def,
      Option.some.injEq]
    constructor
    · rintro ⟨name, hname, names, hnames, rfl⟩
      obtain ⟨htext, hne⟩ := Option.filter_eq_some_iff.mp hname
      obtain ⟨hrest, rfl⟩ := ih.mp hnames
      have hitem : item = .text name := by
        cases item <;> cases htext
        rfl
      have hne : name ≠ "" := by simpa using hne
      exact ⟨List.not_mem_cons_of_ne_of_not_mem hne.symm hrest, by rw [hitem, List.map_cons]⟩
    · rintro ⟨hne, hitems⟩
      cases path with
      | nil => cases hitems
      | cons name names =>
        obtain ⟨rfl, rfl⟩ := List.cons.inj hitems
        have hname : name ≠ "" := (List.ne_of_not_mem_cons hne).symm
        have hnames : "" ∉ names := List.not_mem_of_not_mem_cons hne
        refine ⟨name, Option.filter_eq_some_iff.mpr ⟨rfl, ?_⟩, names, ih.mpr ⟨hnames, rfl⟩, rfl⟩
        exact decide_eq_true hname

theorem path?_eq_some_iff {services : Json} {path : List String} :
    path? services = some path ↔
      path ≠ [] ∧ "" ∉ path ∧ services = .array (path.map .text) := by
  unfold path?
  split
  · rename_i first rest
    rw [mapM_services_eq_some, Json.array.injEq]
    refine ⟨fun ⟨hne, hitems⟩ => ⟨?_, hne, hitems⟩, fun ⟨_, hne, hitems⟩ => ⟨hne, hitems⟩⟩
    rintro rfl
    cases hitems
  · rename_i hother
    constructor
    · intro h
      cases h
    · rintro ⟨hne, -, rfl⟩
      cases path with
      | nil => exact absurd rfl hne
      | cons name names => exact absurd rfl (hother _ _)

theorem isSome_path?_iff {services : Json} : (path? services).isSome ↔ IsPath services := by
  rw [Option.isSome_iff_exists]
  exact exists_congr fun path => path?_eq_some_iff

def propertyError? (entity : String) (property : String × Json) : Option GenError :=
  (propertyFault? property).map (.invalidSchema entity)

def relationError? (canonical : String) (relation : String × Json) : Option GenError :=
  if (path? relation.2).isSome then none else some (.malformedLinkedData canonical relation.1)

def cause? (registry : Registry) (package entity : String) (schema : Json) : Option GenError :=
  let m := ModelSchema.parts schema
  let canonical := TypeTable.modelType package entity
  ((ModelSchema.readFault? schema).map (.invalidSchema entity)).or
    ((duplicate? registry canonical).or
      ((m.properties.findSome? (propertyError? entity)).or
        (m.relations.findSome? (relationError? canonical))))

theorem propertyField_of_fault (t : TypeTable) {fault : SchemaFault}
    (h : propertyFault? property = some fault) :
    t.propertyField entity property.1 property.2 = .error (.invalidSchema entity fault) := by
  unfold TypeTable.propertyField
  cases propertyFault?_eq_some_iff.mp h with
  | notObject hobject => rw [Json.members?_eq_none_iff.mpr hobject]
  | unnamed hobject hname =>
    rw [Json.members?_eq_some_iff.mpr hobject]
    exact if_pos (Naming.fieldName_eq_empty_iff.mpr hname)

theorem exists_propertyField (t : TypeTable) (entity : String)
    (h : propertyFault? property = none) :
    ∃ f, t.propertyField entity property.1 property.2 = .ok f := by
  obtain ⟨⟨members, hobject⟩, hname⟩ := propertyFault?_eq_none_iff.mp h
  have hnamed : Naming.fieldName property.1 ≠ "" := Naming.fieldName_ne_empty_iff.mpr hname
  unfold TypeTable.propertyField
  rw [Json.members?_eq_some_iff.mpr hobject]
  exact ⟨_, if_neg hnamed⟩

theorem foretold_addProperty (c : ClassDecl) :
    ((addProperty entity c property).run s).Foretold (propertyError? entity property)
      fun d => d.canonicalName = c.canonicalName := by
  rw [run_addProperty, propertyError?]
  cases hfault : propertyFault? property with
  | some fault =>
    rw [propertyField_of_fault s.types hfault]
    exact rfl
  | none =>
    obtain ⟨f, hf⟩ := exists_propertyField s.types entity hfault
    rw [hf]
    dsimp only
    split
    · exact ⟨c, rfl, rfl⟩
    · exact ⟨withAccessors c f, rfl, rfl⟩

theorem isSome_pairAt (s : Session) (package : String) (fields : List Field)
    (relation : String × Json) :
    (pairAt s package fields relation).isSome = (path? relation.2).isSome := by
  unfold pairAt
  cases hpath : path? relation.2 with
  | none => rfl
  | some path =>
    obtain ⟨last, hlast⟩ := getLast?_of_path? hpath
    simp [hlast]

theorem foretold_addRelation (c : ClassDecl) :
    ((addRelation package c relation).run s).Foretold (relationError? c.canonicalName relation)
      fun d => d.canonicalName = c.canonicalName := by
  have hsome := isSome_pairAt s package c.fields.toList relation
  rw [run_addRelation, relationError?, ← hsome]
  cases pairAt s package c.fields.toList relation with
  | none => exact rfl
  | some p => exact ⟨c.addMethods [p.derived, p.explicit], rfl, rfl⟩

theorem foretold_properties (s : Session) (entity : String) {empty : ClassDecl}
    (properties : List (String × Json)) (h : empty.canonicalName = canonical) :
    ((properties.foldlM (addProperty entity) empty).run s).Foretold
      (properties.findSome? (propertyError? entity)) fun c => c.canonicalName = canonical := by
  refine foretold_foldlM (reads_addProperty entity) (fun c hc property => ?_) properties h
  exact (foretold_addProperty c).imp fun d hd => hd.trans hc

theorem foretold_relations (s : Session) (package : String) {owner : ClassDecl}
    (relations : List (String × Json)) (h : owner.canonicalName = canonical) :
    ((relations.foldlM (addRelation package) owner).run s).Foretold
      (relations.findSome? (relationError? canonical)) fun c => c.canonicalName = canonical := by
  refine foretold_foldlM (reads_addRelation package) (fun c hc relation => ?_) relations h
  rw [← hc]
  exact foretold_addRelation c

theorem foretold_assemble (s : Session) (package entity : String) (schema : Json) :
    ((assemble package entity schema).run s).Foretold (cause? s.registry package entity schema)
      fun c => c.canonicalName = TypeTable.modelType package entity ∧
        s.registry.contains c.canonicalName = false := by
  unfold assemble cause?
  refine foretold_bind (P := fun m => m = ModelSchema.parts schema) (reads_ofExcept _) ?_ ?_
  · rw [ModelSchema.read_eq]
    cases ModelSchema.readFault? schema with
    | some fault => exact foretold_ofExcept_error _
    | none => exact foretold_ofExcept_ok rfl
  rintro m rfl
  rw [run_session_bind]
  have hcanonical : (start s.settings package entity
      (ModelSchema.parts schema).description).canonicalName =
        TypeTable.modelType package entity := rfl
  refine foretold_bind (reads_ensureNew _) (foretold_ensureNew _) fun _ hnew => ?_
  refine foretold_bind (Reads.foldlM (reads_addProperty entity) _ _)
    (foretold_properties s entity _ hcanonical) fun owner howner => ?_
  refine (foretold_relations s package _ howner).imp fun c hc => ⟨hc, ?_⟩
  rw [hc]
  exact hnew

theorem foretold_parse (s : Session) (package entity : String) (schema : Json) :
    ((parse package entity schema).run s).Foretold (cause? s.registry package entity schema)
      fun c => c.canonicalName = TypeTable.modelType package entity := by
  have hnone := Option.or_none (o := cause? s.registry package entity schema)
  rw [parse_eq, ← hnone]
  refine foretold_bind (reads_assemble package entity schema)
    (foretold_assemble s package entity schema) fun c hc => ?_
  refine (foretold_enroll (parsed c) hc.2).imp fun d hd => ?_
  rw [hd, hc.1]

structure Makeable (registry : Registry) (package entity : String) (schema : Json) : Prop where
  readable : ModelSchema.Readable schema
  fresh : registry.contains (TypeTable.modelType package entity) = false
  properties : ∀ p ∈ (ModelSchema.parts schema).properties, IsProperty p
  relations : ∀ r ∈ (ModelSchema.parts schema).relations, IsPath r.2

inductive FirstCause (registry : Registry) (package entity : String) (schema : Json) :
    GenError → Prop
  | unreadable {fault : SchemaFault} (h : ModelSchema.ReadFault schema fault) :
    FirstCause registry package entity schema (.invalidSchema entity fault)
  | registered (readable : ModelSchema.Readable schema)
    (h : registry.contains (TypeTable.modelType package entity) = true) :
    FirstCause registry package entity schema
      (.duplicateClass (TypeTable.modelType package entity))
  | property {before after : List (String × Json)} {p : String × Json} {fault : SchemaFault}
    (readable : ModelSchema.Readable schema)
    (fresh : registry.contains (TypeTable.modelType package entity) = false)
    (properties : (ModelSchema.parts schema).properties = before ++ p :: after)
    (first : ∀ q ∈ before, IsProperty q) (h : PropertyFault p fault) :
    FirstCause registry package entity schema (.invalidSchema entity fault)
  | relation {before after : List (String × Json)} {r : String × Json}
    (readable : ModelSchema.Readable schema)
    (fresh : registry.contains (TypeTable.modelType package entity) = false)
    (properties : ∀ p ∈ (ModelSchema.parts schema).properties, IsProperty p)
    (relations : (ModelSchema.parts schema).relations = before ++ r :: after)
    (first : ∀ q ∈ before, IsPath q.2) (h : ¬IsPath r.2) :
    FirstCause registry package entity schema
      (.malformedLinkedData (TypeTable.modelType package entity) r.1)

section Deciding

variable {registry : Registry} {e : GenError}

theorem propertyError?_eq_none_iff :
    propertyError? entity property = none ↔ IsProperty property := by
  rw [propertyError?, Option.map_eq_none_iff, propertyFault?_eq_none_iff]

theorem propertyError?_eq_some_iff : propertyError? entity property = some e ↔
    ∃ fault, PropertyFault property fault ∧ .invalidSchema entity fault = e := by
  rw [propertyError?, Option.map_eq_some_iff]
  simp only [propertyFault?_eq_some_iff]

theorem relationError?_eq_none_iff :
    relationError? canonical relation = none ↔ IsPath relation.2 := by
  rw [relationError?, ← isSome_path?_iff]
  cases (path? relation.2).isSome <;> simp

theorem relationError?_eq_some_iff : relationError? canonical relation = some e ↔
    ¬IsPath relation.2 ∧ e = .malformedLinkedData canonical relation.1 := by
  rw [relationError?, ← isSome_path?_iff]
  cases (path? relation.2).isSome <;> simp [eq_comm]

theorem cause?_eq_none_iff :
    cause? registry package entity schema = none ↔ Makeable registry package entity schema := by
  simp only [cause?, Option.or_eq_none_iff, Option.map_eq_none_iff, List.findSome?_eq_none_iff,
    ModelSchema.readFault?_eq_none_iff, duplicate?_eq_none_iff, propertyError?_eq_none_iff,
    relationError?_eq_none_iff]
  constructor
  · rintro ⟨hreadable, hfresh, hproperties, hrelations⟩
    exact ⟨hreadable, hfresh, hproperties, hrelations⟩
  · rintro ⟨hreadable, hfresh, hproperties, hrelations⟩
    exact ⟨hreadable, hfresh, hproperties, hrelations⟩

theorem cause?_eq_some_iff :
    cause? registry package entity schema = some e ↔
      FirstCause registry package entity schema e := by
  simp only [cause?, Option.or_eq_some_iff, Option.map_eq_some_iff, Option.map_eq_none_iff,
    List.findSome?_eq_some_iff, List.findSome?_eq_none_iff, ModelSchema.readFault?_eq_none_iff,
    ModelSchema.readFault?_eq_some_iff, duplicate?_eq_none_iff, duplicate?_eq_some_iff,
    propertyError?_eq_none_iff, propertyError?_eq_some_iff, relationError?_eq_none_iff,
    relationError?_eq_some_iff]
  constructor
  · rintro (⟨fault, h, rfl⟩ | ⟨hreadable, ⟨h, rfl⟩ | ⟨hfresh,
      ⟨before, p, after, hproperties, ⟨fault, h, rfl⟩, hfirst⟩ |
      ⟨hall, before, r, after, hrelations, ⟨h, rfl⟩, hfirst⟩⟩⟩)
    · exact .unreadable h
    · exact .registered hreadable h
    · exact .property hreadable hfresh hproperties hfirst h
    · exact .relation hreadable hfresh hall hrelations hfirst h
  · intro h
    cases h with
    | unreadable h => exact .inl ⟨_, h, rfl⟩
    | registered hreadable h => exact .inr ⟨hreadable, .inl ⟨h, rfl⟩⟩
    | property hreadable hfresh hproperties hfirst h =>
      exact .inr ⟨hreadable, .inr ⟨hfresh, .inl ⟨_, _, _, hproperties, ⟨_, h, rfl⟩, hfirst⟩⟩⟩
    | relation hreadable hfresh hall hrelations hfirst h =>
      exact .inr ⟨hreadable, .inr ⟨hfresh, .inr ⟨hall, _, _, _, hrelations, ⟨h, rfl⟩, hfirst⟩⟩⟩

end Deciding

theorem synthesize_of_path {services : Json} {path : List String} (owner : ClassDecl)
    (package relation : String) (s : Session) (h : path? services = some path) :
    ∃ p, ((Navigation.synthesize owner package relation path).run s).result = .ok p := by
  obtain ⟨last, hlast⟩ := getLast?_of_path? h
  rw [Navigation.run_synthesize hlast]
  exact ⟨_, rfl⟩

/-- A class that was new when it was begun is still new when it is registered. -/
theorem register_of_assemble {c : ClassDecl}
    (h : ((assemble package entity schema).run s).result = .ok c) :
    ((register c.canonicalName).run ((assemble package entity schema).run s).session).result =
      .ok () := by
  have hforetold := foretold_assemble s package entity schema
  rw [reads_assemble package entity schema s, run_register]
  cases hcause : cause? s.registry package entity schema with
  | some e =>
    rw [hcause] at hforetold
    have herror : ((assemble package entity schema).run s).result = .error e := hforetold
    rw [h] at herror
    cases herror
  | none =>
    rw [hcause] at hforetold
    obtain ⟨d, hd, -, hfresh⟩ := hforetold
    obtain rfl := Except.ok.inj (h.symm.trans hd)
    rw [hfresh]
    rfl

/-- A schema has its class exactly where nothing stands in the way, and otherwise the first cause is
reported. Neither navigation nor registration ever fails once it is come to. -/
theorem parse_reports_first_cause (s : Session) (package entity : String) (schema : Json) :
    (∀ e, ((parse package entity schema).run s).result = .error e ↔
        FirstCause s.registry package entity schema e) ∧
      ((∃ c, ((parse package entity schema).run s).result = .ok c) ↔
        Makeable s.registry package entity schema) ∧
      (∀ (owner : ClassDecl) (relation : String × Json) (path : List String) (t : Session),
        path? relation.2 = some path →
        ∃ p, ((Navigation.synthesize owner package relation.1 path).run t).result = .ok p) ∧
      (parse package entity schema =
          assemble package entity schema >>= fun c => enroll c (parsed c)) ∧
      ∀ c, ((assemble package entity schema).run s).result = .ok c →
        ((register c.canonicalName).run ((assemble package entity schema).run s).session).result =
          .ok () := by
  have hforetold := foretold_parse s package entity schema
  refine ⟨fun e => ?_, ?_, fun owner relation path t h => ?_, parse_eq package entity schema,
    fun c h => ?_⟩
  · rw [hforetold.result_eq_error_iff, cause?_eq_some_iff]
  · rw [hforetold.exists_ok_iff, cause?_eq_none_iff]
  · exact synthesize_of_path owner package relation.1 t h
  · exact register_of_assemble h

def faultyOrder : Json :=
  .object
    [("properties", .object [("id", .object []), ("--", .object []), ("total", .null)]),
      ("$linkedData", .object [("items", .array []), ("buyer", .array [.text "buyers"])])]

theorem first_cause_of_faultyOrder :
    let s := Session.new {} fun _ => none
    ((parse "api" "order" faultyOrder).run s).result =
        .error (.invalidSchema "order" (.propertyUnnamed "--")) ∧
      (∃ c, ((parse "api" "order" (.object [])).run s).result = .ok c) ∧
      (∃ p, ((Navigation.synthesize (start {} "api" "order" none) "api" "buyer" ["buyers"]).run
        s).result = .ok p) ∧
      ∃ c, ((assemble "api" "order" (.object [])).run s).result = .ok c ∧
        ((register c.canonicalName).run
          ((assemble "api" "order" (.object [])).run s).session).result = .ok () := by
  intro s
  obtain ⟨hfails, -, hpath, -, -⟩ := parse_reports_first_cause s "api" "order" faultyOrder
  obtain ⟨-, hmakes, -, -, hregisters⟩ := parse_reports_first_cause s "api" "order" (.object [])
  have hfault : PropertyFault ("--", Json.object []) (.propertyUnnamed "--") :=
    .unnamed rfl (Naming.fieldName_eq_empty_iff.mp (by decide +kernel))
  have hfirst : ∀ q ∈ [("id", Json.object [])], IsProperty q := by
    intro q hq
    obtain rfl := List.mem_singleton.mp hq
    exact ⟨⟨[], rfl⟩, 'i', by decide, by decide⟩
  have hassembled :
      ((assemble "api" "order" (.object [])).run s).result.toOption.isSome = true := by
    decide +kernel
  simp only [Option.isSome_iff_exists, toOption_eq_some] at hassembled
  obtain ⟨c, hc⟩ := hassembled
  refine ⟨(hfails _).mpr (.property ?_ rfl rfl hfirst hfault), hmakes.mpr ?_,
    hpath _ ("buyer", .array [.text "buyers"]) ["buyers"] s (by decide), c, hc, hregisters c hc⟩
  · exact ModelSchema.readFault?_eq_none_iff.mp rfl
  · exact ⟨ModelSchema.readFault?_eq_none_iff.mp rfl, rfl,
      fun _ hp => absurd hp List.not_mem_nil, fun _ hr => absurd hr List.not_mem_nil⟩

end ModelClass

end ClientGen
